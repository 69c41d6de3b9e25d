import Mathlib.Data.String.Basic
import ResourceInspector.Json.Basic
/-!
# Members

What is found under a name once a member was inserted or erased, and which members there are once
some were inserted. None of this needs the names to be in order. They are, though, whenever members
are put together by inserting them (`ordered_ofList`), and then each name has its one member.
-/

namespace ResourceInspector.Json

namespace Members

variable {name other : String}

/-! ## Finding members -/

/-- The first member of a name is the one that is found. -/
theorem find?_cons (n : String) (value : Json) (members : Members) (name : String) :
    find? ((n, value) :: members) name = if name = n then some value else members.find? name := by
  rw [find?, List.lookup_cons]
  by_cases h : name = n
  · simp [h]
  · rw [if_neg h, beq_eq_false_iff_ne.2 h]
    rfl

/-- What a name was given is found under it, whether the name was there before or not. -/
@[simp] theorem find?_insert_self (name : String) (value : Json) (members : Members) :
    find? (insert name value members) name = some value := by
  induction members with
  | nil => rw [insert, find?_cons, if_pos rfl]
  | cons entry rest ih =>
    rcases entry with ⟨n, v⟩
    unfold insert
    split
    · rw [find?_cons, if_pos rfl]
    · split
      · rw [find?_cons, if_pos rfl]
      · next hn => rw [find?_cons, if_neg (Ne.symm hn), ih]

/-- To give a name a value makes no difference to the others. -/
theorem find?_insert_of_ne (hne : other ≠ name) (value : Json) (members : Members) :
    find? (insert name value members) other = members.find? other := by
  induction members with
  | nil => rw [insert, find?_cons, if_neg hne]
  | cons entry rest ih =>
    rcases entry with ⟨n, v⟩
    unfold insert
    split
    · rw [find?_cons, if_neg hne]
    · split
      · next hn =>
        -- the entry that makes room is not the one asked for
        rw [find?_cons, find?_cons, hn, if_neg hne, if_neg hne]
      · rw [find?_cons, find?_cons, ih]

@[simp] theorem find?_erase_self (members : Members) (name : String) :
    find? (erase members name) name = none := by
  rw [find?, List.lookup_eq_none_iff]
  intro entry hentry
  have hne : entry.1 ≠ name := of_decide_eq_true (List.mem_filter.1 hentry).2
  exact bne_iff_ne.2 hne.symm

/-- To take a name out makes no difference to the others. -/
theorem find?_erase_of_ne (hne : other ≠ name) (members : Members) :
    find? (erase members name) other = members.find? other := by
  induction members with
  | nil => rfl
  | cons entry rest ih =>
    rcases entry with ⟨n, v⟩
    by_cases hn : n = name
    · have herase : erase ((n, v) :: rest) name = erase rest name := by simp [erase, hn]
      rw [herase, ih, find?_cons, hn, if_neg hne]
    · have herase : erase ((n, v) :: rest) name = (n, v) :: erase rest name := by
        simp [erase, hn]
      rw [herase, find?_cons, find?_cons, ih]

/-- The names are in order, and so no name occurs twice. -/
def Ordered (members : Members) : Prop :=
  members.Pairwise fun a b => a.1 < b.1

/-- Where no name occurs twice, what is found under a name is what stands beside it. -/
theorem Ordered.find?_eq_some_iff {members : Members} (h : Ordered members) {value : Json} :
    members.find? name = some value ↔ (name, value) ∈ members := by
  induction members with
  | nil => simp [find?]
  | cons entry rest ih =>
    rcases entry with ⟨n, v⟩
    obtain ⟨hfirst, hrest⟩ := List.pairwise_cons.1 h
    rw [find?_cons, List.mem_cons, ← ih hrest, Prod.mk.injEq]
    split
    · next hname =>
      have hnot : find? rest name ≠ some value := by
        intro hfound
        exact lt_irrefl n (hname ▸ hfirst _ ((ih hrest).1 hfound))
      rw [Option.some.injEq, or_iff_left hnot, and_iff_right hname, eq_comm]
    · next hname => rw [or_iff_right fun h => hname h.1]

theorem contains_iff {members : Members} :
    members.contains name = true ↔ name ∈ members.map (·.1) := by
  induction members with
  | nil => simp [contains, find?]
  | cons entry rest ih =>
    rcases entry with ⟨n, v⟩
    unfold contains at ih ⊢
    rw [find?_cons, List.map_cons, List.mem_cons, ← ih]
    split <;> simp [*]

/-! ## Inserting members -/

/-- Gives names values, one after the other. -/
def insertAll (members : Members) (pairs : List (String × Json)) : Members :=
  pairs.foldl (fun members (n, v) => insert n v members) members

section

variable {value : Json} {members : Members} {pair : String × Json} {pairs : List (String × Json)}

theorem mem_map_insert {n : String} :
    n ∈ (insert name value members).map (·.1) ↔ n = name ∨ n ∈ members.map (·.1) := by
  induction members with
  | nil => simp [insert]
  | cons entry rest ih =>
    rcases entry with ⟨m, v⟩
    unfold insert
    split
    · simp
    · split
      · next h => simp [h]
      · simp only [List.map_cons, List.mem_cons, ih]
        exact or_left_comm

/-- A member is the one that was put in, or was there before. -/
theorem eq_or_mem_of_mem_insert (h : pair ∈ insert name value members) :
    pair = (name, value) ∨ pair ∈ members := by
  induction members with
  | nil => exact Or.inl (List.mem_singleton.1 h)
  | cons entry rest ih =>
    rcases entry with ⟨n, v⟩
    unfold insert at h
    split at h
    · exact List.mem_cons.1 h
    · split at h
      · -- the entry that makes room is gone
        exact (List.mem_cons.1 h).imp_right (List.mem_cons_of_mem _)
      · rcases List.mem_cons.1 h with rfl | h
        · exact Or.inr List.mem_cons_self
        · exact (ih h).imp_right (List.mem_cons_of_mem _)

/-- Where a name is looked over, so is a member that is inserted under it. -/
theorem filter_insert (keep : String → Bool) (hname : keep name = false) :
    (insert name value members).filter (keep ·.1) = members.filter (keep ·.1) := by
  induction members with
  | nil => simp [insert, hname]
  | cons entry rest ih =>
    rcases entry with ⟨n, v⟩
    unfold insert
    split
    · simp [hname]
    · split
      · next h => simp [h, hname]
      · simp only [List.filter_cons, ih]

/-- Inserting keeps the names in order. -/
theorem Ordered.insert (h : Ordered members) (name : String) (value : Json) :
    Ordered (Members.insert name value members) := by
  induction members with
  | nil => exact List.pairwise_singleton _ _
  | cons entry rest ih =>
    rcases entry with ⟨n, v⟩
    obtain ⟨hfirst, hrest⟩ := List.pairwise_cons.1 h
    unfold Members.insert
    split
    · next hlt =>
      refine List.pairwise_cons.2 ⟨?_, h⟩
      rintro other hother
      rcases List.mem_cons.1 hother with rfl | hother
      · exact hlt
      · exact hlt.trans (hfirst other hother)
    · next hnot =>
      split
      · next heq => exact List.pairwise_cons.2 ⟨heq ▸ hfirst, hrest⟩
      · next hne =>
        refine List.pairwise_cons.2 ⟨?_, ih hrest⟩
        intro other hother
        rcases eq_or_mem_of_mem_insert hother with rfl | hother
        · exact lt_of_le_of_ne (not_lt.1 hnot) hne
        · exact hfirst other hother

/-- However many values are given, the names stay in order and each of them stays once. -/
theorem Ordered.insertAll (h : Ordered members) (pairs : List (String × Json)) :
    Ordered (members.insertAll pairs) := by
  induction pairs generalizing members with
  | nil => exact h
  | cons first pairs ih => exact ih (h.insert first.1 first.2)

/-- However members are given, those of an object are in order. -/
theorem ordered_ofList (pairs : List (String × Json)) : Ordered (ofList pairs) :=
  Ordered.insertAll List.Pairwise.nil pairs

theorem mem_map_insertAll {n : String} :
    n ∈ (insertAll members pairs).map (·.1) ↔
      n ∈ members.map (·.1) ∨ n ∈ pairs.map (·.1) := by
  induction pairs generalizing members with
  | nil => simp [insertAll]
  | cons first pairs ih =>
    show n ∈ (insertAll (insert first.1 first.2 members) pairs).map (·.1) ↔ _
    rw [ih, mem_map_insert, List.map_cons, List.mem_cons]
    tauto

/-- A member was there before or is one of those that were given. -/
theorem mem_or_mem_of_mem_insertAll (h : pair ∈ insertAll members pairs) :
    pair ∈ members ∨ pair ∈ pairs := by
  induction pairs generalizing members with
  | nil => exact Or.inl h
  | cons first pairs ih =>
    have hrest : pair ∈ insertAll (insert first.1 first.2 members) pairs := h
    rcases ih hrest with h | h
    · rcases eq_or_mem_of_mem_insert h with rfl | h
      · exact Or.inr List.mem_cons_self
      · exact Or.inl h
    · exact Or.inr (List.mem_cons_of_mem _ h)

/-- Values for names that are not kept make no difference to the members that are. -/
theorem filter_insertAll (keep : String → Bool) (hpairs : ∀ pair ∈ pairs, keep pair.1 = false) :
    (insertAll members pairs).filter (keep ·.1) = members.filter (keep ·.1) := by
  induction pairs generalizing members with
  | nil => rfl
  | cons first pairs ih =>
    rcases List.forall_mem_cons.1 hpairs with ⟨hfirst, hpairs⟩
    show (insertAll (insert first.1 first.2 members) pairs).filter (keep ·.1) = _
    rw [ih hpairs, filter_insert keep hfirst]

theorem mem_map_ofList {n : String} : n ∈ (ofList pairs).map (·.1) ↔ n ∈ pairs.map (·.1) := by
  show n ∈ (insertAll [] pairs).map (·.1) ↔ _
  simp [mem_map_insertAll]

/-- Nothing is in the members that was not given. -/
theorem mem_of_mem_ofList (h : pair ∈ ofList pairs) : pair ∈ pairs :=
  have hall : pair ∈ insertAll [] pairs := h
  (mem_or_mem_of_mem_insertAll hall).resolve_left List.not_mem_nil

end

end Members

/-- A value with further members. Only an object takes any. -/
def adding (value : Json) (pairs : List (String × Json)) : Json :=
  match value with
  | .object members => .object (Members.insertAll members pairs)
  | _ => value

end ResourceInspector.Json
