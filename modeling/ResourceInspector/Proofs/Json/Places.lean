import ResourceInspector.Proofs.Json.Members
import ResourceInspector.Proofs.Text.Bytes
/-!
# Places in a value

A place in a value is the path of keys that leads to it from the top. `at?` follows a path, and
`entries` lists all places below the top with what stands there: just the paths that lead somewhere
(`mem_entries_iff`), each once, and in the order of reading, in which a collection comes before its
parts and the parts of a collection come in the order of their keys (`pairwise_entries`).

Arrays and objects are alike in this. What is proved of a value by way of its parts is proved with
`induction_parts`.
-/

namespace ResourceInspector.Json

/-! ## Parts -/

/-- What tells the parts of a collection apart. -/
inductive Key where
  | item (index : Nat)
  | member (name : String)
deriving Repr, DecidableEq

/-- Items come in the order of their positions, and members in the order of the bytes of their
names. -/
inductive Key.Before : Key → Key → Prop
  | item {i j : Nat} : i < j → Before (.item i) (.item j)
  | member {m n : String} : Text.bytes m < Text.bytes n → Before (.member m) (.member n)

/-- The parts of a collection with their keys. -/
def parts : Json → List (Key × Json)
  | .array items => items.zipIdx.map fun (item, index) => (.item index, item)
  | .object members => members.map fun (name, value) => (.member name, value)
  | _ => []

def part? : Json → Key → Option Json
  | .array items, .item index => items[index]?
  | .object members, .member name => Members.find? members name
  | _, _ => none

/-- What stands at the end of a path. -/
def at? (value : Json) : List Key → Option Json
  | [] => some value
  | key :: path => (value.part? key).bind fun part => part.at? path

/-- The names of every object are in order. -/
inductive Ordered : Json → Prop
  | null : Ordered .null
  | bool (b : Bool) : Ordered (.bool b)
  | number (n : Json.Number) : Ordered (.number n)
  | string (s : String) : Ordered (.string s)
  | array {items : List Json} : (∀ item ∈ items, Ordered item) → Ordered (.array items)
  | object {members : Members} : Members.Ordered members → (∀ member ∈ members, Ordered member.2) →
      Ordered (.object members)

section

variable {value part : Json} {key : Key} {items : List Json} {members : Members}

/-- The parts of an array are its items, each under its index. -/
theorem mem_parts_array :
    (key, part) ∈ (array items).parts ↔ ∃ index, key = .item index ∧ items[index]? = some part := by
  simp only [parts, List.mem_map, Prod.exists, List.mem_zipIdx_iff_getElem?, Prod.mk.injEq]
  constructor
  · rintro ⟨item, index, hitem, rfl, rfl⟩
    exact ⟨index, rfl, hitem⟩
  · rintro ⟨index, rfl, hitem⟩
    exact ⟨part, index, hitem, rfl, rfl⟩

theorem mem_parts_object :
    (key, part) ∈ (object members).parts ↔ ∃ name, key = .member name ∧ (name, part) ∈ members := by
  simp only [parts, List.mem_map, Prod.exists, Prod.mk.injEq]
  constructor
  · rintro ⟨name, value, hmember, rfl, rfl⟩
    exact ⟨name, rfl, hmember⟩
  · rintro ⟨name, rfl, hmember⟩
    exact ⟨name, part, hmember, rfl, rfl⟩

/-- A part is smaller than what it is a part of. Inductions on values rest on this. -/
theorem sizeOf_lt_of_mem_parts (h : (key, part) ∈ value.parts) : sizeOf part < sizeOf value := by
  cases value with
  | null | bool | number | string => simp [parts] at h
  | array items =>
    obtain ⟨index, -, hitem⟩ := mem_parts_array.1 h
    have hlt := List.sizeOf_lt_of_mem (List.mem_of_getElem? hitem)
    simp only [array.sizeOf_spec]
    omega
  | object members =>
    obtain ⟨name, -, hmember⟩ := mem_parts_object.1 h
    have hlt := List.sizeOf_lt_of_mem hmember
    simp only [object.sizeOf_spec, Prod.mk.sizeOf_spec] at hlt ⊢
    omega

/-- What holds of a value when it holds of all its parts holds of every value. -/
theorem induction_parts {motive : Json → Prop}
    (step : ∀ value, (∀ key part, (key, part) ∈ value.parts → motive part) → motive value)
    (value : Json) : motive value := by
  induction hsize : sizeOf value using Nat.strong_induction_on generalizing value with
  | _ size ih =>
    refine step value fun key part hpart => ?_
    exact ih (sizeOf part) (hsize ▸ sizeOf_lt_of_mem_parts hpart) part rfl

/-- Where names are in order at every level, they are so in each part. -/
theorem Ordered.of_mem_parts (h : value.Ordered) (hpart : (key, part) ∈ value.parts) :
    part.Ordered := by
  cases h with
  | null | bool | number | string => simp [parts] at hpart
  | array hitems =>
    obtain ⟨index, -, hitem⟩ := mem_parts_array.1 hpart
    exact hitems part (List.mem_of_getElem? hitem)
  | object _ hvalues =>
    obtain ⟨name, -, hmember⟩ := mem_parts_object.1 hpart
    exact hvalues (name, part) hmember

/-- The parts are what stands under the keys. -/
theorem mem_parts_iff (h : value.Ordered) :
    (key, part) ∈ value.parts ↔ value.part? key = some part := by
  cases h with
  | null | bool | number | string => simp [parts, part?]
  | array _ =>
    rw [mem_parts_array]
    cases key <;> simp [part?]
  | object hordered _ =>
    rw [mem_parts_object]
    cases key <;> simp [part?, hordered.find?_eq_some_iff]

/-- The parts are in the order of their keys. -/
theorem pairwise_parts (h : value.Ordered) : value.parts.Pairwise fun p q => p.1.Before q.1 := by
  cases h with
  | null | bool | number | string => exact List.Pairwise.nil
  | @array items _ =>
    have hindices : items.zipIdx.Pairwise fun p q => p.2 < q.2 := by
      rw [← List.pairwise_map, List.zipIdx_map_snd]
      exact List.pairwise_lt_range'
    exact List.pairwise_map.2 (hindices.imp Key.Before.item)
  | object hordered _ =>
    exact List.pairwise_map.2 (hordered.imp fun hlt => .member (Text.lt_iff_bytes_lt.1 hlt))

end

/-! ## Entries -/

/-- A place below the top of a value, as the keys of the collections around it and its own key, with
what stands there. -/
structure Entry where
  above : List Key
  key : Key
  value : Json

namespace Entry

/-- The path that leads to an entry. -/
def path (e : Entry) : List Key :=
  e.above ++ [e.key]

/-- An entry of a part as one of the collection. -/
def under (key : Key) (e : Entry) : Entry :=
  { e with above := key :: e.above }

theorem path_under (key : Key) (e : Entry) : (e.under key).path = key :: e.path := rfl

end Entry

mutual

/-- The entries of a value, in the order of reading. -/
def entries : Json → List Entry
  | .array items => itemEntries 0 items
  | .object members => memberEntries members
  | _ => []

/-- The entries of the items of an array from a position on. -/
def itemEntries (index : Nat) : List Json → List Entry
  | [] => []
  | item :: rest =>
    ⟨[], .item index, item⟩ :: (entries item).map (.under (.item index))
      ++ itemEntries (index + 1) rest

/-- The entries of the members of an object. -/
def memberEntries : List (String × Json) → List Entry
  | [] => []
  | (name, value) :: rest =>
    ⟨[], .member name, value⟩ :: (entries value).map (.under (.member name)) ++ memberEntries rest

end

/-- The entries of one part: its own, and those that it has. -/
def partEntries (part : Key × Json) : List Entry :=
  ⟨[], part.1, part.2⟩ :: part.2.entries.map (.under part.1)

theorem itemEntries_eq (index : Nat) (items : List Json) :
    itemEntries index items =
      ((items.zipIdx index).map fun (item, i) => (Key.item i, item)).flatMap partEntries := by
  induction items generalizing index with
  | nil => rw [itemEntries]; rfl
  | cons item rest ih => rw [itemEntries, ih]; rfl

theorem memberEntries_eq (members : List (String × Json)) :
    memberEntries members =
      (members.map fun (name, value) => (Key.member name, value)).flatMap partEntries := by
  induction members with
  | nil => rw [memberEntries]; rfl
  | cons member rest ih => rw [memberEntries, ih]; rfl

/-- The entries of a value are those of its parts. -/
theorem entries_eq (value : Json) : value.entries = value.parts.flatMap partEntries := by
  cases value with
  | null | bool | number | string => simp [entries, parts]
  | array items => rw [entries, itemEntries_eq]; rfl
  | object members => rw [entries, memberEntries_eq]; rfl

section

variable {value : Json} {part : Key × Json}

/-- The entry of a part itself has nothing above it. -/
theorem mk_nil_mem_partEntries {key : Key} :
    ⟨[], key, value⟩ ∈ partEntries part ↔ part = (key, value) := by
  rcases part with ⟨k, p⟩
  simp [partEntries, Entry.under, eq_comm]

/-- The other entries of a part are those of its value, below the key of the part. -/
theorem mk_cons_mem_partEntries {k key : Key} {above : List Key} :
    ⟨k :: above, key, value⟩ ∈ partEntries part ↔
      part.1 = k ∧ ⟨above, key, value⟩ ∈ part.2.entries := by
  rcases part with ⟨k', p⟩
  constructor
  · intro h
    rcases List.mem_cons.1 h with h | h
    · cases h
    · obtain ⟨e, he, heq⟩ := List.mem_map.1 h
      cases heq
      exact ⟨rfl, he⟩
  · rintro ⟨rfl, h⟩
    exact List.mem_cons_of_mem _ (List.mem_map_of_mem (f := Entry.under k') h)

/-- The entries are the places that paths lead to. -/
theorem mem_entries_iff (h : value.Ordered) (e : Entry) :
    e ∈ value.entries ↔ value.at? e.path = some e.value := by
  obtain ⟨above, key, v⟩ := e
  show _ ∈ value.entries ↔ value.at? (above ++ [key]) = some v
  -- down the path, one collection after the other
  induction above generalizing value with
  | nil =>
    simp only [entries_eq, List.mem_flatMap, mk_nil_mem_partEntries, exists_eq_right,
      mem_parts_iff h]
    simp [at?]
  | cons k above ih =>
    rw [entries_eq, List.mem_flatMap, List.cons_append, at?, Option.bind_eq_some_iff]
    constructor
    · rintro ⟨⟨key', part⟩, hpart, hmem⟩
      obtain ⟨rfl, hbelow⟩ := mk_cons_mem_partEntries.1 hmem
      exact ⟨part, (mem_parts_iff h).1 hpart, (ih (h.of_mem_parts hpart)).1 hbelow⟩
    · rintro ⟨part, hpart, hat⟩
      have hpart : (k, part) ∈ value.parts := (mem_parts_iff h).2 hpart
      have hbelow := (ih (h.of_mem_parts hpart)).2 hat
      exact ⟨(k, part), hpart, mk_cons_mem_partEntries.2 ⟨rfl, hbelow⟩⟩

theorem path_ne_nil (e : Entry) : e.path ≠ [] := by
  simp [Entry.path]

/-- The path to an entry of a part starts with the key of the part. -/
theorem path_eq_of_mem_partEntries {e : Entry} (h : e ∈ partEntries part) :
    ∃ rest, e.path = part.1 :: rest := by
  rcases List.mem_cons.1 h with rfl | h
  · exact ⟨[], rfl⟩
  · obtain ⟨e, -, rfl⟩ := List.mem_map.1 h
    exact ⟨e.path, rfl⟩

/-- The entries are in the lexicographic order of their paths, so that none occurs twice. -/
theorem pairwise_entries (h : value.Ordered) :
    value.entries.Pairwise fun e f => List.Lex Key.Before e.path f.path := by
  induction value using induction_parts with
  | step value ih =>
    rw [entries_eq, List.pairwise_flatMap]
    constructor
    · rintro ⟨key, part⟩ hpart
      refine List.pairwise_cons.2 ⟨?_, List.pairwise_map.2 ?_⟩
      · -- the part itself comes before all that it has
        intro f hf
        obtain ⟨e, -, rfl⟩ := List.mem_map.1 hf
        obtain ⟨first, rest, hpath⟩ := List.exists_cons_of_ne_nil (path_ne_nil e)
        rw [Entry.path_under, hpath]
        exact .cons .nil
      · exact (ih key part hpart (h.of_mem_parts hpart)).imp .cons
    · refine (pairwise_parts h).imp ?_
      intro p q hbefore e he f hf
      obtain ⟨_, hp⟩ := path_eq_of_mem_partEntries he
      obtain ⟨_, hq⟩ := path_eq_of_mem_partEntries hf
      rw [hp, hq]
      exact .rel hbefore

end

end ResourceInspector.Json
