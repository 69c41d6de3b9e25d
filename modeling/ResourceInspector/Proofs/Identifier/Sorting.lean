import Mathlib.Data.List.Sort
import Mathlib.Logic.Relation
import ResourceInspector.Identifier.Collection
import ResourceInspector.Proofs.Except
import ResourceInspector.Proofs.NaturalOrder.Order
import ResourceInspector.Proofs.StableSort
/-!
# Sorted collections

A collection sorts by group, and keeps the order of the entries of one group. Since groups that tie
are the same group, that leaves no choice: `sort_stable` says that sorting is the only rearrangement
that has the groups in order and keeps the order inside each of them, and that a caller who compares
neighbours only can tell.
-/

namespace ResourceInspector.Identifier

/-! ## The order of groups -/

theorem groupLe_trans (a b c : Identifier) (hab : groupLe a b = true) (hbc : groupLe b c = true) :
    groupLe a c = true :=
  NaturalOrder.le_trans hab hbc

theorem groupLe_total (a b : Identifier) : (groupLe a b || groupLe b a) = true :=
  NaturalOrder.le_total a.group b.group

theorem groupLe_of_group_eq {a b : Identifier} (h : a.group = b.group) : groupLe a b = true := by
  have htotal := groupLe_total b a
  unfold groupLe at *
  rw [h] at htotal ⊢
  simpa using htotal

namespace Collection

variable {c d : Collection} {i j : Nat}

/-- The groups of the entries, in the order of the entries. -/
def groups (c : Collection) : List String :=
  c.toList.map (·.group)

def ofGroup (group : String) (c : Collection) : List Identifier :=
  c.toList.filter (·.group = group)

/-- The groups of the entries are in order. -/
def Sorted (c : Collection) : Prop :=
  c.toList.Pairwise (fun a b => groupLe a b = true)

/-! ## Looking at positions -/

theorem get_eq_ok_iff {id : Identifier} : c.get i = .ok id ↔ c.get? i = some id := by
  unfold get
  cases c.get? i <;> simp

/-- Two entries that are there are compared by their groups, and by nothing else. -/
theorem less_eq_ok_iff {b : Bool} :
    c.less i j = .ok b ↔
      ∃ x y, c.get? i = some x ∧ c.get? j = some y ∧ NaturalOrder.less x.group y.group = b := by
  unfold less
  simp only [bind_eq_ok_iff, get_eq_ok_iff]
  constructor
  · rintro ⟨x, hx, y, hy, hless⟩
    exact ⟨x, y, hx, hy, Except.ok.inj hless⟩
  · rintro ⟨x, y, hx, hy, rfl⟩
    exact ⟨x, hx, y, hy, rfl⟩

/-- An entry does not come before another just when the other does not come after it. -/
theorem less_eq_false_iff (hi : i < c.toList.length) (hj : j < c.toList.length) :
    c.less j i = .ok false ↔ groupLe c.toList[i] c.toList[j] = true := by
  have hx : c.get? i = some c.toList[i] := List.getElem?_eq_getElem hi
  have hy : c.get? j = some c.toList[j] := List.getElem?_eq_getElem hj
  rw [less_eq_ok_iff, hx, hy]
  unfold groupLe
  rw [NaturalOrder.le_iff_less_eq_false]
  simp

/-- A collection is sorted when no entry comes before an earlier one. -/
theorem sorted_iff : c.Sorted ↔ ∀ i j, i < j → j < c.size → c.less j i = .ok false := by
  unfold Sorted
  rw [List.pairwise_iff_getElem]
  constructor
  · intro h i j hij hj
    have hi : i < c.toList.length := Nat.lt_trans hij hj
    exact (less_eq_false_iff hi hj).2 (h i j hi hj hij)
  · intro h i j hi hj hij
    exact (less_eq_false_iff hi hj).1 (h i j hij hj)

/-- It is enough to compare neighbours. -/
theorem sorted_iff_adjacent : c.Sorted ↔ ∀ i, i + 1 < c.size → c.less (i + 1) i = .ok false := by
  have htrans : Trans (fun a b => groupLe a b = true) (fun a b => groupLe a b = true)
      (fun a b => groupLe a b = true) := ⟨groupLe_trans _ _ _⟩
  unfold Sorted
  rw [← List.isChain_iff_pairwise, List.isChain_iff_getElem]
  constructor
  · intro h i hi
    exact (less_eq_false_iff (Nat.lt_of_succ_lt hi) hi).2 (h i hi)
  · intro h i hi
    exact (less_eq_false_iff (Nat.lt_of_succ_lt hi) hi).1 (h i hi)

/-! ## Rearrangements -/

/-- An exchange loses no entry. -/
theorem perm_of_swap (h : c.swap i j = .ok d) : d.toList.Perm c.toList := by
  unfold swap at h
  obtain ⟨a, ha, h⟩ := bind_eq_ok_iff.1 h
  obtain ⟨b, hb, h⟩ := bind_eq_ok_iff.1 h
  obtain rfl := Except.ok.inj h
  obtain ⟨hi, rfl⟩ := List.getElem?_eq_some_iff.1 (get_eq_ok_iff.1 ha)
  obtain ⟨hj, rfl⟩ := List.getElem?_eq_some_iff.1 (get_eq_ok_iff.1 hb)
  exact List.set_set_perm hi hj

/-- One collection becomes the other by exchanging entries, two at a time. -/
def Exchanged : Collection → Collection → Prop :=
  Relation.ReflTransGen fun c d => ∃ i j, c.swap i j = .ok d

theorem Exchanged.perm (h : Exchanged c d) : d.toList.Perm c.toList := by
  induction h with
  | refl => exact List.Perm.refl _
  | tail _ hswap ih =>
    obtain ⟨i, j, hswap⟩ := hswap
    exact (perm_of_swap hswap).trans ih

theorem ofGroup_eq_nil {group : String} (h : group ∉ c.groups) : c.ofGroup group = [] := by
  unfold ofGroup
  rw [List.filter_eq_nil_iff]
  intro id hid hgroup
  have hgroup : id.group = group := of_decide_eq_true hgroup
  exact h (hgroup ▸ List.mem_map_of_mem hid)

/-- Whether the order inside the groups was kept can be told from the groups that occur. -/
theorem ofGroup_eq_of_perm (hperm : d.toList.Perm c.toList)
    (hsame : ∀ group ∈ c.groups, d.ofGroup group = c.ofGroup group) (group : String) :
    d.ofGroup group = c.ofGroup group := by
  by_cases hmem : group ∈ c.groups
  · exact hsame group hmem
  · have hmem' : group ∉ d.groups := by
      intro hd
      exact hmem ((hperm.map _).mem_iff.1 hd)
    rw [ofGroup_eq_nil hmem, ofGroup_eq_nil hmem']

/-- Sorted collections of the same entries have the same groups in the same order. -/
theorem groups_eq_of_perm (hperm : d.toList.Perm c.toList) (hd : d.Sorted) (hc : c.Sorted) :
    d.groups = c.groups := by
  have hantisymm : ∀ g g', g ∈ d.groups → g' ∈ c.groups →
      NaturalOrder.le g g' = true → NaturalOrder.le g' g = true → g = g' :=
    fun _ _ _ _ => NaturalOrder.le_antisymm
  exact List.Perm.eq_of_pairwise hantisymm (List.pairwise_map.2 hd) (List.pairwise_map.2 hc)
    (hperm.map _)

/-! ## Sorting -/

/-- Sorting neither loses an entry nor adds one. -/
theorem perm_sort (c : Collection) : c.sort.toList.Perm c.toList :=
  List.mergeSort_perm c.toList groupLe

/-- After sorting the groups are in order. -/
theorem sorted_sort (c : Collection) : c.sort.Sorted :=
  List.pairwise_mergeSort groupLe_trans groupLe_total c.toList

/-- Sorting keeps the entries of one group in the order they had. -/
theorem ofGroup_sort (group : String) (c : Collection) :
    c.sort.ofGroup group = c.ofGroup group := by
  apply StableSort.filter_mergeSort groupLe_trans groupLe_total
  intro a b ha hb
  have ha : a.group = group := of_decide_eq_true ha
  have hb : b.group = group := of_decide_eq_true hb
  exact groupLe_of_group_eq (ha.trans hb.symm)

/-- A sorted collection of the same entries, with the entries of each group in their order, is what
sorting gives. -/
theorem eq_sort (hperm : d.toList.Perm c.toList) (hd : d.Sorted)
    (hsame : ∀ group, d.ofGroup group = c.ofGroup group) : d = c.sort := by
  have hgroups : d.groups = c.sort.groups :=
    groups_eq_of_perm (hperm.trans (perm_sort c).symm) hd (sorted_sort c)
  have hentries : d.toList = c.sort.toList := by
    refine StableSort.eq_of_map_eq_of_filter_eq hgroups fun group => ?_
    exact (hsame group).trans (ofGroup_sort group c).symm
  cases d
  exact congrArg Collection.mk hentries

/-- Between two entries of a group in a sorted collection there are only entries of that group. -/
theorem Sorted.group_eq (h : c.Sorted) {k : Nat} {x y z : Identifier} (hij : i ≤ j) (hjk : j ≤ k)
    (hx : c.get? i = some x) (hy : c.get? j = some y) (hz : c.get? k = some z)
    (hgroup : x.group = z.group) : y.group = x.group := by
  have hle : ∀ {i j : Nat} {x y : Identifier}, i ≤ j → c.get? i = some x → c.get? j = some y →
      groupLe x y = true := by
    intro i j x y hij hx hy
    obtain ⟨hi, rfl⟩ := List.getElem?_eq_some_iff.1 hx
    obtain ⟨hj, rfl⟩ := List.getElem?_eq_some_iff.1 hy
    rcases Nat.lt_or_eq_of_le hij with hlt | rfl
    · exact List.pairwise_iff_getElem.1 h i j hi hj hlt
    · exact groupLe_of_group_eq rfl
  have hxy : groupLe x y = true := hle hij hx hy
  have hyx : NaturalOrder.le y.group x.group = true := hgroup ▸ hle hjk hy hz
  exact NaturalOrder.le_antisymm hyx hxy

/-- Sorting is the stable sort by natural order of groups. It keeps the entries, puts the groups in
order and each of them in one place, and keeps the order inside each. Sorting again changes nothing.
Whoever rearranges the entries, by exchanges or otherwise, until no entry comes before its
predecessor has the groups in the order that sorting puts them in, and has what sorting gives if the
entries of each group kept their order. -/
theorem sort_stable (c : Collection) :
    c.sort.toList.Perm c.toList ∧
    (∀ i j, i < j → j < c.size → c.sort.less j i = .ok false) ∧
    -- the entries of one group stand together, in the order they had
    (∀ i j k x y z, i ≤ j → j ≤ k → c.sort.get? i = some x → c.sort.get? j = some y →
      c.sort.get? k = some z → x.group = z.group → y.group = x.group) ∧
    (∀ group, c.sort.ofGroup group = c.ofGroup group) ∧
    c.sort.sort = c.sort ∧
    -- other arrangements of the entries
    (∀ d : Collection, d.toList.Perm c.toList →
      (∀ i, i + 1 < d.size → d.less (i + 1) i = .ok false) →
      d.groups = c.sort.groups ∧ ((∀ group, d.ofGroup group = c.ofGroup group) → d = c.sort)) ∧
    (∀ d, Exchanged c d → d.toList.Perm c.toList) := by
  have hsorted : c.sort.Sorted := sorted_sort c
  refine ⟨perm_sort c, ?_, ?_, fun group => ofGroup_sort group c, ?_, ?_, fun d => Exchanged.perm⟩
  · intro i j hij hj
    exact sorted_iff.1 hsorted i j hij (hj.trans_eq (perm_sort c).length_eq.symm)
  · intro i j k x y z hij hjk hx hy hz hgroup
    exact hsorted.group_eq hij hjk hx hy hz hgroup
  · exact (eq_sort (List.Perm.refl _) hsorted fun _ => rfl).symm
  · intro d hperm hadjacent
    have hd : d.Sorted := sorted_iff_adjacent.2 hadjacent
    exact ⟨groups_eq_of_perm (hperm.trans (perm_sort c).symm) hd hsorted, eq_sort hperm hd⟩

/-- Four entries, two of one group. -/
def mixed : Collection :=
  ⟨[⟨"g10/v1/a", "g10", "v1", "a", ""⟩, ⟨"g2/v1/b", "g2", "v1", "b", ""⟩,
    ⟨"g2/v1/c", "g2", "v1", "c", ""⟩, ⟨"v1/d", "", "v1", "d", ""⟩]⟩

/-- The four entries with the first and the last exchanged. -/
def exchanged : Collection :=
  ⟨[⟨"v1/d", "", "v1", "d", ""⟩, ⟨"g2/v1/b", "g2", "v1", "b", ""⟩,
    ⟨"g2/v1/c", "g2", "v1", "c", ""⟩, ⟨"g10/v1/a", "g10", "v1", "a", ""⟩]⟩

/-- One exchange sorts the four entries, which a look at neighbours shows. -/
theorem sort_stable_mixed :
    mixed.swap 0 3 = .ok exchanged ∧
      (∀ i, i + 1 < exchanged.size → exchanged.less (i + 1) i = .ok false) ∧
      (∀ group, exchanged.ofGroup group = mixed.ofGroup group) ∧ exchanged = mixed.sort := by
  have hswap : mixed.swap 0 3 = .ok exchanged := rfl
  have hadjacent : ∀ i, i + 1 < exchanged.size → exchanged.less (i + 1) i = .ok false := by
    have hthree : ∀ i < 3, exchanged.less (i + 1) i = .ok false := by decide +kernel
    exact fun i hi => hthree i (Nat.lt_of_succ_lt_succ hi)
  obtain ⟨_, _, _, _, _, hother, hreached⟩ := sort_stable mixed
  have hperm : exchanged.toList.Perm mixed.toList :=
    hreached exchanged (Relation.ReflTransGen.single ⟨0, 3, hswap⟩)
  have hsame : ∀ group, exchanged.ofGroup group = mixed.ofGroup group :=
    ofGroup_eq_of_perm hperm (by decide)
  exact ⟨hswap, hadjacent, hsame, (hother exchanged hperm hadjacent).2 hsame⟩

end Collection

end ResourceInspector.Identifier
