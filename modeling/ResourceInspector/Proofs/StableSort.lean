/-!
# Stable sorting

What a stable sort keeps is said of the elements that tie: taken by themselves they are the same
list before and after (`filter_mergeSort`). Nothing more has to be known of a sorted list besides
the order of its keys (`eq_of_map_eq_of_filter_eq`).
-/

namespace ResourceInspector.StableSort

variable {α κ : Type} {le : α → α → Bool}

/-- Sorting keeps elements that tie in the order they have among each other. They are already
sorted, so the sort has them as a sublist, and it has no others of their class. -/
theorem filter_mergeSort (htrans : ∀ a b c, le a b = true → le b c = true → le a c = true)
    (htotal : ∀ a b, (le a b || le b a) = true) {p : α → Bool}
    (hties : ∀ a b, p a = true → p b = true → le a b = true) (xs : List α) :
    (xs.mergeSort le).filter p = xs.filter p := by
  have hsorted : (xs.filter p).Pairwise (fun a b => le a b = true) := by
    rw [List.pairwise_iff_forall_sublist]
    intro a b hab
    have ha : p a = true := (List.mem_filter.1 (hab.subset (by simp))).2
    have hb : p b = true := (List.mem_filter.1 (hab.subset (by simp))).2
    exact hties a b ha hb
  have hsub : (xs.filter p).Sublist (xs.mergeSort le) :=
    List.sublist_mergeSort htrans htotal hsorted List.filter_sublist
  have hsub' : (xs.filter p).Sublist ((xs.mergeSort le).filter p) := by
    simpa using hsub.filter p
  have hlen : (xs.filter p).length = ((xs.mergeSort le).filter p).length :=
    (((List.mergeSort_perm xs le).filter p).length_eq).symm
  exact (hsub'.eq_of_length hlen).symm

/-- Lists are the same when their keys come in the same order and so do the elements of each key. -/
theorem eq_of_map_eq_of_filter_eq [DecidableEq κ] {key : α → κ} {xs ys : List α}
    (hkeys : xs.map key = ys.map key)
    (hsame : ∀ k, xs.filter (key · = k) = ys.filter (key · = k)) : xs = ys := by
  induction xs generalizing ys with
  | nil => exact (List.map_eq_nil_iff.1 hkeys.symm).symm
  | cons x xs ih =>
    cases ys with
    | nil => simp at hkeys
    | cons y ys =>
      obtain ⟨hkey, hrest⟩ := List.cons.inj hkeys
      -- the first elements have one key, so each is the first of its key
      have hfirst := hsame (key x)
      rw [List.filter_cons_of_pos (by simp), List.filter_cons_of_pos (by simp [hkey])] at hfirst
      obtain ⟨rfl, htail⟩ := List.cons.inj hfirst
      have hsame' : ∀ k, xs.filter (key · = k) = ys.filter (key · = k) := by
        intro k
        by_cases hk : key x = k
        · rw [← hk]
          exact htail
        · have hboth := hsame k
          rwa [List.filter_cons_of_neg (by simpa using hk),
            List.filter_cons_of_neg (by simpa using hk)] at hboth
      rw [ih hrest hsame']

end ResourceInspector.StableSort
