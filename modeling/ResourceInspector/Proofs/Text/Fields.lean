import Mathlib.Data.List.Basic
import ResourceInspector.Text.Fields
/-!
# Fields and the texts they make

The fields of a text are the only parts without separators that make the text (`fields_eq_iff`), and
there is one more of them than there are separators.
-/

namespace ResourceInspector.Text

/-! ## Lists cut at a separator -/

section

variable {α : Type} [DecidableEq α]

theorem not_mem_of_mem_splitOn {a : α} {xs part : List α} (h : part ∈ xs.splitOn a) :
    a ∉ part := by
  induction xs generalizing part with
  | nil =>
    obtain rfl : part = [] := by simpa using h
    exact List.not_mem_nil
  | cons x xs ih =>
    obtain ⟨first, rest, hparts⟩ := List.exists_cons_of_ne_nil (List.splitOn_ne_nil a xs)
    rw [List.splitOn_cons_eq_if_modifyHead, hparts] at h
    rw [hparts] at ih
    split at h
    · rcases List.mem_cons.1 h with rfl | h
      · exact List.not_mem_nil
      · exact ih h
    · next hx =>
      rcases List.mem_cons.1 h with rfl | h
      · have hfirst : a ∉ first := ih List.mem_cons_self
        have hne : a ≠ x := by
          rintro rfl
          exact hx (beq_self_eq_true a)
        simp [hne, hfirst]
      · exact ih (List.mem_cons_of_mem _ h)

theorem length_splitOn (a : α) (xs : List α) : (xs.splitOn a).length = xs.count a + 1 := by
  induction xs with
  | nil => simp
  | cons x xs ih =>
    rw [List.splitOn_cons_eq_if_modifyHead, List.count_cons]
    split <;> simp [ih]

end

/-! ## Fields -/

variable {sep : Char} {s : String} {parts : List String}

theorem fields_ne_nil (sep : Char) (s : String) : fields sep s ≠ [] := by
  simp [fields, List.splitOn_ne_nil]

/-- No field holds a separator. -/
theorem not_mem_of_mem_fields {part : String} (h : part ∈ fields sep s) : sep ∉ part.toList := by
  obtain ⟨chars, hchars, rfl⟩ := List.mem_map.1 h
  rw [String.toList_ofList]
  exact not_mem_of_mem_splitOn hchars

/-- There is one more field than there are separators. -/
theorem length_fields (sep : Char) (s : String) :
    (fields sep s).length = s.toList.count sep + 1 := by
  rw [fields, List.length_map, length_splitOn]

/-- The fields are the parts without separators that make the text. -/
theorem fields_eq_iff :
    fields sep s = parts ↔
      parts ≠ [] ∧ (∀ part ∈ parts, sep ∉ part.toList) ∧ s = joinFields sep parts := by
  constructor
  · rintro rfl
    exact ⟨fields_ne_nil sep s, fun part => not_mem_of_mem_fields, (joinFields_fields sep s).symm⟩
  · rintro ⟨hne, hsep, rfl⟩
    exact fields_joinFields hne hsep

theorem joinFields_singleton (sep : Char) (part : String) : joinFields sep [part] = part := by
  simp [joinFields]

theorem joinFields_cons (sep : Char) (part : String) (hne : parts ≠ []) :
    joinFields sep (part :: parts) = part ++ String.singleton sep ++ joinFields sep parts := by
  obtain ⟨next, rest, rfl⟩ := List.exists_cons_of_ne_nil hne
  rw [← String.toList_inj]
  simp [joinFields, List.intercalate]

theorem joinFields_append (sep : Char) {more : List String} (hparts : parts ≠ [])
    (hmore : more ≠ []) :
    joinFields sep (parts ++ more) =
      joinFields sep parts ++ String.singleton sep ++ joinFields sep more := by
  induction parts with
  | nil => exact absurd rfl hparts
  | cons part parts ih =>
    by_cases hne : parts = []
    · rw [hne, List.singleton_append, joinFields_cons sep part hmore, joinFields_singleton]
    · have hrest : parts ++ more ≠ [] := List.append_ne_nil_of_left_ne_nil hne more
      rw [List.cons_append, joinFields_cons sep part hrest, joinFields_cons sep part hne, ih hne]
      simp only [String.append_assoc]

/-- The fields on both sides of a separator. -/
theorem fields_append (sep : Char) (s t : String) :
    fields sep (s ++ String.singleton sep ++ t) = fields sep s ++ fields sep t := by
  have hs : fields sep s ≠ [] := fields_ne_nil sep s
  have ht : fields sep t ≠ [] := fields_ne_nil sep t
  rw [fields_eq_iff]
  refine ⟨List.append_ne_nil_of_left_ne_nil hs _, ?_, ?_⟩
  · intro part hpart
    rcases List.mem_append.1 hpart with hpart | hpart
    · exact not_mem_of_mem_fields hpart
    · exact not_mem_of_mem_fields hpart
  · rw [joinFields_append sep hs ht, joinFields_fields, joinFields_fields]

/-- The fields of a joined text are those of its parts, one part after the other. -/
theorem fields_joinFields_eq_flatMap (sep : Char) (hparts : parts ≠ []) :
    fields sep (joinFields sep parts) = parts.flatMap (fields sep) := by
  induction parts with
  | nil => exact absurd rfl hparts
  | cons part parts ih =>
    by_cases hne : parts = []
    · rw [hne, joinFields_singleton, List.flatMap_singleton]
    · rw [joinFields_cons sep part hne, fields_append, ih hne, List.flatMap_cons]

/-- Parts that each end with a separator. -/
theorem join_map_append_singleton (sep : Char) (hparts : parts ≠ []) :
    String.join (parts.map (· ++ String.singleton sep)) =
      joinFields sep parts ++ String.singleton sep := by
  induction parts with
  | nil => exact absurd rfl hparts
  | cons part parts ih =>
    by_cases hne : parts = []
    · simp [hne, joinFields_singleton]
    · rw [List.map_cons, String.join_cons, ih hne, joinFields_cons sep part hne]
      simp only [String.append_assoc]

/-- A text joined from parts starts as the first of them does. -/
theorem head?_joinFields (sep : Char) {part : String} (hne : part ≠ "") (rest : List String) :
    (joinFields sep (part :: rest)).toList.head? = part.toList.head? := by
  have hchars : part.toList ≠ [] := by simpa using hne
  cases rest with
  | nil => rw [joinFields_singleton]
  | cons next rest =>
    rw [joinFields_cons sep part (List.cons_ne_nil next rest), String.append_assoc,
      String.toList_append, List.head?_append_of_ne_nil _ hchars]

theorem joinFields_cons_ne_empty (sep : Char) {part : String} (hne : part ≠ "")
    (rest : List String) : joinFields sep (part :: rest) ≠ "" := by
  intro hempty
  have hhead := head?_joinFields sep hne rest
  rw [hempty] at hhead
  exact hne (by simpa using List.head?_eq_none_iff.1 hhead.symm)

/-- A text joined from parts ends as the last of them does. -/
theorem getLast?_joinFields (sep : Char) {part : String} (hlast : parts.getLast? = some part)
    (hne : part ≠ "") : (joinFields sep parts).toList.getLast? = part.toList.getLast? := by
  have hchars : part.toList ≠ [] := by simpa using hne
  obtain ⟨first, rfl⟩ := List.getLast?_eq_some_iff.1 hlast
  by_cases hfirst : first = []
  · rw [hfirst, List.nil_append, joinFields_singleton]
  · rw [joinFields_append sep hfirst (List.cons_ne_nil part []), joinFields_singleton,
      String.toList_append, List.getLast?_append_of_ne_nil _ hchars]

/-- The characters of a joined text are those of its parts and, between two parts, separators. -/
theorem mem_joinFields {c : Char} (hc : c ≠ sep) :
    c ∈ (joinFields sep parts).toList ↔ ∃ part ∈ parts, c ∈ part.toList := by
  induction parts with
  | nil => simp [joinFields]
  | cons part parts ih =>
    by_cases hne : parts = []
    · simp [hne, joinFields_singleton]
    · simp [joinFields_cons sep part hne, hc, ih]

/-- Apart from separators the characters of a text are those of its fields. -/
theorem mem_toList_iff_fields {c : Char} (hc : c ≠ sep) :
    c ∈ s.toList ↔ ∃ part ∈ fields sep s, c ∈ part.toList := by
  rw [← mem_joinFields hc, joinFields_fields]

end ResourceInspector.Text
