import Mathlib.Data.List.Basic
import ResourceInspector.Uuid
/-!
# Reading universally unique identifiers back

The text of an identifier is one of the forms that are read, and it is read as that identifier
(`parse_toText`). No digit can be taken for a hyphen or for what may be put around the text.
-/

namespace ResourceInspector

/-- No digit is taken for one of the marks by which the forms of an identifier are told apart. -/
theorem Text.hexDigit_ne (value : Fin 16) :
    hexDigit value ≠ '-' ∧ hexDigit value ≠ '{' ∧ hexDigit value ≠ 'u' := by
  revert value
  decide

namespace Uuid

open Text

/-- Nothing is taken off a text that starts with neither a brace nor the name of the scheme. -/
theorem unwrap_of_head? {text : List Char} (h : ∀ c ∈ text.head?, c ≠ '{' ∧ c ≠ 'u') :
    unwrap text = ⟨text, 0, true⟩ := by
  unfold unwrap
  split
  · exact absurd rfl (h '{' rfl).1
  · exact absurd rfl (h 'u' rfl).2
  · rfl

/-- Digits that stand without hyphens are read as they are. -/
theorem simpleDigits?_map_hexDigit (digits : List (Fin 16)) :
    simpleDigits? (digits.map hexDigit) = some digits := by
  unfold simpleDigits?
  induction digits with
  | nil => rfl
  | cons d digits ih =>
    rw [List.map_cons, List.mapM_cons, hexValue?_hexDigit, ih]
    rfl

/-! ## Groups -/

/-- The digits in their groups. -/
def groups (u : Uuid) : List (List (Fin 16)) :=
  [u.digits.take 8, (u.digits.drop 8).take 4, (u.digits.drop 12).take 4, (u.digits.drop 16).take 4,
   u.digits.drop 20]

theorem flatten_groups (u : Uuid) : u.groups.flatten = u.digits := by
  have hnext : ∀ start size,
      (u.digits.drop start).take size ++ u.digits.drop (start + size) = u.digits.drop start := by
    intro start size
    rw [← List.drop_drop, List.take_append_drop]
  simp only [groups, List.flatten_cons, List.flatten_nil, List.append_nil]
  rw [hnext 16 4, hnext 12 4, hnext 8 4, List.take_append_drop]

theorem map_length_groups (u : Uuid) : u.groups.map List.length = groupLengths := by
  simp [groups, u.length_digits, groupLengths]

/-- The text of an identifier, as the groups of its digits with hyphens between them. -/
theorem toList_toText (u : Uuid) :
    u.toText.toList = ['-'].intercalate (u.groups.map (·.map hexDigit)) := by
  unfold toText groups
  rw [String.toList_ofList]
  simp [List.intercalate]

/-- Cut at its hyphens the text gives the groups again. -/
theorem splitOn_toText (u : Uuid) :
    u.toText.toList.splitOn '-' = u.groups.map (·.map hexDigit) := by
  rw [toList_toText]
  refine List.splitOn_intercalate '-' ?_ (by simp [groups])
  intro group hgroup hhyphen
  rcases List.mem_map.1 hgroup with ⟨digits, _, rfl⟩
  rcases List.mem_map.1 hhyphen with ⟨d, _, hd⟩
  exact (hexDigit_ne d).1 hd

theorem groupedDigits?_toText (u : Uuid) : groupedDigits? u.toText.toList = some u.digits := by
  unfold groupedDigits?
  rw [splitOn_toText]
  have hlengths : (u.groups.map (·.map hexDigit)).map List.length = groupLengths := by
    rw [← u.map_length_groups]
    simp
  rw [if_pos hlengths, ← List.map_flatten, flatten_groups, simpleDigits?_map_hexDigit]

/-- An identifier is read back from its text. -/
theorem parse_toText (u : Uuid) : parse u.toText = .ok u := by
  have hhead : ∀ c ∈ u.toText.toList.head?, c ≠ '{' ∧ c ≠ 'u' := by
    rcases u with ⟨_ | ⟨d, digits⟩, hlength⟩
    · cases hlength
    · have hfirst : (toText ⟨d :: digits, hlength⟩).toList.head? = some (hexDigit d) := by
        rw [toText, String.toList_ofList]
        rfl
      rw [hfirst]
      rintro c ⟨⟩
      exact (hexDigit_ne d).2
  have hdigits : digits? u.toText.toList = some u.digits := by
    unfold digits?
    rw [unwrap_of_head? hhead]
    simp [groupedDigits?_toText]
  unfold parse
  rw [hdigits]
  simp [u.length_digits]

end Uuid

end ResourceInspector
