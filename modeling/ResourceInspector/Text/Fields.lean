/-!
# Fields of a text

The parts of a text between the occurrences of a separator, and the text that parts make when a
separator is put between them.
-/

namespace ResourceInspector.Text

/-- The parts of `s` between the separators. There is always one more part than separators, so a
text without any is its own single part. -/
def fields (sep : Char) (s : String) : List String :=
  (s.toList.splitOn sep).map String.ofList

/-- Puts a separator between the parts. -/
def joinFields (sep : Char) (parts : List String) : String :=
  String.ofList ([sep].intercalate (parts.map String.toList))

/-- Putting the separators back gives the text again. -/
theorem joinFields_fields (sep : Char) (s : String) : joinFields sep (fields sep s) = s := by
  have h : (fields sep s).map String.toList = s.toList.splitOn sep := by
    simp [fields, List.map_map, Function.comp_def]
  rw [joinFields, h, List.intercalate_splitOn, String.ofList_toList]

/-- Parts that hold no separator are recovered from the joined text. -/
theorem fields_joinFields {sep : Char} {parts : List String} (hne : parts ≠ [])
    (hsep : ∀ p ∈ parts, sep ∉ p.toList) : fields sep (joinFields sep parts) = parts := by
  have h : ([sep].intercalate (parts.map String.toList)).splitOn sep = parts.map String.toList := by
    refine List.splitOn_intercalate sep ?_ (by simpa using hne)
    intro l hl
    obtain ⟨p, hp, rfl⟩ := List.mem_map.1 hl
    exact hsep p hp
  rw [fields, joinFields, String.toList_ofList, h, List.map_map]
  simp [Function.comp_def]

end ResourceInspector.Text
