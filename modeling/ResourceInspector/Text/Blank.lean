/-!
# Blank characters

The characters that Unicode calls white space, and the text without those at its ends.
-/

namespace ResourceInspector.Text

def isBlank (c : Char) : Bool :=
  let n := c.toNat
  (9 ≤ n && n ≤ 13) || n == 0x20 || n == 0x85 || n == 0xA0 || n == 0x1680
    || (0x2000 ≤ n && n ≤ 0x200A) || n == 0x2028 || n == 0x2029 || n == 0x202F || n == 0x205F
    || n == 0x3000

def trimEnd (s : String) : String :=
  String.ofList (s.toList.reverse.dropWhile isBlank).reverse

/-- Blanks behind a character that is no blank are all that is taken away. -/
theorem trimEnd_append {s t : String} {last : Char} (hs : s.toList.getLast? = some last)
    (hlast : isBlank last = false) (ht : ∀ c ∈ t.toList, isBlank c = true) :
    trimEnd (s ++ t) = s := by
  have hblanks : ∀ c ∈ t.toList.reverse, isBlank c = true :=
    fun c hc => ht c (List.mem_reverse.1 hc)
  have hkept : s.toList.reverse.dropWhile isBlank = s.toList.reverse := by
    obtain ⟨first, hfirst⟩ := List.getLast?_eq_some_iff.1 hs
    simp [hfirst, hlast]
  rw [trimEnd, String.toList_append, List.reverse_append, List.dropWhile_append_of_pos hblanks,
    hkept, List.reverse_reverse, String.ofList_toList]

def trim (s : String) : String :=
  trimEnd (String.ofList (s.toList.dropWhile isBlank))

end ResourceInspector.Text
