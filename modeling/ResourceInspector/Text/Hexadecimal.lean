/-!
# Hexadecimal digits

The sixteen digits in lower case, numbers written with them, and the digits read in either case.
-/

namespace ResourceInspector.Text

/-- The digit of a value below sixteen. -/
def hexDigit (value : Fin 16) : Char :=
  if value.val < 10 then Char.ofNat ('0'.toNat + value.val)
  else Char.ofNat ('a'.toNat + (value.val - 10))

def hexValue? (c : Char) : Option (Fin 16) :=
  if '0' ≤ c ∧ c ≤ '9' then some (Fin.ofNat 16 (c.toNat - '0'.toNat))
  else if 'a' ≤ c ∧ c ≤ 'f' then some (Fin.ofNat 16 (c.toNat - 'a'.toNat + 10))
  else if 'A' ≤ c ∧ c ≤ 'F' then some (Fin.ofNat 16 (c.toNat - 'A'.toNat + 10))
  else none

/-- A digit reads back as its value. -/
theorem hexValue?_hexDigit (value : Fin 16) : hexValue? (hexDigit value) = some value := by
  revert value
  decide

/-- A number without leading zeros. -/
def hexadecimal (n : Nat) : String :=
  String.ofList (Nat.toDigits 16 n)

/-- A number padded with zeros to at least `width` digits. -/
def hexadecimalPadded (width n : Nat) : String :=
  let digits := Nat.toDigits 16 n
  String.ofList (List.replicate (width - digits.length) '0' ++ digits)

end ResourceInspector.Text
