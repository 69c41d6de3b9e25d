import ResourceInspector.Decimal.Shortest
/-!
# Decimal notation

A decimal is written with a point where its leading digit stands close enough to the units, and
with an exponent elsewhere.
-/

namespace ResourceInspector.Decimal

/-- How decimals are written: the powers of ten of the leading digit that go without an exponent,
and the sign that is put before an exponent that is not negative. -/
structure Layout where
  positionalFrom : Int
  positionalTo : Int
  exponentSign : String
deriving Repr, DecidableEq

namespace Layout

/-- The digits with a point after the first `places` of them and at least one digit on each
side. -/
def withPoint (digits : List Char) (places : Int) : String :=
  let n : Int := digits.length
  if places ≤ 0 then
    String.ofList ('0' :: '.' :: List.replicate (-places).toNat '0' ++ digits)
  else if n ≤ places then
    String.ofList (digits ++ List.replicate (places - n).toNat '0' ++ ['.', '0'])
  else
    String.ofList (digits.take places.toNat ++ '.' :: digits.drop places.toNat)

/-- The digits as a number from one to ten, and the power of ten it is multiplied by. -/
def withExponent (layout : Layout) (digits : List Char) (power : Int) : String :=
  let body := match digits with
    | [] => []
    | [d] => [d]
    | d :: ds => d :: '.' :: ds
  String.ofList body ++ "e" ++ (if power < 0 then "" else layout.exponentSign) ++ toString power

/-- Writes a decimal. -/
def scaled (layout : Layout) (s : Scaled) : String :=
  let digits := Nat.toDigits 10 s.digits
  let power := s.exponent + digits.length - 1
  if layout.positionalFrom ≤ power ∧ power ≤ layout.positionalTo then withPoint digits (power + 1)
  else layout.withExponent digits power

def binary64 (layout : Layout) (x : Binary64) : String :=
  (if x.negative then "-" else "") ++ layout.scaled x.shortest

end Layout

end ResourceInspector.Decimal
