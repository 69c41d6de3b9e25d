/-!
# The shortest decimal

A floating-point number stands for an interval of reals, all those that round to it. Its shortest
decimal is taken from the coarsest grid of decimals, the multiples of some power of ten, that has
a point in the interval: the point nearest to the number itself.
-/

namespace ResourceInspector.Decimal

/-- A decimal, `digits` times ten to the power `exponent`. -/
structure Scaled where
  digits : Nat
  exponent : Int
deriving Repr, DecidableEq

/-- The reals that round to a number: `low` to `high` around `value`, in units of two to the power
`unit`, with both ends or without both. -/
structure Interval where
  low : Nat
  value : Nat
  high : Nat
  unit : Int
  closed : Bool
deriving Repr, DecidableEq

namespace Interval

/-- Ten to the power `k` as a count of units, as a fraction. -/
def tenPower (i : Interval) (k : Int) : Nat × Nat :=
  (Nat.pow 10 k.toNat * Nat.pow 2 (-i.unit).toNat,
    Nat.pow 10 (-k).toNat * Nat.pow 2 i.unit.toNat)

/-- Whether `n` times ten to the power `k` lies in the interval. -/
def contains (i : Interval) (k : Int) (n : Nat) : Bool :=
  let (num, den) := i.tenPower k
  let point := n * num
  if i.closed then i.low * den ≤ point && point ≤ i.high * den
  else i.low * den < point && point < i.high * den

/-- The point of the grid of multiples of ten to the power `k` that lies in the interval nearest to
the value. Half way between two points the even one is taken. -/
def nearest? (i : Interval) (k : Int) : Option Scaled :=
  let (num, den) := i.tenPower k
  let below := i.value * den / num
  let twiceRest := 2 * (i.value * den % num)
  let above := below + 1
  let preferBelow := twiceRest < num || (twiceRest == num && below % 2 == 0)
  match i.contains k below, i.contains k above with
  | true, true => some ⟨if preferBelow then below else above, k⟩
  | true, false => some ⟨below, k⟩
  | false, true => some ⟨above, k⟩
  | false, false => none

end Interval

/-- A finite binary floating-point number of double precision, by its bits. -/
structure Binary64 where
  bits : UInt64
deriving Repr, DecidableEq

namespace Binary64

def negative (x : Binary64) : Bool :=
  x.bits.toNat / Nat.pow 2 63 == 1

def exponentField (x : Binary64) : Nat :=
  x.bits.toNat / Nat.pow 2 52 % Nat.pow 2 11

def fraction (x : Binary64) : Nat :=
  x.bits.toNat % Nat.pow 2 52

/-- The integer that the magnitude is a multiple of a power of two of. -/
def significand (x : Binary64) : Nat :=
  if x.exponentField = 0 then x.fraction else Nat.pow 2 52 + x.fraction

/-- The power of two that scales the significand. -/
def exponent (x : Binary64) : Int :=
  (max x.exponentField 1 : Int) - 1075

def isZero (x : Binary64) : Bool :=
  x.significand == 0

/-- The reals that round to the magnitude, in quarters of its last place. Below a power of two the
neighbour is half as far away. The ends round to an even significand. -/
def interval (x : Binary64) : Interval :=
  let m := x.significand
  { low := if x.fraction = 0 ∧ 1 < x.exponentField then 4 * m - 1 else 4 * m - 2
    value := 4 * m
    high := 4 * m + 2
    unit := x.exponent - 2
    closed := m % 2 == 0 }

/-- The shortest decimal of the magnitude. No number of this precision needs a grid finer than ten
to the power -324 or has a point on one coarser than ten to the power 308. -/
def shortest (x : Binary64) : Scaled :=
  if x.isZero then ⟨0, 0⟩
  else
    let found := (List.range 633).findSome? fun (i : Nat) => x.interval.nearest? (308 - (i : Int))
    found.getD ⟨0, 0⟩

end Binary64

end ResourceInspector.Decimal
