import ResourceInspector.NaturalOrder.Basic
/-!
# Chunks of a text

The declarative side of natural order: a text is a list of chunks, each a number or a single byte,
and natural order is the lexicographic order of these lists.
-/

namespace ResourceInspector.NaturalOrder

/-- A run of digits, as the number it spells and the count of zeros it starts with, or one byte
that is no digit. -/
inductive Chunk where
  | number (value zeros : Nat)
  | byte (code : UInt8)
deriving Repr, DecidableEq

namespace Chunk

/-- Numbers come before bytes. Numbers compare by value and then by their leading zeros. -/
def cmp : Chunk → Chunk → Ordering
  | .number v z, .number w y => (compare v w).then (compare z y)
  | .number .., .byte _ => .lt
  | .byte _, .number .. => .gt
  | .byte a, .byte b => compare a b

/-- The number that a run of digits spells in base ten. -/
def value (digits : List UInt8) : Nat :=
  digits.foldl (fun n d => 10 * n + (d.toNat - 48)) 0

def ofRun (digits : List UInt8) : Chunk :=
  .number (value digits) (digits.takeWhile isZero).length

/-- Cuts bytes into maximal runs of digits and single other bytes. -/
def ofBytes : List UInt8 → List Chunk
  | [] => []
  | b :: bs =>
    if isDigit b then ofRun (b :: bs.takeWhile isDigit) :: ofBytes (bs.dropWhile isDigit)
    else .byte b :: ofBytes bs
termination_by bytes => bytes.length
decreasing_by
  · have := (List.dropWhile_sublist isDigit (l := bs)).length_le
    simp only [List.length_cons]
    omega
  · simp

def ofString (s : String) : List Chunk :=
  ofBytes s.toByteArray.data.toList

end Chunk

end ResourceInspector.NaturalOrder
