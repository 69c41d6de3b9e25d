import ResourceInspector.Identifier.Basic
import ResourceInspector.NaturalOrder.Basic
/-!
# Collections of identifiers

An ordered collection of identifiers that sorts by group in natural order.
-/

namespace ResourceInspector.Identifier

structure Collection where
  toList : List Identifier
deriving Repr, DecidableEq

structure OutOfRange where
  size : Nat
  index : Nat
deriving Repr, DecidableEq

def OutOfRange.message (e : OutOfRange) : String :=
  "index out of bounds: the len is " ++ toString e.size ++ " but the index is " ++ toString e.index

/-- The order of groups, as a test for not coming after. -/
def groupLe (a b : Identifier) : Bool :=
  NaturalOrder.le a.group b.group

namespace Collection

def empty : Collection := ⟨[]⟩

/-- Reads the texts in order, up to the first that is malformed. -/
def parse (texts : List String) : Except Malformed Collection :=
  (texts.mapM Identifier.parse).map .mk

def push (c : Collection) (id : Identifier) : Collection :=
  ⟨c.toList ++ [id]⟩

def size (c : Collection) : Nat :=
  c.toList.length

def isEmpty (c : Collection) : Bool :=
  c.toList.isEmpty

def get? (c : Collection) (i : Nat) : Option Identifier :=
  c.toList[i]?

/-- The entry at a position that has to be inside. -/
def get (c : Collection) (i : Nat) : Except OutOfRange Identifier :=
  match c.get? i with
  | some id => .ok id
  | none => .error ⟨c.size, i⟩

/-- Exchanges two entries. The first position is checked first. -/
def swap (c : Collection) (i j : Nat) : Except OutOfRange Collection := do
  let a ← c.get i
  let b ← c.get j
  return ⟨(c.toList.set i b).set j a⟩

/-- Whether the group at `i` comes strictly before the group at `j`. The first position is checked
first. -/
def less (c : Collection) (i j : Nat) : Except OutOfRange Bool := do
  let a ← c.get i
  let b ← c.get j
  return NaturalOrder.less a.group b.group

/-- Sorts by group. Entries of one group keep their order. -/
def sort (c : Collection) : Collection :=
  ⟨c.toList.mergeSort groupLe⟩

def texts (c : Collection) : List String :=
  c.toList.map (·.raw)

end Collection

end ResourceInspector.Identifier
