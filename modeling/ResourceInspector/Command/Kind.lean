/-!
# Kinds of handlers

A handler belongs to one of four phases of a command, and the phases follow each other.
-/

namespace ResourceInspector.Command

/-- The phase a handler belongs to. -/
inductive Kind where
  /-- Changes the context before anything else looks at it. -/
  | mutator
  /-- Rejects a context that cannot be executed. -/
  | validator
  /-- Finds the result. -/
  | internal
  /-- Looks on once the result is known. -/
  | observer
deriving Repr, DecidableEq

namespace Kind

/-- The place of the phase: lower comes first. -/
def priority : Kind → Nat
  | .mutator => 0
  | .validator => 1
  | .internal => 2
  | .observer => 4

def name : Kind → String
  | .mutator => "mutator"
  | .validator => "validator"
  | .internal => "internal"
  | .observer => "observer"

end Kind

end ResourceInspector.Command
