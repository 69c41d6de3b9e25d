/-!
# Log events

What the program reports while it runs: a message at a level from a named part of it, with named
fields.
-/

namespace ResourceInspector.Log

inductive Level where
  | error
  | warn
  | info
  | debug
  | trace
deriving Repr, DecidableEq

namespace Level

/-- From the most serious level, which is 1, to the least serious. -/
def rank : Level → Nat
  | .error => 1
  | .warn => 2
  | .info => 3
  | .debug => 4
  | .trace => 5

def name : Level → String
  | .error => "ERROR"
  | .warn => "WARN"
  | .info => "INFO"
  | .debug => "DEBUG"
  | .trace => "TRACE"

end Level

/-- The value of a field: a text shown as it is, a text shown between quotes, or a flag. -/
inductive FieldValue where
  | shown (text : String)
  | quoted (text : String)
  | flag (value : Bool)
deriving Repr, DecidableEq

/-- An event. The target names the part of the program that reports it. -/
structure Event where
  level : Level
  target : String
  message : String
  fields : List (String × FieldValue)
deriving Repr, DecidableEq

end ResourceInspector.Log
