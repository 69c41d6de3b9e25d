import ResourceInspector.Command.Context
import ResourceInspector.Command.Kind
import ResourceInspector.Identifier.Basic
/-!
# Failures of commands

Why a command, or the registration of a handler, fails. A failure is worded as a chain, from what
was attempted to what stood in its way.
-/

namespace ResourceInspector.Command

inductive Failure where
  /-- A parameter is missing or of the wrong shape. -/
  | parameter (cause : ParameterError)
  /-- A text is no identifier. -/
  | identifier (cause : Identifier.Malformed)
  /-- The text given as a resource is no identifier. -/
  | resource (text : String) (cause : Identifier.Malformed)
  /-- A handler turned the context down in its own words. -/
  | rejected (reason : String)
  /-- No handler is registered for the command. -/
  | notFound (command : String)
  /-- A handler has nothing to call. -/
  | notCallable (kind : Kind)
  /-- The activity was cancelled before the command was through. -/
  | cancelled (command : String)
  /-- A handler that finds results is not taken from outside. -/
  | reserved (command : String)
deriving Repr, DecidableEq

namespace Failure

/-- The wording of each link, the outermost first. -/
def chain : Failure → List String
  | .parameter cause => [cause.message]
  | .identifier cause => [cause.message]
  | .resource text cause => ["Invalid resource: " ++ text, cause.message]
  | .rejected reason => [reason]
  | .notFound command => ["Command handler not found for: " ++ command]
  | .notCallable kind => ["Handler does not implement any command type: " ++ kind.name]
  | .cancelled command => ["Command cancelled: " ++ command]
  | .reserved command => ["Cannot register internal command handler: " ++ command]

def summary (f : Failure) : String :=
  f.chain.headD ""

def message (f : Failure) : String :=
  ": ".intercalate f.chain

end Failure

end ResourceInspector.Command
