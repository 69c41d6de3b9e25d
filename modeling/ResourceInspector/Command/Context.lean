import ResourceInspector.Json.Basic
import ResourceInspector.Json.Printer
import ResourceInspector.Uuid
/-!
# Command contexts

What a command runs on: its name, its parameters, the activity it belongs to, the result found so
far and whether the activity has been cancelled.

The activity is cancelled by a token on the context, which clones of the context share. A token that
is cancelled stays so, but the context may be given another token, and from then on only that one
counts.
-/

namespace ResourceInspector.Command

structure Context where
  commandName : String
  parameters : Json.Members := []
  activityId : Uuid
  result : Option Json := none
  /-- Whether the token that is on the context is cancelled. -/
  cancelled : Bool := false
deriving DecidableEq

inductive ParameterError where
  | missing (name : String)
  | notString (name : String)
  | notStrings (name : String)
  | itemNotString (name : String)
deriving Repr, DecidableEq

def ParameterError.message : ParameterError → String
  | .missing name => "Missing required parameter: " ++ name
  | .notString name => "Invalid type for parameter '" ++ name ++ "'; expected string"
  | .notStrings name => "Invalid type for parameter '" ++ name ++ "'; expected list of strings"
  | .itemNotString name => "Invalid item in parameter '" ++ name ++ "'; expected string"

namespace Context

def withParam (ctx : Context) (name : String) (value : Json) : Context :=
  { ctx with parameters := Json.Members.insert name value ctx.parameters }

def withoutParam (ctx : Context) (name : String) : Context :=
  { ctx with parameters := Json.Members.erase ctx.parameters name }

def hasParam (ctx : Context) (name : String) : Bool :=
  Json.Members.contains ctx.parameters name

def param (ctx : Context) (name : String) : Except ParameterError Json :=
  match Json.Members.find? ctx.parameters name with
  | some value => .ok value
  | none => .error (.missing name)

/-- A parameter that has to be a string. -/
def stringParam (ctx : Context) (name : String) : Except ParameterError String := do
  match ← ctx.param name with
  | .string s => return s
  | _ => throw (.notString name)

def stringItem (name : String) (item : Json) : Except ParameterError String :=
  match item with
  | .string s => .ok s
  | _ => .error (.itemNotString name)

/-- A parameter that has to be a list of strings. A single string is a list of one. -/
def stringsParam (ctx : Context) (name : String) : Except ParameterError (List String) := do
  match ← ctx.param name with
  | .string s => return [s]
  | .array items => items.mapM (stringItem name)
  | _ => throw (.notStrings name)

def paramText (ctx : Context) (name : String) : Except ParameterError String :=
  (ctx.param name).map Json.compact

/-- Cancels the activity, for every holder of the token. -/
def cancel (ctx : Context) : Context :=
  { ctx with cancelled := true }

/-- What is left when `next` takes the place of a context. Unless it has a token of its own, it is
cancelled if the context was. -/
def succeed (ctx next : Context) (renews : Bool) : Context :=
  { next with cancelled := next.cancelled || (!renews && ctx.cancelled) }

end Context

end ResourceInspector.Command
