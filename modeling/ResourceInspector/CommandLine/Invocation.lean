import ResourceInspector.Command.Builtin
import ResourceInspector.CommandLine.Help
import ResourceInspector.CommandLine.Matching
import ResourceInspector.Report.Format
/-!
# Invocations

The command line of the program: what may be asked of it, and how.
-/

namespace ResourceInspector.CommandLine

/-- What the program is asked to do. -/
inductive Request where
  | gvr (resource : String) (groupVersion : Option String)
  | sort (resources : List String)
  | can (action : String) (verbs : List String)
  | actions
  | version
deriving Repr, DecidableEq

/-- A command line that was accepted. -/
structure Invocation where
  output : Option Report.Format := none
  pretty : Bool := false
  logLevel : Option String := none
  config : Option String := none
  request : Request
deriving Repr, DecidableEq

/-! ## The grammar -/

def commands : List Command :=
  [{ name := "gvr"
     about := "Parse a resource identifier such as apps/v1/deployments or v1/pods:log"
     options :=
       [{ long := "group-version", short := some 'g', arity := .one, valueName := "GROUP_VERSION"
          help := "Group/version to prefix the resource with (e.g. apps/v1)" }]
     positionals :=
       [{ name := "RESOURCE"
          help := "Resource identifier, or a bare resource name when --group-version is set" }] },
   { name := "sort"
     about := "Sort resource identifiers by API group in natural order"
     positionals :=
       [{ name := "RESOURCES", many := true, help := "Resource identifiers to sort" }] },
   { name := "can"
     about := "Check whether the granted verbs allow an action"
     options :=
       [{ long := "verb", arity := .many, valueName := "VERB"
          help := "Granted verbs, repeated or comma separated" }]
     positionals :=
       [{ name := "ACTION", help := "Action to check (describe, view, delete, edit)" }] },
   { name := "actions", about := "List the known actions and the verbs that grant them" },
   { name := "version" }]

def grammar : Grammar where
  name := "kscope"
  about := "Kubernetes resource identifier and capability inspector"
  options :=
    [{ long := "pretty", help := "Print output in pretty (indented) format" },
     { long := "output", short := some 'o', arity := .one, valueName := "OUTPUT"
       choices := Report.Format.named.map (·.1)
       help := "Set the output format (standard, json, yaml), default is standard" },
     { long := "log-level", arity := .one, valueName := "LEVEL"
       help := "Log filter, e.g. \"info\" or \"kscope_sdk=debug\"" },
     { long := "config", arity := .one, valueName := "FILE", allowsEmpty := false
       help := "Configuration file (YAML). Falls back to $KSCOPE_CONFIG" }]
  commands := commands

/-! ## Reading a command line -/

/-- The request that a command and its values stand for. -/
def Request.ofMatches (command : String) (m : Matches) : Request :=
  let first := fun name => (m.arguments name).headD ""
  match command with
  | "gvr" => .gvr (first "RESOURCE") (m.value? "group-version")
  | "sort" => .sort (m.arguments "RESOURCES")
  | "can" => .can (first "ACTION") (m.values "verb")
  | "actions" => .actions
  | _ => .version

/-- Reads a command line, which does not include the name of the program. -/
def Invocation.parse (args : List String) : Except UsageError Invocation := do
  let (options, command, own) ← grammar.parse args
  return {
    output := (options.value? "output").bind Report.Format.ofName?
    pretty := options.has "pretty"
    logLevel := options.value? "log-level"
    config := options.value? "config"
    request := .ofMatches command own }

/-! ## Contexts -/

open ResourceInspector.Command (Context)
open ResourceInspector.Command.Builtin

/-- The name of the command that answers a request. -/
def Request.commandName : Request → String
  | .gvr .. => "gvr"
  | .sort _ => "sort"
  | .can .. => "can"
  | .actions => "actions"
  | .version => "version"

def Request.parameters : Request → List (String × Json)
  | .gvr resource groupVersion =>
    (resourceParam, .string resource)
      :: (groupVersion.map fun gv => (groupVersionParam, Json.string gv)).toList
  | .sort resources => [(resourcesParam, .strings resources)]
  | .can action verbs => [(actionParam, .string action), (verbsParam, .strings verbs)]
  | .actions | .version => []

def Request.context (r : Request) (activityId : Uuid) : Context where
  commandName := r.commandName
  parameters := Json.Members.ofList r.parameters
  activityId := activityId

end ResourceInspector.CommandLine
