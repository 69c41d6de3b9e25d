import ResourceInspector.Access.Basic
import ResourceInspector.Command.Handler
import ResourceInspector.Identifier.Collection
/-!
# Builtin commands

The handlers that come with the program: `gvr` reads an identifier, `sort` sorts identifiers by
group, `can` decides on an action and records the decision in the log, `actions` lists the actions,
and `version` names the build.
-/

namespace ResourceInspector.Command.Builtin

/-! ## Names of parameters -/

def resourceParam : String := "resource"

def groupVersionParam : String := "groupVersion"

def resourcesParam : String := "resources"

def actionParam : String := "action"

def verbsParam : String := "verbs"

/-! ## Reading an identifier -/

/-- What is shown of an identifier. -/
def description (id : Identifier) : Json :=
  Json.ofMembers
    [("raw", .string id.raw), ("group", .string id.group), ("version", .string id.version),
     ("resource", .string id.resource), ("subResource", .string id.subResource),
     ("resourceName", .string id.resourceName),
     ("groupVersion", .string id.groupVersion.apiVersion)]

/-- The resource of a context that has its group and version in a parameter of their own: the two
joined into one path. -/
def joinedResource (ctx : Context) : Except ParameterError String := do
  let groupVersion ← ctx.stringParam groupVersionParam
  let resource ← ctx.stringParam resourceParam
  return Path.join [groupVersion, resource]

/-- Folds the group and version into the resource. Where one of the two is no string the handler
fails and the context stays as it is. -/
def joinGroupVersion : Handler :=
  .mutating fun ctx =>
    if ctx.hasParam groupVersionParam then
      match joinedResource ctx with
      | .ok path =>
        { answer := .ok none
          context := (ctx.withoutParam groupVersionParam).withParam resourceParam (.string path) }
      | .error e => { answer := .error (.parameter e), context := ctx }
    else { answer := .ok none, context := ctx }

def parseResource (text : String) : Except Failure Identifier :=
  (Identifier.parse text).mapError (.resource text)

/-- The identifier of the resource parameter. -/
def resourceOf (ctx : Context) : Except Failure Identifier := do
  parseResource (← (ctx.stringParam resourceParam).mapError .parameter)

/-- Rejects a resource that is no identifier. -/
def checkResource : Handler :=
  .validating fun ctx => { answer := (resourceOf ctx).map fun _ => none }

def describe : Handler :=
  .executing .internal fun ctx => { answer := (resourceOf ctx).map fun id => some (description id) }

/-! ## Sorting -/

/-- The texts of the resources, sorted by the groups of the identifiers they are. -/
def sortedResources (ctx : Context) : Except Failure (List String) := do
  let resources ← (ctx.stringsParam resourcesParam).mapError .parameter
  let identifiers ← resources.mapM parseResource
  return (Identifier.Collection.mk identifiers).sort.texts

def sort : Handler :=
  .executing .internal fun ctx =>
    { answer := (sortedResources ctx).map fun texts => some (.strings texts) }

/-! ## Access -/

/-- The decision on an action, with what it was made from. -/
def decision (action : String) (verbs : List String) : Json :=
  Json.ofMembers
    [("action", .string action), ("verbs", .strings verbs),
     ("allowed", .bool (Access.allows verbs action))]

/-- The action asked about and the verbs granted. Without verbs nothing is granted. -/
def question (ctx : Context) : Except ParameterError (String × List String) := do
  let action ← ctx.stringParam actionParam
  let verbs ← if ctx.hasParam verbsParam then ctx.stringsParam verbsParam else pure []
  return (action, verbs)

/-- Decides whether the granted verbs allow the action. -/
def can : Handler :=
  .executing .internal fun ctx =>
    match question ctx with
    | .ok (action, verbs) =>
      { answer := .ok (some (decision action verbs)), events := Access.events action }
    | .error e => { answer := .error (.parameter e) }

def auditEvent (ctx : Context) (decided : Json) : Log.Event where
  level := .info
  target := "kscope_runtime::command::audit"
  message := "capability check"
  fields :=
    [("activity_id", .shown ctx.activityId.toText),
     ("action", .shown (decided.member "action").compact),
     ("verbs", .shown (decided.member "verbs").compact),
     ("allowed", .flag (decided.member "allowed" matches .bool true))]

/-- Records the decision, once there is one. -/
def audit : Handler :=
  .executing .observer fun ctx =>
    { answer := .ok none
      events := match ctx.result with
        | some decided => [auditEvent ctx decided]
        | none => [] }

/-- Lists the actions with the verbs that grant them. -/
def actions : Handler :=
  .executing .internal fun _ =>
    let rows := Access.actionVerbs.map fun (action, verbs) => (action, Json.strings verbs)
    { answer := .ok (some (Json.ofMembers rows)) }

/-! ## Version -/

/-- A revision that the program may have been built from. Not every build knows its own. -/
def revision : Option String := some "0123456789abcdef"

/-- The name and version of the program, with the first eight characters of the revision that it was
built from, where that is known and not empty. -/
def versionText (revision : Option String) : String :=
  let plain := "kscope-runtime v0.1.0"
  match revision with
  | some sha => if sha = "" then plain else plain ++ "-" ++ String.ofList (sha.toList.take 8)
  | none => plain

/-- Names the build. -/
def version (revision : Option String) : Handler :=
  .executing .internal fun _ =>
    { answer := .ok (some (Json.ofMembers [("version", .string (versionText revision))])) }

end ResourceInspector.Command.Builtin
