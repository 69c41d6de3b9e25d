import ResourceInspector.Log.Event
import ResourceInspector.Text.Quoted
/-!
# Access

The actions a user asks about, the verbs that grant each of them, and the decision whether a list
of granted verbs allows an action.
-/

namespace ResourceInspector.Access

/-- Each action with the verbs any of which grants it. -/
def actionVerbs : List (String × List String) :=
  [("describe", ["get"]),
   ("view", ["get", "list"]),
   ("delete", ["delete"]),
   ("edit", ["patch", "update"])]

structure UnknownAction where
  action : String
deriving Repr, DecidableEq

def UnknownAction.message (e : UnknownAction) : String :=
  "no standard verb for " ++ Text.quote e.action

def actions : List String :=
  actionVerbs.map (·.1)

def verbsFor (action : String) : Except UnknownAction (List String) :=
  match actionVerbs.lookup action with
  | some verbs => .ok verbs
  | none => .error ⟨action⟩

/-- Whether one of the granted verbs grants the action. An unknown action is granted by none. -/
def allows (granted : List String) (action : String) : Bool :=
  match verbsFor action with
  | .ok verbs => granted.any verbs.contains
  | .error _ => false

/-- The events of a decision on `action`: an unknown action is reported as an error. -/
def events (action : String) : List Log.Event :=
  match verbsFor action with
  | .ok _ => []
  | .error e =>
    [{ level := .error
       target := "kscope_sdk::access"
       message := "verb mapping failed"
       fields := [("error", .shown e.message)] }]

end ResourceInspector.Access
