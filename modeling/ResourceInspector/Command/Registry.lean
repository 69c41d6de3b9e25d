import ResourceInspector.Command.Builtin
import ResourceInspector.Command.Dispatch
/-!
# Registries

The handlers that are registered under the names of commands.
-/

namespace ResourceInspector.Command

/-- The handlers registered under each name, the names in order. -/
structure Registry where
  entries : List (String × List Handler)

namespace Registry

def empty : Registry := ⟨[]⟩

/-- Adds a handler behind those of a name in the entries. -/
def addTo (name : String) (handler : Handler) :
    List (String × List Handler) → List (String × List Handler)
  | [] => [(name, [handler])]
  | (n, hs) :: rest =>
    if name < n then (name, [handler]) :: (n, hs) :: rest
    else if n = name then (n, hs ++ [handler]) :: rest
    else (n, hs) :: addTo name handler rest

/-- Registers a handler of any kind. -/
def add (r : Registry) (name : String) (handler : Handler) : Registry :=
  ⟨addTo name handler r.entries⟩

/-- The handlers of a command, in the order they were registered. -/
def handlers? (r : Registry) (name : String) : Option (List Handler) :=
  r.entries.lookup name

def names (r : Registry) : List String :=
  r.entries.map (·.1)

/-- The commands that come with the program, as it was built from a revision. -/
def builtin (revision : Option String := Builtin.revision) : Registry :=
  [("gvr", Builtin.joinGroupVersion), ("gvr", Builtin.checkResource), ("gvr", Builtin.describe),
   ("sort", Builtin.sort), ("can", Builtin.can), ("can", Builtin.audit),
   ("actions", Builtin.actions), ("version", Builtin.version revision)].foldl
    (fun r (name, handler) => r.add name handler) empty

/-- Registers a handler from outside. Handlers that find results are refused. -/
def register (r : Registry) (name : String) (handler : Handler) : Except Failure Registry :=
  if handler.kind = .internal then .error (.reserved name) else .ok (r.add name handler)

/-- Runs the command that a context names. Where no handler is registered for it the context stays
as it is. -/
def execute (r : Registry) (ctx : Context) : Run :=
  match r.handlers? ctx.commandName with
  | some handlers => dispatch handlers ctx
  | none => ⟨.error (.notFound ctx.commandName), ctx, []⟩

end Registry

end ResourceInspector.Command
