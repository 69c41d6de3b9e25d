import ResourceInspector.Command.Context
import ResourceInspector.Encoding.Record
/-!
# The JSON form of command contexts

A context is written without its cancellation, and without a result where there is none.
-/

namespace ResourceInspector.Command.Context

def toJson (ctx : Context) : Json :=
  Json.ofMembers
    ([("command_name", .string ctx.commandName), ("parameters", .object ctx.parameters),
      ("activity_id", .string ctx.activityId.toText)]
      ++ match ctx.result with
        | some value => [("result", value)]
        | none => [])

/-- A result. Null stands for none. -/
def resultOfJson : Json → Encoding.Decoded (Option Json)
  | .null => .ok none
  | value => .ok (some value)

/-- All but the result have to be given. -/
def layout : Encoding.Layout Context where
  name := "CommandContext"
  blank := { commandName := "", activityId := .nil }
  fields :=
    [.mandatory "command_name" Encoding.string fun c s => { c with commandName := s },
     .mandatory "parameters" Encoding.members fun c m => { c with parameters := m },
     .mandatory "activity_id" Encoding.uuid fun c u => { c with activityId := u },
     .optional "result" resultOfJson fun c v => { c with result := v }]

/-- Reads a context. It is not cancelled. -/
def ofJson (value : Json) : Encoding.Decoded Context :=
  layout.decode value

end ResourceInspector.Command.Context
