import ResourceInspector.Log.Event
import ResourceInspector.Text.Quoted
/-!
# Log lines

An event as a line of text: level, target, message and fields.
-/

namespace ResourceInspector.Log

def FieldValue.text : FieldValue → String
  | .shown t => t
  | .quoted t => Text.quote t
  | .flag b => if b then "true" else "false"

def Event.line (e : Event) : String :=
  e.level.name ++ " " ++ e.target ++ ": " ++ e.message
    ++ String.join (e.fields.map fun (name, value) => " " ++ name ++ "=" ++ value.text)

end ResourceInspector.Log
