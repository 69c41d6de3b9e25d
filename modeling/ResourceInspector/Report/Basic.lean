import ResourceInspector.Json.Printer
import ResourceInspector.Report.Format
import ResourceInspector.Text.Blank
import ResourceInspector.Yaml.Printer
/-!
# Reports

The result of a command as text. The standard form has one line for each member and each item, two
spaces deeper for each level of nesting.
-/

namespace ResourceInspector.Report

/-- A scalar in the standard form: a text as it is and everything else as JSON. -/
def scalar : Json → String
  | .string s => s
  | value => value.compact

/-- A line of the standard form at a level of nesting. -/
def line (depth : Nat) (text : String) : String :=
  String.ofList (List.replicate (2 * depth) ' ') ++ text

mutual

/-- The lines of a value at a level of nesting. -/
def lines (depth : Nat) : Json → List String
  | .object members => memberLines depth members
  | .array items => itemLines depth items
  | value => [line depth (scalar value)]

def itemLines (depth : Nat) : List Json → List String
  | [] => []
  | item :: rest => labelledLines depth "-" item ++ itemLines depth rest

def memberLines (depth : Nat) : List (String × Json) → List String
  | [] => []
  | (name, value) :: rest => labelledLines depth (name ++ ":") value ++ memberLines depth rest

/-- The lines of a value behind a label. A collection starts on the line below and one level
deeper. -/
def labelledLines (depth : Nat) (label : String) : Json → List String
  | .object members => line depth label :: memberLines (depth + 1) members
  | .array items => line depth label :: itemLines (depth + 1) items
  | value => [line depth (label ++ " " ++ scalar value)]

end

/-- The standard form, without blanks at its end. -/
def standard (value : Json) : String :=
  Text.trimEnd (String.join ((lines 0 value).map (· ++ "\n")))

/-- The text of a value in a format. Only JSON has an indented form of its own. -/
def render (value : Json) (format : Format) (pretty : Bool) : String :=
  match format with
  | .standard => standard value
  | .json => if pretty then value.pretty else value.compact
  | .yaml => Text.trimEnd (Yaml.render value)

end ResourceInspector.Report
