import ResourceInspector.Decimal.Layout
import ResourceInspector.Json.Basic
import ResourceInspector.Text.Hexadecimal
/-!
# JSON text

A value is written on one line without blanks, or over several lines with two spaces for each level
of nesting. Members keep the order of their names.
-/

namespace ResourceInspector.Json

/-- The form of a character in a string. Only the control characters of ASCII, the quote and the
backslash are escaped. -/
def escape (c : Char) : String :=
  match c with
  | '"' => "\\\""
  | '\\' => "\\\\"
  | '\x08' => "\\b"
  | '\x0c' => "\\f"
  | '\n' => "\\n"
  | '\r' => "\\r"
  | '\t' => "\\t"
  | c => if c.toNat < 0x20 then "\\u" ++ Text.hexadecimalPadded 4 c.toNat else c.toString

def quoteString (s : String) : String :=
  "\"" ++ String.join (s.toList.map escape) ++ "\""

/-- Numbers go without an exponent from 0.00001 up to below 10^16, and an exponent has its sign. -/
def numberLayout : Decimal.Layout :=
  ⟨-5, 15, "+"⟩

def Number.render : Number → String
  | .integer n => toString n
  | .float x => numberLayout.binary64 x

/-- The text of a value that is no array and no object. -/
def renderScalar : Json → String
  | .bool b => if b then "true" else "false"
  | .number n => n.render
  | .string s => quoteString s
  | _ => "null"

mutual

/-- The text of a value on one line. -/
def compact : Json → String
  | .array items => "[" ++ compactItems items ++ "]"
  | .object members => "\x7b" ++ compactMembers members ++ "\x7d"
  | value => renderScalar value

/-- The items of an array with commas between them. -/
def compactItems : List Json → String
  | [] => ""
  | [item] => compact item
  | item :: rest => compact item ++ "," ++ compactItems rest

/-- The members of an object with commas between them. -/
def compactMembers : List (String × Json) → String
  | [] => ""
  | [(name, value)] => quoteString name ++ ":" ++ compact value
  | (name, value) :: rest =>
    quoteString name ++ ":" ++ compact value ++ "," ++ compactMembers rest

end

/-- A line break and the indentation of a nesting level. -/
def newLine (depth : Nat) : String :=
  "\n" ++ String.ofList (List.replicate (2 * depth) ' ')

mutual

/-- The text of a value over several lines, from inside `depth` levels of nesting. -/
def prettyAt (depth : Nat) : Json → String
  | .array [] => "[]"
  | .array items => "[" ++ prettyItems (depth + 1) items ++ newLine depth ++ "]"
  | .object [] => "\x7b\x7d"
  | .object members => "\x7b" ++ prettyMembers (depth + 1) members ++ newLine depth ++ "\x7d"
  | value => renderScalar value

/-- The items of an array, each on a line of its own. -/
def prettyItems (depth : Nat) : List Json → String
  | [] => ""
  | [item] => newLine depth ++ prettyAt depth item
  | item :: rest => newLine depth ++ prettyAt depth item ++ "," ++ prettyItems depth rest

/-- The members of an object, each on a line of its own. -/
def prettyMembers (depth : Nat) : List (String × Json) → String
  | [] => ""
  | [(name, value)] => newLine depth ++ quoteString name ++ ": " ++ prettyAt depth value
  | (name, value) :: rest =>
    newLine depth ++ quoteString name ++ ": " ++ prettyAt depth value ++ ","
      ++ prettyMembers depth rest

end

/-- The text of a value over several lines. -/
def pretty (value : Json) : String :=
  prettyAt 0 value

end ResourceInspector.Json
