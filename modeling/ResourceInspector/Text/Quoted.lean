import ResourceInspector.Text.Combining
import ResourceInspector.Text.Hexadecimal
/-!
# Quoted texts

A text between double quotes on one line, in which what would not show as itself is escaped.
-/

namespace ResourceInspector.Text

/-- The form of a character between quotes. Common control characters have a letter each. Other
characters that are not printable, or that would attach to the one before, are written by number. -/
def escape (c : Char) : String :=
  match c with
  | '\x00' => "\\0"
  | '\t' => "\\t"
  | '\n' => "\\n"
  | '\r' => "\\r"
  | '"' => "\\\""
  | '\\' => "\\\\"
  | c =>
    if isCombining c || !isPrintable c then "\\u\x7b" ++ hexadecimal c.toNat ++ "\x7d"
    else c.toString

def quote (s : String) : String :=
  "\"" ++ String.join (s.toList.map escape) ++ "\""

end ResourceInspector.Text
