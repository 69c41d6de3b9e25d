/-!
# Characters of YAML

The classes of characters that the rules of YAML speak of.
-/

namespace ResourceInspector.Yaml

def isBreak (c : Char) : Bool :=
  c == '\n' || c == '\r' || c == '\u0085' || c == '\u2028' || c == '\u2029'

def isBlank (c : Char) : Bool :=
  c == ' ' || c == '\t'

/-- A blank, a break, or the end of the text. -/
def isGap (c? : Option Char) : Bool :=
  match c? with
  | none => true
  | some c => isBlank c || isBreak c || c == '\x00'

/-- A character that may be written as it is. -/
def isPrintable (c : Char) : Bool :=
  let n := c.toNat
  n == 0x0A || (0x20 ≤ n && n ≤ 0x7E) || (0xA0 ≤ n && n != 0xFEFF && n != 0xFFFE && n != 0xFFFF)

/-- A character of a name: a letter, a digit, a hyphen or a low line. -/
def isWord (c : Char) : Bool :=
  c.isAlphanum || c == '-' || c == '_'

end ResourceInspector.Yaml
