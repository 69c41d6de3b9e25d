import ResourceInspector.Json.Basic
import ResourceInspector.Decimal.Layout
import ResourceInspector.Text.Hexadecimal
import ResourceInspector.Yaml.Style
/-!
# YAML text

JSON values are written as YAML blocks, two spaces to a level. The items of an array under a key
stand below the key itself. Texts that could be taken for something else are quoted, and texts of
several lines become literal blocks.
-/

namespace ResourceInspector.Yaml

/-! ## Scalars -/

/-- Words that some reader takes for a truth value, for null or for a number. -/
def reservedWords : List String :=
  ["y", "yes", "n", "no", "on", "off", "true", "false", "null", "nan", "~"]

/-- Whether a text could be taken for something that is no text: a reserved word in any case, or
what starts like a number. -/
def isAmbiguous (s : String) : Bool :=
  match s.toList with
  | [] => true
  | c :: _ => c.isDigit || c == '-' || c == '.' || c == '+' || reservedWords.contains s.toLower

/-- The style that is wished for a text. -/
def wishedStyle (s : String) : Style :=
  if s.toList.contains '\n' then .literal
  else if isAmbiguous s then .singleQuoted
  else .plain

def indentation (n : Nat) : List Char :=
  List.replicate n ' '

/-- Writes characters that may hold breaks. The first character after a break is indented; `fresh`
says that a break comes before the characters at hand. -/
def indentLines (indent : Nat) (write : Char → List Char) (fresh : Bool) : List Char → List Char
  | [] => []
  | c :: rest =>
    if isBreak c then c :: indentLines indent write true rest
    else (if fresh then indentation indent else []) ++ write c
      ++ indentLines indent write false rest

/-- A text between single quotes, in which a quote is written twice. -/
def singleQuoted (indent : Nat) (s : List Char) : List Char :=
  let body := indentLines indent (fun c => if c = '\'' then ['\'', '\''] else [c]) false s
  '\'' :: body ++ (if s.getLast?.any isBreak then indentation indent else []) ++ ['\'']

def hexNumber (width n : Nat) : List Char :=
  (Text.hexadecimalPadded width n).toList.map Char.toUpper

/-- The form of a character between double quotes. -/
def escape (c : Char) : List Char :=
  match c.toNat with
  | 0x00 => ['\\', '0']
  | 0x07 => ['\\', 'a']
  | 0x08 => ['\\', 'b']
  | 0x09 => ['\\', 't']
  | 0x0A => ['\\', 'n']
  | 0x0B => ['\\', 'v']
  | 0x0C => ['\\', 'f']
  | 0x0D => ['\\', 'r']
  | 0x1B => ['\\', 'e']
  | 0x22 => ['\\', '"']
  | 0x5C => ['\\', '\\']
  | 0x85 => ['\\', 'N']
  | 0x2028 => ['\\', 'L']
  | 0x2029 => ['\\', 'P']
  | n =>
    if isPrintable c then [c]
    else if n ≤ 0xFF then '\\' :: 'x' :: hexNumber 2 n
    else if n ≤ 0xFFFF then '\\' :: 'u' :: hexNumber 4 n
    else '\\' :: 'U' :: hexNumber 8 n

def doubleQuoted (s : List Char) : List Char :=
  '"' :: s.flatMap escape ++ ['"']

/-- The number that has to say how far a block is indented where its first line does not show it. -/
def indentHint (s : List Char) : List Char :=
  if s.head?.any fun c => isSpace c || isBreak c then ['2'] else []

/-- What becomes of the breaks at the end of a block: without a mark there is one, `-` stands for
none and `+` for all there are. -/
def chompHint (s : List Char) : List Char :=
  match s.reverse with
  | [] => ['-']
  | [c] => if isBreak c then ['+'] else ['-']
  | c :: d :: _ => if !isBreak c then ['-'] else if isBreak d then ['+'] else []

/-- A text as a block that keeps its lines. -/
def literalBlock (indent : Nat) (s : List Char) : List Char :=
  '|' :: indentHint s ++ chompHint s ++ '\n' :: indentLines indent ([·]) true s

/-- A text in the style it is wished and allowed to have. -/
def text (indent : Nat) (s : String) : List Char :=
  match (wishedStyle s).allowed s.toList with
  | .plain => s.toList
  | .singleQuoted => singleQuoted indent s.toList
  | .doubleQuoted => doubleQuoted s.toList
  | .literal | .folded => literalBlock indent s.toList

/-- Numbers go without an exponent from 0.00001 up to below 10^16, and an exponent has no sign
unless it is negative. -/
def numberLayout : Decimal.Layout :=
  ⟨-5, 15, ""⟩

/-- A value that takes no lines of its own: a scalar or an empty collection. -/
def inlineValue (indent : Nat) : Json → List Char
  | .bool b => (if b then "true" else "false").toList
  | .number (.integer n) => (toString n).toList
  | .number (.float x) => (numberLayout.binary64 x).toList
  | .string s => text indent s
  | .array _ => ['[', ']']
  | .object _ => ['\x7b', '\x7d']
  | .null => "null".toList

/-! ## Blocks -/

/-- Starts a line behind what is written. A literal block may have ended its last line already. -/
def startLine (indent : Nat) (written : List Char) : List Char :=
  written ++ (if written.getLast?.any isBreak then [] else ['\n']) ++ indentation indent

/-- Puts what follows, if anything does, on a line of its own. -/
def above (indent : Nat) (written following : List Char) : List Char :=
  if following.isEmpty then written else startLine indent written ++ following

/-- Whether a key fits on the line of its value: it has one line and at most 128 bytes. -/
def isSimpleKey (key : String) : Bool :=
  !isMultiline key.toList && key.utf8ByteSize ≤ 128

/-- A key up to its colon. One that does not fit on the line of its value has an indicator and
lines of its own. -/
def keyText (indent : Nat) (key : String) : List Char :=
  if isSimpleKey key then text (indent + 2) key ++ [':']
  else startLine indent ('?' :: ' ' :: text (indent + 2) key) ++ [':']

mutual

/-- A value behind an indicator in the column `indent`. A block starts on the line of the
indicator. -/
def afterIndicator (indent : Nat) : Json → List Char
  | .array [] => ' ' :: inlineValue (indent + 2) (.array [])
  | .array items => ' ' :: sequence (indent + 2) items
  | .object [] => ' ' :: inlineValue (indent + 2) (.object [])
  | .object members => ' ' :: mapping (indent + 2) members
  | value => ' ' :: inlineValue (indent + 2) value

/-- A value behind a key that fits on its line. A mapping is indented below the key and a sequence
is not. -/
def afterKey (indent : Nat) : Json → List Char
  | .array [] => ' ' :: inlineValue (indent + 2) (.array [])
  | .array items => '\n' :: indentation indent ++ sequence indent items
  | .object [] => ' ' :: inlineValue (indent + 2) (.object [])
  | .object members => '\n' :: indentation (indent + 2) ++ mapping (indent + 2) members
  | value => ' ' :: inlineValue (indent + 2) value

def sequence (indent : Nat) : List Json → List Char
  | [] => []
  | item :: rest => above indent ('-' :: afterIndicator indent item) (sequence indent rest)

def mapping (indent : Nat) : List (String × Json) → List Char
  | [] => []
  | (key, value) :: rest =>
    above indent
      (keyText indent key
        ++ if isSimpleKey key then afterKey indent value else afterIndicator indent value)
      (mapping indent rest)

end

def render : Json → String
  | .array (item :: rest) => String.ofList (sequence 0 (item :: rest))
  | .object (member :: rest) => String.ofList (mapping 0 (member :: rest))
  | value => String.ofList (inlineValue 2 value)

end ResourceInspector.Yaml
