import ResourceInspector.Yaml.Token.Basic
import ResourceInspector.Yaml.Token.Scalar
/-!
# Cutting a text into tokens

Tokens are cut from the left. Where a key of a mapping may stand the place is remembered, and when
a colon follows on the same line the marks of the key are put in there.
-/

namespace ResourceInspector.Yaml

namespace Token

/-! ## Names, directives and tags -/

/-- Reads the name of an anchor or an alias, which has to end where a word ends. -/
def readName (cells : List Cell) : Option (String × List Cell) :=
  let name := chars (cells.takeWhile fun c => isWord c.char)
  let rest := cells.dropWhile fun c => isWord c.char
  let ends := atGap rest || (peek rest).any "?:,]\x7d%@`".toList.contains
  if !name.isEmpty && ends then some (String.ofList name, rest) else none

/-- A character of a tag. Inside `<>` the marks of flow collections are allowed as well. -/
def isTagChar (verbatim : Bool) (c : Char) : Bool :=
  isWord c || ";/?:@&=+$.%!~*'()".toList.contains c || (verbatim && ",[]".toList.contains c)

/-- The bytes that escapes by number stand for, the rest being ASCII. -/
def tagBytes? : List Char → Option (List UInt8)
  | [] => some []
  | '%' :: a :: b :: rest => do
    let high ← Text.hexValue? a
    let low ← Text.hexValue? b
    return UInt8.ofNat (16 * high.val + low.val) :: (← tagBytes? rest)
  | '%' :: _ => none
  | c :: rest => do return UInt8.ofNat c.toNat :: (← tagBytes? rest)

def readTagText (verbatim : Bool) (cells : List Cell) : Option (String × List Cell) := do
  let text := chars (cells.takeWhile fun c => isTagChar verbatim c.char)
  let bytes ← tagBytes? text
  let decoded ← String.fromUTF8? ⟨bytes.toArray⟩
  return (decoded, cells.dropWhile fun c => isTagChar verbatim c.char)

/-- Reads the handle of a tag: a word after an exclamation mark, and another mark if there is
one. -/
def readHandle : List Cell → Option (List Char × List Cell)
  | c :: rest =>
    if c.char ≠ '!' then none
    else
      let word := '!' :: chars (rest.takeWhile fun c => isWord c.char)
      match rest.dropWhile fun c => isWord c.char with
      | d :: after => if d.char = '!' then some (word ++ ['!'], after) else some (word, d :: after)
      | [] => some (word, [])
  | [] => none

/-- Whether a handle is closed by a mark of its own. -/
def isClosedHandle (handle : List Char) : Bool :=
  2 ≤ handle.length && handle.getLast? == some '!'

/-- Reads a tag from its exclamation mark on. A word without a second mark is the start of the text
and not a handle. -/
def readTag (inFlow : Bool) (cells : List Cell) : Option (Token × List Cell) := do
  let (token, rest) ←
    if peek cells.tail = some '<' then do
      let (text, rest) ← readTagText true (cells.drop 2)
      if text.isEmpty then none
      if peek rest = some '>' then some (Token.tag "" text, rest.tail) else none
    else do
      let (handle, afterHandle) ← readHandle cells
      let (text, rest) ← readTagText false afterHandle
      if isClosedHandle handle then
        if text.isEmpty then none else some (Token.tag (String.ofList handle) text, rest)
      else
        let word := String.ofList handle.tail ++ text
        some (if word.isEmpty then Token.tag "" "!" else Token.tag "!" word, rest)
  if atGap rest || (inFlow && peek rest = some ',') then some (token, rest) else none

/-- Reads a number of a version, which has at most nine digits. -/
def readVersionNumber (cells : List Cell) : Option (Nat × List Cell) :=
  let digits := cells.takeWhile fun c => c.char.isDigit
  if digits.isEmpty || 9 < digits.length then none
  else some ((chars digits).foldl (fun n d => 10 * n + (d.toNat - '0'.toNat)) 0,
    cells.drop digits.length)

/-- Reads a directive after its percent sign, together with its line. -/
def readDirective (cells : List Cell) : Option (Token × List Cell) := do
  let name := String.ofList (chars (cells.takeWhile fun c => isWord c.char))
  let rest := cells.dropWhile fun c => isWord c.char
  if !atGap rest then none
  let rest := rest.dropWhile Cell.isBlank
  let (token, rest) ←
    match name with
    | "YAML" => do
      let (major, rest) ← readVersionNumber rest
      if peek rest ≠ some '.' then none
      let (minor, rest) ← readVersionNumber rest.tail
      some (Token.versionDirective major minor, rest)
    | "TAG" => do
      let (handle, rest) ← readHandle rest
      if !isClosedHandle handle && handle.length ≠ 1 then none
      if !(peek rest).any Yaml.isBlank then none
      let (start, rest) ← readTagText true (rest.dropWhile Cell.isBlank)
      if start.isEmpty || !atGap rest then none
      some (Token.tagDirective (String.ofList handle) start, rest)
    | _ => none
  return (token, ← endLine? rest)

end Token

/-! ## The state of the lexer -/

/-- A place where a key may start: the number of tokens before it, the line and column, and whether
nothing but a key may stand there. -/
structure KeyPlace where
  index : Nat
  line : Nat
  column : Nat
  required : Bool
deriving Repr, DecidableEq

/-- What the lexer knows at a place of the text. -/
structure Lexer where
  tokens : List Token := []
  /-- The indentation of the innermost block, -1 outside of all. -/
  indent : Int := -1
  /-- The indentation of the blocks around it. -/
  outerIndents : List Int := []
  /-- The place where a key may have started. -/
  keyPlace : Option KeyPlace := none
  /-- The same for each flow collection that is open around. -/
  outerKeyPlaces : List (Option KeyPlace) := []
  /-- Whether a key may start here. -/
  keyAllowed : Bool := true

namespace Lexer

def inFlow (l : Lexer) : Bool :=
  !l.outerKeyPlaces.isEmpty

def emit (l : Lexer) (t : Token) : Lexer :=
  { l with tokens := l.tokens ++ [t] }

/-- Puts a token in behind the first `index` ones. -/
def insertAt (l : Lexer) (index : Nat) (t : Token) : Lexer :=
  { l with tokens := l.tokens.take index ++ t :: l.tokens.drop index }

/-- Closes the blocks of a list of indentations that lie deeper than a column. -/
def closed (column : Int) (indent : Int) : List Int → Nat × Int × List Int
  | [] => if column < indent then (1, -1, []) else (0, indent, [])
  | outer :: rest =>
    if column < indent then
      let (n, i, is) := closed column outer rest
      (n + 1, i, is)
    else (0, indent, outer :: rest)

/-- Ends the blocks that lie deeper than a column. -/
def unindent (l : Lexer) (column : Int) : Lexer :=
  if l.inFlow then l
  else
    let (n, indent, outer) := closed column l.indent l.outerIndents
    { l with
      tokens := l.tokens ++ List.replicate n .blockEnd
      indent := indent
      outerIndents := outer }

/-- Starts a block at a column that lies deeper than the innermost one, with its token behind the
first `index` ones. -/
def indentAt (l : Lexer) (column : Nat) (index : Nat) (start : Token) : Lexer :=
  if l.inFlow ∨ (column : Int) ≤ l.indent then l
  else
    { l.insertAt index start with
      indent := column
      outerIndents := l.indent :: l.outerIndents }

/-- Forgets the place of a key, unless it has to have been one. -/
def dropKey (l : Lexer) : Option Lexer :=
  if l.keyPlace.any (·.required) then none else some { l with keyPlace := none }

/-- Remembers that a key may start at a cell. -/
def saveKey (l : Lexer) (c : Cell) : Option Lexer :=
  if l.keyAllowed then do
    let l ← l.dropKey
    return { l with keyPlace := some {
      index := l.tokens.length
      line := c.line
      column := c.column
      required := !l.inFlow && l.indent == c.column } }
  else some l

/-- Whether the place of a key is out of reach of a colon at a cell: keys take one line and at most
1024 characters. -/
def KeyPlace.isStale (k : KeyPlace) (c : Cell) : Bool :=
  k.line < c.line || k.column + 1024 < c.column

/-- Forgets the places of keys that are out of reach. -/
def dropStale (c : Cell) (place : Option KeyPlace) : Option (Option KeyPlace) :=
  match place with
  | some k => if KeyPlace.isStale k c then (if k.required then none else some none) else some place
  | none => some none

/-- Forgets all places of keys that are out of reach. -/
def dropAllStale (l : Lexer) (c : Cell) : Option Lexer := do
  return { l with
    keyPlace := ← dropStale c l.keyPlace
    outerKeyPlaces := ← l.outerKeyPlaces.mapM (dropStale c) }

/-! ## Steps -/

/-- Passes over blanks, comments and breaks. A new line outside of flow collections may start a
key. -/
def skipToToken (inFlow keyAllowed inComment : Bool) : List Cell → Bool × List Cell
  | [] => (keyAllowed, [])
  | c :: rest =>
    if c.isBreak then skipToToken inFlow (keyAllowed || !inFlow) false rest
    else if inComment || c.char == '#' then skipToToken inFlow keyAllowed true rest
    else if c.char == ' ' || (c.char == '\t' && (inFlow || !keyAllowed))
        || (c.char == '\uFEFF' && c.column == 0) then
      skipToToken inFlow keyAllowed false rest
    else (keyAllowed, c :: rest)

/-- Ends everything that is open in a document. -/
def endBlocks (l : Lexer) : Option Lexer := do
  let l ← (l.unindent (-1)).dropKey
  return { l with keyAllowed := false }

def openFlow (l : Lexer) (c : Cell) (t : Token) : Option Lexer := do
  let l ← l.saveKey c
  return { l.emit t with
    keyPlace := none, outerKeyPlaces := l.keyPlace :: l.outerKeyPlaces, keyAllowed := true }

def closeFlow (l : Lexer) (t : Token) : Option Lexer := do
  let l ← l.dropKey
  let l := { l.emit t with keyAllowed := false }
  return match l.outerKeyPlaces with
  | [] => l
  | outer :: rest => { l with keyPlace := outer, outerKeyPlaces := rest }

/-- Takes the mark between items of a flow collection. -/
def flowEntry (l : Lexer) : Option Lexer := do
  let l ← l.dropKey
  return { l.emit .flowEntry with keyAllowed := true }

/-- Takes the mark of an item of a block. -/
def blockEntry (l : Lexer) (c : Cell) : Option Lexer := do
  if !l.inFlow && !l.keyAllowed then none
  let l ← (l.indentAt c.column l.tokens.length .blockSequenceStart).dropKey
  return { l.emit .blockEntry with keyAllowed := true }

def explicitKey (l : Lexer) (c : Cell) : Option Lexer := do
  if !l.inFlow && !l.keyAllowed then none
  let l ← (l.indentAt c.column l.tokens.length .blockMappingStart).dropKey
  return { l.emit .key with keyAllowed := !l.inFlow }

/-- Takes the mark of a value. If a key may have started before, it did. -/
def value (l : Lexer) (c : Cell) : Option Lexer :=
  match l.keyPlace with
  | some k =>
    let l := (l.insertAt k.index .key).indentAt k.column k.index .blockMappingStart
    some { l.emit .value with keyPlace := none, keyAllowed := false }
  | none =>
    if !l.inFlow && !l.keyAllowed then none
    else
      let l := l.indentAt c.column l.tokens.length .blockMappingStart
      some { l.emit .value with keyAllowed := !l.inFlow }

/-- Takes something that may be a key or the start of one. -/
def content (l : Lexer) (c : Cell) (read : Option (Token × List Cell)) :
    Option (Lexer × List Cell) := do
  let l ← l.saveKey c
  let (t, rest) ← read
  return ({ l.emit t with keyAllowed := false }, rest)

/-- Takes a plain scalar. Behind a break another key may start. -/
def plain (l : Lexer) (c : Cell) (cells : List Cell) : Option (Lexer × List Cell) := do
  let l ← l.saveKey c
  let (text, broken, rest) ← readPlain l.inFlow (l.indent + 1) false {} cells
  return ({ l.emit (.scalar .plain (String.ofList text)) with keyAllowed := broken }, rest)

def block (l : Lexer) (literal : Bool) (rest : List Cell) : Option (Lexer × List Cell) := do
  let l ← l.dropKey
  let (text, rest) ← readBlock literal l.indent rest
  let style := if literal then Style.literal else .folded
  return ({ l.emit (.scalar style (String.ofList text)) with keyAllowed := true }, rest)

/-- Whether a plain scalar starts at a character. -/
def startsPlain (inFlow : Bool) (c : Char) (rest : List Cell) : Bool :=
  if c == '-' then !(peek rest).any Yaml.isBlank
  else if c == '?' || c == ':' then !inFlow && !atGap rest
  else !isIndicator c && !Yaml.isBlank c

/-- Takes the token at a cell, which is no blank and no break. -/
def take (l : Lexer) (c : Cell) (rest : List Cell) : Option (Lexer × List Cell) :=
  let cells := c :: rest
  let quoted := fun (style : Style) (read : Option (List Char × List Cell)) =>
    l.content c (read.map fun (text, rest) => (.scalar style (String.ofList text), rest))
  let named := fun (token : String → Token) =>
    l.content c ((Token.readName rest).map fun (name, rest) => (token name, rest))
  if c.char = '%' ∧ c.column = 0 then do
    let l ← l.endBlocks
    let (t, rest) ← Token.readDirective rest
    return (l.emit t, rest)
  else if atMarker '-' cells then do return ((← l.endBlocks).emit .documentStart, cells.drop 3)
  else if atMarker '.' cells then do return ((← l.endBlocks).emit .documentEnd, cells.drop 3)
  else
    match c.char with
    | '[' => do return (← l.openFlow c .flowSequenceStart, rest)
    | '\x7b' => do return (← l.openFlow c .flowMappingStart, rest)
    | ']' => do return (← l.closeFlow .flowSequenceEnd, rest)
    | '\x7d' => do return (← l.closeFlow .flowMappingEnd, rest)
    | ',' => do return (← l.flowEntry, rest)
    | '*' => named .alias
    | '&' => named .anchor
    | '!' => l.content c (Token.readTag l.inFlow cells)
    | '\'' => quoted .singleQuoted (readSingleQuoted {} rest)
    | '"' => quoted .doubleQuoted (readDoubleQuoted {} rest)
    | char =>
      if char = '-' ∧ atGap rest then do return (← l.blockEntry c, rest)
      else if char = '?' ∧ (l.inFlow ∨ atGap rest) then do return (← l.explicitKey c, rest)
      else if char = ':' ∧ (l.inFlow ∨ atGap rest) then do return (← l.value c, rest)
      else if char = '|' ∧ !l.inFlow then l.block true rest
      else if char = '>' ∧ !l.inFlow then l.block false rest
      else if startsPlain l.inFlow char rest then l.plain c cells
      else none

/-- Cuts cells into tokens. Each token takes at least one cell, so `fuel` needs to be no more than
one more than their number. -/
def run (fuel : Nat) (l : Lexer) (cells : List Cell) : Option (List Token) :=
  match fuel with
  | 0 => none
  | fuel + 1 =>
    let (keyAllowed, cells) := skipToToken l.inFlow l.keyAllowed false cells
    let l := { l with keyAllowed := keyAllowed }
    match cells with
    | [] => l.endBlocks.map (·.tokens)
    | c :: rest => do
      let l ← l.dropAllStale c
      let (l, rest) ← (l.unindent c.column).take c rest
      run fuel l rest

end Lexer

/-- The tokens of a text, unless it cannot be cut into any. -/
def Token.scan? (s : String) : Option (List Token) := do
  let cells ← Cell.ofString? s
  Lexer.run (cells.length + 1) {} cells

end ResourceInspector.Yaml
