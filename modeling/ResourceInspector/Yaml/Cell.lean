import ResourceInspector.Yaml.Char
/-!
# Characters in their places

A text as a list of characters that know their line and column. Breaks of every spelling are one
line feed, except for the line and paragraph separators, which stay what they are.
-/

namespace ResourceInspector.Yaml

/-- Whether a character may occur in a text at all. -/
def isAllowed (c : Char) : Bool :=
  isPrintable c || c == '\t' || c == '\r' || c == '\u0085' || c == '\uFEFF'

/-- The text with a line feed for each break of another spelling. -/
def unifyBreaks : List Char → List Char
  | '\r' :: '\n' :: rest => '\n' :: unifyBreaks rest
  | c :: rest => (if c = '\r' ∨ c = '\u0085' then '\n' else c) :: unifyBreaks rest
  | [] => []

/-- A character with its line and column, both counted from zero. -/
structure Cell where
  char : Char
  line : Nat
  column : Nat
deriving Repr, DecidableEq

namespace Cell

/-- Places characters from a line and column on. -/
def place (line column : Nat) : List Char → List Cell
  | [] => []
  | c :: rest =>
    ⟨c, line, column⟩
      :: if isBreak c then place (line + 1) 0 rest else place line (column + 1) rest

/-- The cells of a text, unless it holds a character that is not allowed. -/
def ofString? (s : String) : Option (List Cell) :=
  if s.toList.all isAllowed then some (place 0 0 (unifyBreaks s.toList)) else none

def isBlank (c : Cell) : Bool := Yaml.isBlank c.char

def isBreak (c : Cell) : Bool := Yaml.isBreak c.char

end Cell

def peek (cells : List Cell) : Option Char :=
  cells.head?.map (·.char)

/-- Whether a blank, a break or the end comes next. -/
def atGap (cells : List Cell) : Bool :=
  isGap (peek cells)

def chars (cells : List Cell) : List Char :=
  cells.map (·.char)

/-- Whether a line starts here that stands between documents, made of the given character. -/
def atMarker (mark : Char) : List Cell → Bool
  | a :: b :: c :: rest =>
    a.column == 0 && a.char == mark && b.char == mark && c.char == mark && atGap rest
  | _ => false

/-- Whether a line starts here that stands between documents. -/
def atAnyMarker (cells : List Cell) : Bool :=
  atMarker '-' cells || atMarker '.' cells

/-- The cells after the blanks and the comment at the end of a line, and after the break. There may
be nothing else. -/
def endLine? (cells : List Cell) : Option (List Cell) :=
  let afterBlanks := cells.dropWhile Cell.isBlank
  let rest :=
    if peek afterBlanks = some '#' then afterBlanks.dropWhile (!·.isBreak) else afterBlanks
  match rest with
  | [] => some []
  | c :: after => if c.isBreak then some after else none

end ResourceInspector.Yaml
