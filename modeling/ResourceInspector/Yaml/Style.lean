import ResourceInspector.Yaml.Char
/-!
# Styles of scalars

A text can be written plainly, between single or double quotes, or as a literal block. Which of
these read back as the text depends on the characters it has at its start, at its end and next to
each other.
-/

namespace ResourceInspector.Yaml

inductive Style where
  | plain
  | singleQuoted
  | doubleQuoted
  | literal
  | folded
deriving Repr, DecidableEq

/-- The characters that open something else at the start of a scalar. -/
def isIndicator (c : Char) : Bool :=
  "#,[]\x7b\x7d&*!|>'\"%@`".toList.contains c

/-- Whether a text looks like a document marker or like a comment, an entry, a key or another
construct at one of its characters. `before` says that a gap comes before the text at hand, and
`atStart` that nothing does. -/
def looksLikeStructure (atStart before : Bool) : List Char → Bool
  | [] => false
  | c :: rest =>
    let gapAfter := isGap rest.head?
    let here :=
      if atStart then
        isIndicator c || ((c == '?' || c == ':' || c == '-') && gapAfter)
      else (c == ':' && gapAfter) || (c == '#' && before)
    here || looksLikeStructure false (isGap (some c)) rest

/-- Whether a text starts like a line between documents. -/
def startsLikeMarker (s : List Char) : Bool :=
  "---".toList.isPrefixOf s || "...".toList.isPrefixOf s

/-- Whether a character of the first kind is followed by one of the second kind. -/
def hasPair (first second : Char → Bool) : List Char → Bool
  | a :: b :: rest => (first a && second b) || hasPair first second (b :: rest)
  | _ => false

/-- The space, which unlike the tab may be written as it is. -/
def isSpace (c : Char) : Bool :=
  c == ' '

/-- Whether the first or the last character of a text satisfies `p`. -/
def atEnds (p : Char → Bool) (s : List Char) : Bool :=
  s.head?.any p || s.getLast?.any p

/-- Whether every character shows as itself and no space is lost at the end of a line. -/
def isClean (s : List Char) : Bool :=
  s.all isPrintable && !hasPair isSpace isBreak s

def isMultiline (s : List Char) : Bool :=
  s.any isBreak

def allowsPlain (s : List Char) : Bool :=
  isClean s && !isMultiline s && !atEnds isSpace s && !startsLikeMarker s
    && !looksLikeStructure true true s

def allowsSingleQuoted (s : List Char) : Bool :=
  isClean s && !hasPair isBreak isSpace s

/-- Whether a text may be written as a block. -/
def allowsBlock (s : List Char) : Bool :=
  isClean s && !s.isEmpty && !s.getLast?.any isSpace

/-- The style to write a text in where the given one is wished for: the wished one if the text
allows it, and one of the quoted styles otherwise. -/
def Style.allowed (wish : Style) (s : List Char) : Style :=
  let quoted := if allowsSingleQuoted s then Style.singleQuoted else .doubleQuoted
  match wish with
  | .plain => if allowsPlain s then .plain else quoted
  | .singleQuoted => quoted
  | .doubleQuoted => .doubleQuoted
  | .literal => if allowsBlock s then .literal else .doubleQuoted
  | .folded => if allowsBlock s then .folded else .doubleQuoted

end ResourceInspector.Yaml
