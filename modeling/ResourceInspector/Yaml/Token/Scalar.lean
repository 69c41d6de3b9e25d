import ResourceInspector.Yaml.Cell
import ResourceInspector.Text.Hexadecimal
/-!
# Reading scalars

The text that a plain scalar, a quoted scalar or a block stands for. A single break between words
is read as a space, and of several breaks all but the first count.
-/

namespace ResourceInspector.Yaml

/-! ## Gaps -/

/-- What stands between two words: the blanks up to the first break, that break, and the breaks
after it. A break that is escaped is there and empty. -/
structure Gap where
  blanks : List Char := []
  first : Option (List Char) := none
  more : List Char := []
deriving Repr, DecidableEq

namespace Gap

/-- Adds a blank. Blanks after a break do not count. -/
def addBlank (g : Gap) (c : Char) : Gap :=
  if g.first.isNone then { g with blanks := g.blanks ++ [c] } else g

/-- Adds a break. Blanks before a break do not count. -/
def addBreak (g : Gap) (c : Char) : Gap :=
  if g.first.isNone then { g with blanks := [], first := some [c] }
  else { g with more := g.more ++ [c] }

def isBroken (g : Gap) : Bool :=
  g.first.isSome

/-- What a gap is read as. -/
def text (g : Gap) : List Char :=
  match g.first with
  | none => g.blanks
  | some ['\n'] => if g.more.isEmpty then [' '] else g.more
  | some first => first ++ g.more

end Gap

/-! ## Plain scalars -/

/-- Whether a plain scalar ends before a character: before a colon with a gap behind it, and before
the marks of flow collections inside of one. -/
def endsPlain (inFlow : Bool) (c : Char) (rest : List Cell) : Bool :=
  (c == ':' && atGap rest) || (inFlow && ",[]\x7b\x7d".toList.contains c)

/-- Whether a colon stands where it can be neither text nor mark. -/
def isStrayColon (inFlow : Bool) (c : Char) (rest : List Cell) : Bool :=
  inFlow && c == ':' && (peek rest).any ",?[]\x7b\x7d".toList.contains

/-- Reads a plain scalar whose lines are indented by at least `indent`. It yields the text, whether
a break follows, and what comes after. `inWord` says that the cells at hand continue a word. -/
def readPlain (inFlow : Bool) (indent : Int) (inWord : Bool) (gap : Gap) :
    List Cell → Option (List Char × Bool × List Cell)
  | [] => some ([], gap.isBroken, [])
  | c :: rest =>
    if c.isBlank then
      if gap.isBroken ∧ (c.column : Int) < indent ∧ c.char = '\t' then none
      else readPlain inFlow indent false (gap.addBlank c.char) rest
    else if c.isBreak then readPlain inFlow indent false (gap.addBreak c.char) rest
    else if !inWord && ((!inFlow && gap.isBroken && (c.column : Int) < indent)
        || atAnyMarker (c :: rest) || c.char == '#') then
      some ([], gap.isBroken, c :: rest)
    else if isStrayColon inFlow c.char rest then none
    else if endsPlain inFlow c.char rest then some ([], gap.isBroken, c :: rest)
    else do
      let (text, broken, rest) ← readPlain inFlow indent true {} rest
      return (gap.text ++ c.char :: text, broken, rest)

/-! ## Quoted scalars -/

/-- Reads a scalar after its opening single quote. -/
def readSingleQuoted (gap : Gap) : List Cell → Option (List Char × List Cell)
  | [] => none
  | c :: rest =>
    if c.isBlank then readSingleQuoted (gap.addBlank c.char) rest
    else if c.isBreak then readSingleQuoted (gap.addBreak c.char) rest
    else if atAnyMarker (c :: rest) then none
    else if c.char = '\'' then
      match rest with
      | d :: rest =>
        if d.char = '\'' then do
          let (text, rest) ← readSingleQuoted {} rest
          return (gap.text ++ '\'' :: text, rest)
        else some (gap.text, d :: rest)
      | [] => some (gap.text, [])
    else do
      let (text, rest) ← readSingleQuoted {} rest
      return (gap.text ++ c.char :: text, rest)

/-- The characters that an escape of one letter stands for. -/
def simpleEscapes : List (Char × Char) :=
  [('0', '\x00'), ('a', '\x07'), ('b', '\x08'), ('t', '\t'), ('\t', '\t'), ('n', '\n'),
   ('v', '\x0b'), ('f', '\x0c'), ('r', '\r'), ('e', '\x1b'), (' ', ' '), ('"', '"'), ('/', '/'),
   ('\\', '\\'), ('N', '\u0085'), ('_', '\u00a0'), ('L', '\u2028'), ('P', '\u2029')]

/-- The letters of escapes by number, with how many digits follow. -/
def numericEscapes : List (Char × Nat) :=
  [('x', 2), ('u', 4), ('U', 8)]

/-- The character that digits number, if there is one. -/
def numberedChar? (width : Nat) (digits : List Cell) : Option Char := do
  if digits.length ≠ width then none
  let values ← digits.mapM fun d => Text.hexValue? d.char
  let n := values.foldl (fun n v => 16 * n + v.val) 0
  if n ≤ 0x10FFFF ∧ !(0xD800 ≤ n ∧ n ≤ 0xDFFF) then some (Char.ofNat n) else none

/-- The character of an escape, and how many cells it takes behind its letter. -/
def escaped? (letter : Char) (rest : List Cell) : Option (Char × Nat) :=
  match numericEscapes.lookup letter with
  | some width => (numberedChar? width (rest.take width)).map fun c => (c, width)
  | none => (simpleEscapes.lookup letter).map fun c => (c, 0)

/-- Reads a scalar after its opening double quote. -/
def readDoubleQuoted (gap : Gap) (cells : List Cell) : Option (List Char × List Cell) :=
  match cells with
  | [] => none
  | c :: rest =>
    if c.isBlank then readDoubleQuoted (gap.addBlank c.char) rest
    else if c.isBreak then readDoubleQuoted (gap.addBreak c.char) rest
    else if atAnyMarker (c :: rest) then none
    else if c.char = '"' then some (gap.text, rest)
    else if c.char = '\\' then
      match rest with
      | [] => none
      | d :: rest =>
        if d.isBreak then do
          let (text, rest) ← readDoubleQuoted { first := some [] } rest
          return (gap.text ++ text, rest)
        else do
          let (e, width) ← escaped? d.char rest
          let (text, rest) ← readDoubleQuoted {} (rest.drop width)
          return (gap.text ++ e :: text, rest)
    else do
      let (text, rest) ← readDoubleQuoted {} rest
      return (gap.text ++ c.char :: text, rest)
termination_by cells.length
decreasing_by
  all_goals simp
  all_goals omega

/-! ## Blocks -/

/-- What becomes of the breaks at the end of a block. -/
inductive Chomp where
  | strip
  | clip
  | keep
deriving Repr, DecidableEq

/-- The marks behind the indicator of a block: how many columns it is indented by, if that is said,
and what becomes of the breaks at its end. They come in either order. -/
def blockHeader? (cells : List Cell) : Option (Option Nat × Chomp × List Cell) :=
  let chomp? : List Cell → Option (Chomp × List Cell) := fun cells =>
    match cells with
    | c :: rest =>
      if c.char = '+' then some (.keep, rest)
      else if c.char = '-' then some (.strip, rest) else none
    | [] => none
  let digit? : List Cell → Option (Nat × List Cell) := fun cells =>
    match cells with
    | c :: rest => if c.char.isDigit then some (c.char.toNat - '0'.toNat, rest) else none
    | [] => none
  let checked := fun (width : Nat) (chomp : Chomp) (rest : List Cell) =>
    if width = 0 then none else some (some width, chomp, rest)
  match chomp? cells with
  | some (chomp, rest) =>
    match digit? rest with
    | some (width, rest) => checked width chomp rest
    | none => some (none, chomp, rest)
  | none =>
    match digit? cells with
    | some (width, rest) =>
      match chomp? rest with
      | some (chomp, rest) => checked width chomp rest
      | none => checked width .clip rest
    | none => some (none, .clip, cells)

/-- Passes over the indentation and the empty lines before a line of a block. It yields the widest
indentation that was seen, the breaks, and what comes after. While the indentation is not known all
spaces belong to it. -/
def blockBreaks (indent : Option Nat) (widest : Nat) (breaks : List Char) :
    List Cell → Option (Nat × List Char × List Cell)
  | [] => some (widest, breaks, [])
  | c :: rest =>
    let inIndent := indent.all (c.column < ·)
    if c.char = ' ' ∧ inIndent then blockBreaks indent (max widest (c.column + 1)) breaks rest
    else if c.char = '\t' ∧ inIndent then none
    else if c.isBreak then blockBreaks indent (max widest c.column) (breaks ++ [c.char]) rest
    else some (max widest c.column, breaks, c :: rest)

/-- How a line of a folded block joins the text before it: a single break between two lines that do
not start with a blank is a space. -/
def foldedJoin (lastBreak breaks : List Char) (blankBefore blankAfter : Bool) : List Char :=
  if lastBreak = ['\n'] ∧ !blankBefore ∧ !blankAfter then
    if breaks.isEmpty then [' '] else breaks
  else lastBreak ++ breaks

/-- The text of a block so far: the breaks after its last line are kept apart. -/
structure Block where
  text : List Char := []
  lastBreak : List Char := []
  breaks : List Char
  startsBlank : Bool := false

/-- Reads the lines of a block. Each takes at least one cell, so `fuel` needs to be no more than
their number. -/
def readBlockLines (literal : Bool) (indent : Nat) (fuel : Nat) (b : Block) (cells : List Cell) :
    Option (Block × List Cell) :=
  match fuel, cells with
  | fuel + 1, c :: _ =>
    if c.column ≠ indent then some (b, cells)
    else do
      let join :=
        if literal then b.lastBreak ++ b.breaks
        else foldedJoin b.lastBreak b.breaks b.startsBlank c.isBlank
      let line := cells.takeWhile (!·.isBreak)
      let after := cells.dropWhile (!·.isBreak)
      let (_, breaks, rest) ← blockBreaks (some indent) 0 [] after.tail
      readBlockLines literal indent fuel
        { text := b.text ++ join ++ chars line
          lastBreak := chars (after.take 1)
          breaks := breaks
          startsBlank := c.isBlank } rest
  | _, _ => some (b, cells)

/-- Reads a block after its indicator, inside a collection that is indented by `parent`. -/
def readBlock (literal : Bool) (parent : Int) (cells : List Cell) :
    Option (List Char × List Cell) := do
  let (width, chomp, rest) ← blockHeader? cells
  let rest ← endLine? rest
  let given := width.map fun w => (max parent 0).toNat + w
  let (widest, breaks, rest) ← blockBreaks given 0 [] rest
  let indent := given.getD (max widest (max (parent + 1).toNat 1))
  let (b, rest) ← readBlockLines literal indent rest.length { breaks := breaks } rest
  let tail := match chomp with
    | .strip => []
    | .clip => b.lastBreak
    | .keep => b.lastBreak ++ b.breaks
  return (b.text ++ tail, rest)

end ResourceInspector.Yaml
