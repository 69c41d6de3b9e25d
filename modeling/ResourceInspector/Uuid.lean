import ResourceInspector.Text.Hexadecimal
/-!
# Universally unique identifiers

Identifiers of thirty-two hexadecimal digits, shown in lower case in five groups with hyphens
between them. They are read in that form, without the hyphens, between braces, and behind
`urn:uuid:`.
-/

namespace ResourceInspector

/-- A universally unique identifier, by its hexadecimal digits. -/
structure Uuid where
  digits : List (Fin 16)
  length_digits : digits.length = 32 := by decide
deriving DecidableEq

namespace Uuid

def nil : Uuid :=
  ⟨List.replicate 32 ⟨0, by decide⟩, by decide⟩

instance : Inhabited Uuid := ⟨nil⟩

/-- The identifier of thirty-two random digits, but for those that tell that it is random. -/
def ofRandom (digit : Fin 32 → Fin 16) : Uuid where
  digits := List.ofFn fun i =>
    if i.val = 12 then ⟨4, by decide⟩
    else if i.val = 16 then ⟨8 + (digit i).val % 4, by omega⟩
    else digit i
  length_digits := List.length_ofFn

def groupLengths : List Nat := [8, 4, 4, 4, 12]

/-- The digits with hyphens between the groups. -/
def toText (u : Uuid) : String :=
  let d := u.digits.map Text.hexDigit
  String.ofList (d.take 8 ++ '-' :: (d.drop 8).take 4 ++ '-' :: (d.drop 12).take 4
    ++ '-' :: (d.drop 16).take 4 ++ '-' :: d.drop 20)

/-- Why a text is no identifier. Positions count bytes from one, and groups from zero. -/
inductive ParseError where
  | character (found : Char) (position : Nat)
  | simpleLength (length : Nat)
  | groupCount (count : Nat)
  | groupLength (group expected length : Nat)
deriving Repr, DecidableEq

def ParseError.message : ParseError → String
  | .character found position =>
    "invalid character: expected an optional prefix of `urn:uuid:` followed by "
      ++ "[0-9a-fA-F-], found `" ++ found.toString ++ "` at " ++ toString position
  | .simpleLength length =>
    "invalid length: expected length 32 for simple format, found " ++ toString length
  | .groupCount count => "invalid group count: expected 5, found " ++ toString count
  | .groupLength group expected length =>
    "invalid group length in group " ++ toString group ++ ": expected " ++ toString expected
      ++ ", found " ++ toString length

/-- A text without what is put around an identifier, the length of what comes before it, and
whether there was nothing around it. -/
structure Wrapped where
  body : List Char
  offset : Nat
  bare : Bool
deriving Repr, DecidableEq

/-- Takes off braces or the name of the scheme. -/
def unwrap (text : List Char) : Wrapped :=
  match text with
  | '{' :: rest =>
    if rest.getLast? = some '}' then ⟨rest.dropLast, 1, false⟩ else ⟨text, 0, true⟩
  | 'u' :: 'r' :: 'n' :: ':' :: 'u' :: 'u' :: 'i' :: 'd' :: ':' :: rest => ⟨rest, 9, false⟩
  | _ => ⟨text, 0, true⟩

def simpleDigits? (text : List Char) : Option (List (Fin 16)) :=
  text.mapM Text.hexValue?

def groupedDigits? (text : List Char) : Option (List (Fin 16)) :=
  let groups := text.splitOn '-'
  if groups.map List.length = groupLengths then simpleDigits? groups.flatten else none

/-- The first character that is neither a digit nor a hyphen, with the number of bytes before
it. -/
def strayCharacter? (offset : Nat) : List Char → Option (Char × Nat)
  | [] => none
  | c :: rest =>
    if c = '-' ∨ (Text.hexValue? c).isSome then strayCharacter? (offset + c.utf8Size) rest
    else some (c, offset)

/-- The first group of the wrong length, with the length expected of it. -/
def wrongGroup? (groups : List (List Char)) : Option (Nat × Nat × Nat) :=
  (((groups.map List.length).zip groupLengths).zipIdx.find? fun ((n, e), _) => n ≠ e).map
    fun ((n, e), i) => (i, e, n)

/-- What is wrong with a text that is no identifier. The length of a last group of the wrong length
is counted up to the end of the whole text. -/
def diagnose (text : List Char) : ParseError :=
  let w := unwrap text
  let groups := w.body.splitOn '-'
  match strayCharacter? (w.offset + 1) w.body with
  | some (c, position) => .character c position
  | none =>
    if groups.length = 1 ∧ w.bare then .simpleLength text.length
    else if groups.length ≠ 5 then .groupCount groups.length
    else
      match wrongGroup? (groups.take 4) with
      | some (group, expected, length) => .groupLength group expected length
      | none => .groupLength 4 12 (text.length - 24)

/-- The digits of a text in any of the forms that are read. -/
def digits? (text : List Char) : Option (List (Fin 16)) :=
  let w := unwrap text
  (groupedDigits? w.body).or (if w.bare then simpleDigits? text else none)

def parse (text : String) : Except ParseError Uuid :=
  match digits? text.toList with
  | some digits =>
    if h : digits.length = 32 then .ok ⟨digits, h⟩ else .error (diagnose text.toList)
  | none => .error (diagnose text.toList)

end Uuid

end ResourceInspector
