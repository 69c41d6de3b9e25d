import ResourceInspector.Json.Basic
import ResourceInspector.Text.Hexadecimal
/-!
# Reading JSON text

Reads a value from its text. An integer that fits 64 bits is kept as one, every other number is
rounded to double precision.
-/

namespace ResourceInspector.Json

def skipBlanks (s : List Char) : List Char :=
  s.dropWhile fun c => c == ' ' || c == '\t' || c == '\n' || c == '\r'

/-- The number that a list of decimal digits spells. -/
def digitsValue (digits : List Char) : Nat :=
  digits.foldl (fun n d => 10 * n + (d.toNat - '0'.toNat)) 0

/-- Reads the digits at the start, of which there has to be one. -/
def readDigits (s : List Char) : Option (List Char × List Char) :=
  match s.takeWhile Char.isDigit with
  | [] => none
  | digits => some (digits, s.dropWhile Char.isDigit)

def readFraction : List Char → Option (List Char × List Char)
  | '.' :: rest => readDigits rest
  | rest => some ([], rest)

/-- Reads the exponent after its letter. -/
def readExponent : List Char → Option (Int × List Char)
  | '-' :: rest => (readDigits rest).map fun (ds, r) => (-(digitsValue ds : Int), r)
  | '+' :: rest => (readDigits rest).map fun (ds, r) => ((digitsValue ds : Int), r)
  | rest => (readDigits rest).map fun (ds, r) => ((digitsValue ds : Int), r)

/-- The double nearest to a decimal. -/
def roundDecimal (negative : Bool) (digits : Nat) (exponent : Int) : Decimal.Binary64 :=
  let magnitude := Float.ofScientific digits (exponent < 0) exponent.natAbs
  ⟨(if negative then -magnitude else magnitude).toBits⟩

/-- The number of an integer text. Minus zero is no integer. -/
def ofInteger (negative : Bool) (value : Nat) : Number :=
  if negative then
    if value = 0 ∨ Nat.pow 2 63 < value then .float (roundDecimal true value 0)
    else .integer (-(value : Int))
  else if value < Nat.pow 2 64 then .integer value
  else .float (roundDecimal false value 0)

/-- Reads a number after its sign. -/
def readUnsigned (negative : Bool) (s : List Char) : Option (Number × List Char) := do
  let (whole, afterWhole) ← readDigits s
  let (fraction, afterFraction) ← readFraction afterWhole
  let decimal := fun (exponent : Int) =>
    Number.float (roundDecimal negative (digitsValue (whole ++ fraction))
      (exponent - fraction.length))
  match afterFraction with
  | 'e' :: rest | 'E' :: rest =>
    let (exponent, rest) ← readExponent rest
    return (decimal exponent, rest)
  | rest =>
    return (if fraction.isEmpty then ofInteger negative (digitsValue whole) else decimal 0, rest)

def readNumber : List Char → Option (Number × List Char)
  | '-' :: rest => readUnsigned true rest
  | s => readUnsigned false s

def readUnit : List Char → Option (Nat × List Char)
  | a :: b :: c :: d :: rest => do
    let digits ← [a, b, c, d].mapM Text.hexValue?
    return (digits.foldl (fun n v => 16 * n + v.val) 0, rest)
  | _ => none

/-- Reads the number of a character after its mark. A character outside of the basic plane takes
two units. -/
def readCode (s : List Char) : Option (Char × List Char) := do
  let (unit, rest) ← readUnit s
  if 0xD800 ≤ unit ∧ unit < 0xDC00 then
    match rest with
    | '\\' :: 'u' :: rest =>
      let (low, rest) ← readUnit rest
      if 0xDC00 ≤ low ∧ low < 0xE000 then
        return (Char.ofNat (0x10000 + (unit - 0xD800) * 0x400 + (low - 0xDC00)), rest)
      else none
    | _ => none
  else if 0xDC00 ≤ unit ∧ unit < 0xE000 then none
  else return (Char.ofNat unit, rest)

def readEscape : List Char → Option (Char × List Char)
  | '"' :: rest => some ('"', rest)
  | '\\' :: rest => some ('\\', rest)
  | '/' :: rest => some ('/', rest)
  | 'b' :: rest => some ('\x08', rest)
  | 'f' :: rest => some ('\x0c', rest)
  | 'n' :: rest => some ('\n', rest)
  | 'r' :: rest => some ('\r', rest)
  | 't' :: rest => some ('\t', rest)
  | 'u' :: rest => readCode rest
  | _ => none

/-- Reads a string after its opening quote. Each step takes at least one character, so `fuel` needs
to be no more than their number. -/
def readStringWith (fuel : Nat) (read : List Char) (s : List Char) :
    Option (String × List Char) :=
  match fuel, s with
  | _ + 1, '"' :: rest => some (String.ofList read.reverse, rest)
  | fuel + 1, '\\' :: rest => do
    let (c, rest) ← readEscape rest
    readStringWith fuel (c :: read) rest
  | fuel + 1, c :: rest => if c.toNat < 0x20 then none else readStringWith fuel (c :: read) rest
  | _, _ => none

/-- Reads a string after its opening quote. -/
def readString (s : List Char) : Option (String × List Char) :=
  readStringWith s.length [] s

mutual

/-- Reads a value. Each call takes at least one character, so `fuel` needs to be no more than their
number. -/
def readValue (fuel : Nat) (s : List Char) : Option (Json × List Char) :=
  match fuel with
  | 0 => none
  | fuel + 1 =>
    match skipBlanks s with
    | 'n' :: 'u' :: 'l' :: 'l' :: rest => some (.null, rest)
    | 't' :: 'r' :: 'u' :: 'e' :: rest => some (.bool true, rest)
    | 'f' :: 'a' :: 'l' :: 's' :: 'e' :: rest => some (.bool false, rest)
    | '"' :: rest => (readString rest).map fun (text, r) => (.string text, r)
    | '[' :: rest =>
      match skipBlanks rest with
      | ']' :: rest => some (.array [], rest)
      | rest => (readItems fuel rest).map fun (items, r) => (.array items, r)
    | '\x7b' :: rest =>
      match skipBlanks rest with
      | '\x7d' :: rest => some (.object [], rest)
      | rest => (readMembers fuel rest).map fun (members, r) => (ofMembers members, r)
    | rest => (readNumber rest).map fun (n, r) => (.number n, r)

/-- Reads the items of an array up to its end. -/
def readItems (fuel : Nat) (s : List Char) : Option (List Json × List Char) :=
  match fuel with
  | 0 => none
  | fuel + 1 => do
    let (item, rest) ← readValue fuel s
    match skipBlanks rest with
    | ',' :: rest =>
      let (items, rest) ← readItems fuel rest
      return (item :: items, rest)
    | ']' :: rest => return ([item], rest)
    | _ => none

/-- Reads the members of an object up to its end. -/
def readMembers (fuel : Nat) (s : List Char) : Option (List (String × Json) × List Char) :=
  match fuel with
  | 0 => none
  | fuel + 1 =>
    match skipBlanks s with
    | '"' :: rest => do
      let (name, rest) ← readString rest
      match skipBlanks rest with
      | ':' :: rest =>
        let (value, rest) ← readValue fuel rest
        match skipBlanks rest with
        | ',' :: rest =>
          let (members, rest) ← readMembers fuel rest
          return ((name, value) :: members, rest)
        | '\x7d' :: rest => return ([(name, value)], rest)
        | _ => none
      | _ => none
    | _ => none

end

def parse? (text : String) : Option Json :=
  match readValue (2 * text.length + 2) text.toList with
  | some (value, rest) => if (skipBlanks rest).isEmpty then some value else none
  | none => none

end ResourceInspector.Json
