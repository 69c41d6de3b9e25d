import ResourceInspector.Identifier.Basic
import ResourceInspector.Json.Printer
import ResourceInspector.Uuid
/-!
# Errors of decoding

Why a JSON value does not have the shape of the thing it should stand for.
-/

namespace ResourceInspector.Encoding

/-- A shape that a value may be expected to have. -/
inductive Shape where
  | string
  | boolean
  | sequence
  | map
  | uuid
  | record (name : String)
deriving Repr, DecidableEq

def Shape.text : Shape → String
  | .string => "a string"
  | .boolean => "a boolean"
  | .sequence => "a sequence"
  | .map => "a map"
  | .uuid => "a formatted UUID string"
  | .record name => "struct " ++ name

inductive DecodeError where
  /-- The value has another shape. -/
  | shape (found : Json) (expected : Shape)
  /-- A record lacks a member. -/
  | missing (field : String)
  /-- A record given as an array ends too early. -/
  | tooShort (length : Nat) (record : String) (fields : Nat)
  /-- A record given as an array goes on too long. -/
  | tooLong (length : Nat)
  /-- A text is no resource identifier. -/
  | identifier (cause : Identifier.Malformed)
  /-- A text is no universally unique identifier. -/
  | uuid (cause : Uuid.ParseError)
deriving DecidableEq

/-- What is said of a value found in place of another. -/
def found : Json → String
  | .null => "null"
  | .bool b => "boolean `" ++ (Json.bool b).compact ++ "`"
  | .number (.integer n) => "integer `" ++ (Json.Number.integer n).render ++ "`"
  | .number (.float x) => "floating point `" ++ (Json.Number.float x).render ++ "`"
  | .string s => "string " ++ Text.quote s
  | .array _ => "sequence"
  | .object _ => "map"

def DecodeError.message : DecodeError → String
  | .shape value expected => "invalid type: " ++ found value ++ ", expected " ++ expected.text
  | .missing field => "missing field `" ++ field ++ "`"
  | .tooShort length record fields =>
    "invalid length " ++ toString length ++ ", expected struct " ++ record ++ " with "
      ++ toString fields ++ " elements"
  | .tooLong length =>
    "invalid length " ++ toString length ++ ", expected fewer elements in array"
  | .identifier cause => cause.message
  | .uuid cause => "UUID parsing failed: " ++ cause.message

/-- What decoding yields. -/
abbrev Decoded := Except DecodeError

/-! ## Simple values -/

def string : Json → Decoded String
  | .string s => .ok s
  | value => .error (.shape value .string)

def boolean : Json → Decoded Bool
  | .bool b => .ok b
  | value => .error (.shape value .boolean)

def list (decode : Json → Decoded α) : Json → Decoded (List α)
  | .array items => items.mapM decode
  | value => .error (.shape value .sequence)

def members : Json → Decoded Json.Members
  | .object members => .ok members
  | value => .error (.shape value .map)

/-- A universally unique identifier, from its text. -/
def uuid : Json → Decoded Uuid
  | .string s => (Uuid.parse s).mapError .uuid
  | value => .error (.shape value .uuid)

end ResourceInspector.Encoding
