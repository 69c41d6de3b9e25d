import ResourceInspector.Encoding.Error
/-!
# Decoding records

A record is decoded from an object, by the names of its members, or from an array, by position. It
is built up from a record with every field at its default, a field at a time.
-/

namespace ResourceInspector.Encoding

/-- A field of a record of type `α`: its name, whether it has to be given, and how a value is put
into it. -/
structure Field (α : Type) where
  name : String
  required : Bool
  put : Json → α → Decoded α

/-- A field that has to be given. -/
def Field.mandatory (name : String) (decode : Json → Decoded β) (set : α → β → α) : Field α :=
  ⟨name, true, fun value record => (decode value).map (set record)⟩

/-- A field that keeps its default where it is not given. -/
def Field.optional (name : String) (decode : Json → Decoded β) (set : α → β → α) : Field α :=
  ⟨name, false, fun value record => (decode value).map (set record)⟩

/-- How a record is decoded: its name, its value before any field is put, and its fields in order
of declaration. -/
structure Layout (α : Type) where
  name : String
  blank : α
  fields : List (Field α)

namespace Layout

/-- Puts a member into the field of its name. Members of other names are passed over. -/
def putMember (layout : Layout α) (record : α) (member : String × Json) : Decoded α :=
  match layout.fields.find? (·.name = member.1) with
  | some field => field.put member.2 record
  | none => .ok record

/-- Decodes an object. Members are looked at in order, and only then is it asked which are
missing. -/
def ofMembers (layout : Layout α) (members : Json.Members) : Decoded α := do
  let record ← members.foldlM layout.putMember layout.blank
  match layout.fields.find? fun f => f.required && !members.contains f.name with
  | some field => throw (.missing field.name)
  | none => return record

/-- Puts items into fields of the same place. Fields at the end may be left out if they have
defaults. `place` counts the fields before. -/
def putItems (layout : Layout α) (length place : Nat) :
    List (Field α) → List Json → α → Decoded α
  | [], [], record => .ok record
  | [], _ :: _, _ => .error (.tooLong length)
  | field :: fields, [], record =>
    if field.required then .error (.tooShort place layout.name layout.fields.length)
    else layout.putItems length (place + 1) fields [] record
  | field :: fields, item :: items, record => do
    layout.putItems length (place + 1) fields items (← field.put item record)

def ofItems (layout : Layout α) (items : List Json) : Decoded α :=
  layout.putItems items.length 0 layout.fields items layout.blank

/-- Decodes a record in either form. -/
def decode (layout : Layout α) : Json → Decoded α
  | .object members => layout.ofMembers members
  | .array items => layout.ofItems items
  | value => .error (.shape value (.record layout.name))

end Layout

end ResourceInspector.Encoding
