import ResourceInspector.Decimal.Shortest
/-!
# JSON values

JSON values, with the members of an object in the order of their names.
-/

namespace ResourceInspector

/-- A JSON number: an integer, or a floating-point number where it has a fraction or an exponent or
is out of the range of integers. -/
inductive Json.Number where
  | integer (value : Int)
  | float (value : Decimal.Binary64)
deriving Repr, DecidableEq

inductive Json where
  | null
  | bool (value : Bool)
  | number (value : Json.Number)
  | string (value : String)
  | array (items : List Json)
  | object (members : List (String × Json))
deriving Inhabited

namespace Json

/-! ## Equality -/

mutual

def decEq (a b : Json) : Decidable (a = b) :=
  match a with
  | .null =>
    match b with
    | .null => isTrue rfl
    | .bool _ | .number _ | .string _ | .array _ | .object _ => isFalse nofun
  | .bool x =>
    match b with
    | .bool y => decidable_of_iff (x = y) (by simp)
    | .null | .number _ | .string _ | .array _ | .object _ => isFalse nofun
  | .number x =>
    match b with
    | .number y => decidable_of_iff (x = y) (by simp)
    | .null | .bool _ | .string _ | .array _ | .object _ => isFalse nofun
  | .string x =>
    match b with
    | .string y => decidable_of_iff (x = y) (by simp)
    | .null | .bool _ | .number _ | .array _ | .object _ => isFalse nofun
  | .array x =>
    match b with
    | .array y => @decidable_of_iff _ (x = y) (by simp) (decEqItems x y)
    | .null | .bool _ | .number _ | .string _ | .object _ => isFalse nofun
  | .object x =>
    match b with
    | .object y => @decidable_of_iff _ (x = y) (by simp) (decEqMembers x y)
    | .null | .bool _ | .number _ | .string _ | .array _ => isFalse nofun

def decEqItems (a b : List Json) : Decidable (a = b) :=
  match a with
  | [] =>
    match b with
    | [] => isTrue rfl
    | _ :: _ => isFalse nofun
  | x :: xs =>
    match b with
    | [] => isFalse nofun
    | y :: ys => @decidable_of_iff _ (x = y ∧ xs = ys) (by simp)
      (@instDecidableAnd _ _ (decEq x y) (decEqItems xs ys))

def decEqMembers (a b : List (String × Json)) : Decidable (a = b) :=
  match a with
  | [] =>
    match b with
    | [] => isTrue rfl
    | _ :: _ => isFalse nofun
  | (m, x) :: xs =>
    match b with
    | [] => isFalse nofun
    | (n, y) :: ys => @decidable_of_iff _ (m = n ∧ x = y ∧ xs = ys) (by simp [and_assoc])
      (@instDecidableAnd _ _ _ (@instDecidableAnd _ _ (decEq x y) (decEqMembers xs ys)))

end

instance : DecidableEq Json := decEq

/-! ## Members -/

/-- The members of an object. Each name occurs once, and the names are in order. -/
abbrev Members := List (String × Json)

namespace Members

def find? (members : Members) (name : String) : Option Json :=
  members.lookup name

def contains (members : Members) (name : String) : Bool :=
  (members.find? name).isSome

/-- Gives a name a value, in place of the one it may have. -/
def insert (name : String) (value : Json) : Members → Members
  | [] => [(name, value)]
  | (n, v) :: rest =>
    if name < n then (name, value) :: (n, v) :: rest
    else if n = name then (name, value) :: rest
    else (n, v) :: insert name value rest

def erase (members : Members) (name : String) : Members :=
  members.filter (·.1 ≠ name)

/-- The members given in any order. Of one name the last value counts. -/
def ofList (pairs : List (String × Json)) : Members :=
  pairs.foldl (fun members (n, v) => insert n v members) []

end Members

/-! ## Building and looking into values -/

/-- An object of the members given in any order. -/
def ofMembers (pairs : List (String × Json)) : Json :=
  .object (Members.ofList pairs)

def strings (texts : List String) : Json :=
  .array (texts.map .string)

/-- A number without a fraction. -/
def ofNat (n : Nat) : Json :=
  .number (.integer n)

def string? : Json → Option String
  | .string s => some s
  | _ => none

/-- The member of an object by name, null where there is none. -/
def member (value : Json) (name : String) : Json :=
  match value with
  | .object members => (Members.find? members name).getD .null
  | _ => .null

end Json

end ResourceInspector
