import ResourceInspector.Log.Event
import ResourceInspector.Text.Alphanumeric
import ResourceInspector.Text.Blank
import ResourceInspector.Text.Fields
/-!
# Log filters

A filter is a list of directives with commas between them, such as `info,kscope_sdk=debug`. Each
sets the least serious level that is logged, for all events or for those of a target, of a span or
with certain fields. Of the directives that speak of an event the most specific decides.
-/

namespace ResourceInspector.Log

/-- The least serious level that is logged, if any is. -/
abbrev Limit := Option Level

def Limit.admits (limit : Limit) (level : Level) : Bool :=
  limit.any fun least => level.rank ≤ least.rank

def numberedLimits : List Limit :=
  [none, some .error, some .warn, some .info, some .debug, some .trace]

/-- The limits by their names. The empty name stands for errors. -/
def namedLimits : List (String × Limit) :=
  [("", some .error), ("error", some .error), ("warn", some .warn), ("info", some .info),
   ("debug", some .debug), ("trace", some .trace), ("off", none)]

/-- The number that digits spell, behind a plus sign if there is one. -/
def number? (s : String) : Option Nat :=
  let digits := match s.toList with
    | '+' :: rest => rest
    | all => all
  if !digits.isEmpty && digits.all Char.isDigit then
    some (digits.foldl (fun n d => 10 * n + (d.toNat - '0'.toNat)) 0)
  else none

/-- Reads a limit, a number up to five or a name in any case. -/
def Limit.parse? (s : String) : Option Limit :=
  ((number? s).bind fun n => numberedLimits[n]?).or (namedLimits.lookup s.toLower)

/-- A part of a filter. -/
structure Directive where
  limit : Limit := some .trace
  target : Option String := none
  span : Option String := none
  /-- The names of fields, with the values they have to have if any value is given. -/
  fields : List (String × Option String) := []
deriving Repr, DecidableEq

inductive FilterError where
  | directive
  | level
deriving Repr, DecidableEq

def FilterError.message : FilterError → String
  | .directive => "invalid filter directive"
  | .level =>
    "error parsing level filter: expected one of \"off\", \"error\", \"warn\", \"info\", "
      ++ "\"debug\", \"trace\", or a number 0-5"

/-! ## Reading directives

The blanks around a directive are passed over to tell its parts. The parts themselves are taken
from the same places of the text as it was given. A place is thus a pair of characters, the one
that is looked at and the one that is recorded. -/

namespace Directive

abbrev Place := Char × Char

/-- What is recorded at some places, and at the end. -/
def recorded (places : List Place) (tail : List Char) : String :=
  String.ofList (places.map (·.2) ++ tail)

/-- The places up to the first that holds one of the characters, and those from there on. -/
def upTo (stops : List Char) (places : List Place) : List Place × List Place :=
  places.span fun (c, _) => !stops.contains c

/-- Reads the level, which takes the rest of the directive. -/
def ofLevel (d : Directive) (places : List Place) (tail : List Char) :
    Except FilterError Directive :=
  let text := recorded places tail
  if text.isEmpty then .ok d
  else
    match Limit.parse? text with
    | some limit => .ok { d with limit := limit }
    | none => .error .level

def afterSpan (d : Directive) (places : List Place) (tail : List Char) :
    Except FilterError Directive :=
  match places with
  | [] => .ok d
  | ('=', _) :: rest => d.ofLevel rest tail
  | _ => .error .directive

/-- A field by its name, or by its name and a value. -/
def field (text : String) : String × Option String :=
  match Text.fields '=' text with
  | name :: value :: _ => (name, some value)
  | [name] => (name, none)
  | [] => ("", none)

/-- Reads the name of a span and the fields behind it. -/
def ofSpan (d : Directive) (places : List Place) (tail : List Char) :
    Except FilterError Directive :=
  let (name, rest) := upTo [']', '{'] places
  let span := recorded name []
  match rest with
  | (']', _) :: rest => afterSpan { d with span := some span } rest tail
  | _ :: rest =>
    let (body, rest) := upTo ['}'] rest
    if body.isEmpty then .error .directive
    else
      let d := { d with
        span := if name.isEmpty then none else some span
        fields := [field (recorded body [])] }
      match rest with
      | _ :: (']', _) :: rest => d.afterSpan rest tail
      | _ => .error .directive
  | [] => .error .directive

/-- A directive of a single word: a level, or a target all of whose events are logged. -/
def ofWord (word : String) : Directive :=
  match Limit.parse? word with
  | some limit => { limit := limit }
  | none => { target := some word }

/-- Whether a directive may start with a character, other than with a span. -/
def isStart (c : Char) : Bool :=
  c == '-' || c == ':' || c == '_' || Text.isAlphanumeric c

/-- Reads the parts of a directive. -/
def ofPlaces (places : List Place) (tail : List Char) : Except FilterError Directive :=
  match places with
  | [] => .error .directive
  | (c, r) :: rest =>
    if c = '[' then ofSpan {} rest tail
    else if !isStart c then .error .directive
    else
      let (more, rest) := upTo ['=', '['] rest
      let word := (c, r) :: more
      match rest with
      | [] => .ok (ofWord (recorded word tail))
      | ('=', _) :: rest => ofLevel { target := some (recorded word []) } rest tail
      | _ :: rest => ofSpan { target := some (recorded word []) } rest tail

def parse (text : String) : Except FilterError Directive :=
  let seen := (Text.trim text).toList
  ofPlaces (seen.zip text.toList) (text.toList.drop seen.length)

/-- Whether a directive can be decided by an event alone: it names no span and no value. -/
def isStatic (d : Directive) : Bool :=
  d.span.isNone && d.fields.all (·.2.isNone)

/-- Whether a directive speaks of an event. A target speaks for all that start with it. -/
def concerns (d : Directive) (e : Event) : Bool :=
  d.target.all (fun t => t.toList.isPrefixOf e.target.toList)
    && d.fields.all fun (name, _) => name == "message" || e.fields.any (·.1 == name)

/-- The order of directives by how specific they are, the least specific first: by the length of
the target, by the number of fields, and then by the texts. -/
def specificity (a b : Directive) : Ordering :=
  (((compare (a.target.map String.utf8ByteSize) (b.target.map String.utf8ByteSize)).then
    (compare a.fields.length b.fields.length)).then
    (compare a.target b.target)).then
    (compare (a.fields.map (·.1)) (b.fields.map (·.1)))

end Directive

/-! ## Filters -/

/-- A filter: the directives that events decide, the most specific first. -/
structure Filter where
  directives : List Directive
deriving Repr, DecidableEq

namespace Filter

/-- Puts a directive in its place. It replaces one that is as specific. -/
def insert (d : Directive) : List Directive → List Directive
  | [] => [d]
  | e :: rest =>
    match d.specificity e with
    | .gt => d :: e :: rest
    | .eq => d :: rest
    | .lt => e :: insert d rest

def ofDirectives (directives : List Directive) : Filter :=
  ⟨(directives.filter Directive.isStatic).foldl (fun ds d => insert d ds) []⟩

/-- Reads a filter. Empty parts are passed over, and without directives nothing is logged. -/
def parse (text : String) : Except FilterError Filter := do
  let parts := (Text.fields ',' text).filter (· ≠ "")
  return ofDirectives (← parts.mapM Directive.parse)

/-- Whether an event is logged. -/
def admits (f : Filter) (e : Event) : Bool :=
  match f.directives.find? (·.concerns e) with
  | some d => d.limit.admits e.level
  | none => false

end Filter

end ResourceInspector.Log
