import ResourceInspector.Report.Format
import ResourceInspector.Text.Blank
import ResourceInspector.Yaml.Node
/-!
# Settings

What a configuration file in YAML decides, and where it is looked for. What a file leaves out has
its default.
-/

namespace ResourceInspector

/-- What a configuration file decides. -/
structure Settings where
  logLevel : String := "info"
  output : Report.Format := .standard
  pretty : Bool := false
deriving Repr, DecidableEq

namespace Settings

inductive LoadError where
  /-- The text is no YAML document with settings. -/
  | malformed
  /-- There is no text in the file. -/
  | unreadable (path : String)
  /-- The text in the file is malformed. -/
  | invalid (path : String)
deriving Repr, DecidableEq

def LoadError.message : LoadError → String
  | .malformed => "Failed to parse configuration"
  | .unreadable path => "Failed to read configuration file " ++ path
  | .invalid path => "Invalid configuration file " ++ path

/-! ## Values -/

/-- The text of a scalar, whatever its style and tag. -/
def text? : Yaml.Node → Option String
  | .scalar _ _ text => some text
  | _ => none

def flagTexts : List (String × Bool) :=
  [("true", true), ("True", true), ("TRUE", true),
   ("false", false), ("False", false), ("FALSE", false)]

/-- A flag. It is plain, or a literal with the tag of flags. -/
def flag? : Yaml.Node → Option Bool
  | .scalar _ .plain text => flagTexts.lookup text
  | .scalar { tag := some "tag:yaml.org,2002:bool", .. } .literal text => flagTexts.lookup text
  | _ => none

/-- The plain scalars that stand for nothing. -/
def nullTexts : List String :=
  ["", "~", "null", "Null", "NULL"]

/-- What a local tag says, which is what follows the exclamation mark if anything does. -/
def localTag? (tag : String) : Option String :=
  match tag.toList with
  | ['!'] => some "!"
  | '!' :: name => some (String.ofList name)
  | _ => none

/-- A format, by its name or by its name as a tag on nothing. -/
def format? : Yaml.Node → Option Report.Format
  | .scalar p style text =>
    match p.tag.bind localTag? with
    | some name =>
      if style matches .plain && nullTexts.contains text then Report.Format.ofName? name else none
    | none => Report.Format.ofName? text
  | _ => none

/-! ## Documents -/

/-- A setting by its name, which may be given once. -/
def setting? {α : Type} (entries : List (String × Yaml.Node)) (name : String) (default : α)
    (read : Yaml.Node → Option α) : Option α :=
  match entries.filter (·.1 = name) with
  | [] => some default
  | [(_, value)] => read value
  | _ => none

/-- The settings of the entries of a mapping. Names of no setting are passed over. -/
def ofEntries? (entries : List (String × Yaml.Node)) : Option Settings := do
  let defaults : Settings := {}
  return {
    logLevel := ← setting? entries "logLevel" defaults.logLevel text?
    output := ← setting? entries "output" defaults.output format?
    pretty := ← setting? entries "pretty" defaults.pretty flag? }

/-- The settings of a document, which is a mapping or nothing at all. -/
def ofNode? (root : Yaml.Node) : Option Settings :=
  match root with
  | .scalar _ .plain "" => some {}
  | .mapping _ entries => do
    ofEntries? (← entries.mapM fun (key, value) => do
      return (← text? (root.follow key), root.follow value))
  | _ => none

/-- Reads settings from a text of at most one document. -/
def ofYaml? (text : String) : Option Settings :=
  if (Text.trim text).isEmpty then some {}
  else do
    match ← Yaml.Node.parse? text with
    | [] => some {}
    | [root] => ofNode? root
    | _ => none

def ofYaml (text : String) : Except LoadError Settings :=
  match ofYaml? text with
  | some settings => .ok settings
  | none => .error .malformed

/-! ## Files -/

/-- The texts of files by their paths. -/
abbrev Files := String → Option String

def ofFile (files : Files) (path : String) : Except LoadError Settings :=
  match files path with
  | none => .error (.unreadable path)
  | some text => (ofYaml text).mapError fun _ => .invalid path

/-- Reads settings from the file that was given, or else from the one that the environment names.
Without either all settings have their defaults. -/
def load (files : Files) (given environment : Option String) : Except LoadError Settings :=
  match given.or environment with
  | some path => ofFile files path
  | none => .ok {}

end Settings

end ResourceInspector
