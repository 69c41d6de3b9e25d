/-!
# Formats of reports

The forms in which the result of a command can be shown.
-/

namespace ResourceInspector.Report

inductive Format where
  | standard
  | json
  | yaml
deriving Repr, DecidableEq

namespace Format

def named : List (String × Format) :=
  [("standard", .standard), ("json", .json), ("yaml", .yaml)]

def name : Format → String
  | .standard => "standard"
  | .json => "json"
  | .yaml => "yaml"

def ofName? (name : String) : Option Format :=
  named.lookup name

end Format

end ResourceInspector.Report
