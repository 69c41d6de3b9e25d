import ResourceInspector.Yaml.Style
/-!
# Tokens of YAML

The pieces a text is cut into. Where blocks start and end is shown by tokens of their own, found
from the indentation.
-/

namespace ResourceInspector.Yaml

inductive Token where
  | versionDirective (major minor : Nat)
  | tagDirective (handle start : String)
  | documentStart
  | documentEnd
  | blockSequenceStart
  | blockMappingStart
  | blockEnd
  | flowSequenceStart
  | flowSequenceEnd
  | flowMappingStart
  | flowMappingEnd
  /-- The mark of an item of a block. -/
  | blockEntry
  /-- The mark between items of a flow collection. -/
  | flowEntry
  | key
  | value
  | alias (name : String)
  | anchor (name : String)
  /-- A tag, by the handle that a directive may explain and what follows it. -/
  | tag (handle suffix : String)
  | scalar (style : Style) (text : String)
deriving Repr, DecidableEq

end ResourceInspector.Yaml
