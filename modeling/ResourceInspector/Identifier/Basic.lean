import ResourceInspector.Discovery.Record
import ResourceInspector.Path.Join
import ResourceInspector.Text.Quoted
/-!
# Resource identifiers

A kind of resource is written `group/version/resource`, with an optional `:subresource`. The core
group may be left out (`v1/pods`) and so may the version (`nodes`). The text is kept beside the
parts, and an identifier is shown as that text.
-/

namespace ResourceInspector

/-- A resource identifier: its text and the parts read from it. -/
structure Identifier where
  raw : String
  group : String
  version : String
  resource : String
  subResource : String
deriving Repr, DecidableEq, Hashable

namespace Identifier

open Text

/-- Why a text is no identifier: its path has more than three parts. -/
structure Malformed where
  input : String
  tokens : Nat
deriving Repr, DecidableEq

def Malformed.message (e : Malformed) : String :=
  "can't parse GVR " ++ quote e.input ++ ": expected 1 to 3 path segments, found "
    ++ toString e.tokens

/-- The path and the sub-resource of a text. Only a text with exactly one colon has a
sub-resource. -/
def splitSubResource (s : String) : String × String :=
  match fields ':' s with
  | [path, sub] => (path, sub)
  | _ => (s, "")

/-- Reads an identifier. -/
def parse (s : String) : Except Malformed Identifier :=
  let (path, sub) := splitSubResource s
  match fields '/' path with
  | [g, v, r] => .ok ⟨s, g, v, r, sub⟩
  | [v, r] => .ok ⟨s, "", v, r, sub⟩
  | [r] => .ok ⟨s, "", "", r, sub⟩
  | tokens => .error ⟨s, tokens.length⟩

/-- The identifier of a discovery record. Its text is the cleaned join of the parts, which need not
read back as the same parts. -/
def ofApiResource (record : ApiResource) : Identifier where
  raw := Path.join [record.group, record.version, record.name]
  group := record.group
  version := record.version
  resource := record.name
  subResource := ""

/-- Reads the identifier of a resource name under a `group/version`. -/
def parseUnder (groupVersion resource : String) : Except Malformed Identifier :=
  parse (Path.join [groupVersion, resource])

def groupVersion (id : Identifier) : GroupVersion :=
  ⟨id.group, id.version⟩

def groupVersionResource (id : Identifier) : GroupVersionResource :=
  ⟨id.group, id.version, id.resource⟩

/-- The dotted name, `resource.version.group`. -/
def resourceName (id : Identifier) : String :=
  id.resource ++ "." ++ id.version ++ "." ++ id.group

end Identifier

end ResourceInspector
