import ResourceInspector.Encoding.Record
import ResourceInspector.Identifier.Collection
/-!
# The JSON form of resources

Identifiers are written as their texts, collections of them as arrays, and discovery records as
objects.
-/

namespace ResourceInspector

namespace Identifier

/-- An identifier is its text. -/
def toJson (id : Identifier) : Json :=
  .string id.raw

/-- Reads an identifier back from its text. -/
def ofJson (value : Json) : Encoding.Decoded Identifier := do
  (parse (← Encoding.string value)).mapError .identifier

def Collection.toJson (c : Collection) : Json :=
  .array (c.toList.map Identifier.toJson)

def Collection.ofJson (value : Json) : Encoding.Decoded Collection :=
  (Encoding.list Identifier.ofJson value).map .mk

end Identifier

namespace GroupVersion

def toJson (gv : GroupVersion) : Json :=
  Json.ofMembers [("group", .string gv.group), ("version", .string gv.version)]

/-- Both parts have to be given. -/
def layout : Encoding.Layout GroupVersion where
  name := "GroupVersion"
  blank := {}
  fields :=
    [.mandatory "group" Encoding.string fun r s => { r with group := s },
     .mandatory "version" Encoding.string fun r s => { r with version := s }]

end GroupVersion

namespace GroupVersionResource

def toJson (gvr : GroupVersionResource) : Json :=
  Json.ofMembers
    [("group", .string gvr.group), ("version", .string gvr.version),
     ("resource", .string gvr.resource)]

/-- All three parts have to be given. -/
def layout : Encoding.Layout GroupVersionResource where
  name := "GroupVersionResource"
  blank := {}
  fields :=
    [.mandatory "group" Encoding.string fun r s => { r with group := s },
     .mandatory "version" Encoding.string fun r s => { r with version := s },
     .mandatory "resource" Encoding.string fun r s => { r with resource := s }]

end GroupVersionResource

namespace ApiResource

/-- The object of all fields. Short names are left out where there are none. -/
def toJson (r : ApiResource) : Json :=
  Json.ofMembers
    ([("name", .string r.name), ("singularName", .string r.singularName),
      ("namespaced", .bool r.namespaced), ("group", .string r.group),
      ("version", .string r.version), ("kind", .string r.kind), ("verbs", .strings r.verbs)]
      ++ if r.shortNames.isEmpty then [] else [("shortNames", .strings r.shortNames)])

/-- Only the name has to be given. -/
def layout : Encoding.Layout ApiResource where
  name := "ApiResource"
  blank := {}
  fields :=
    [.mandatory "name" Encoding.string fun r s => { r with name := s },
     .optional "singularName" Encoding.string fun r s => { r with singularName := s },
     .optional "namespaced" Encoding.boolean fun r b => { r with namespaced := b },
     .optional "group" Encoding.string fun r s => { r with group := s },
     .optional "version" Encoding.string fun r s => { r with version := s },
     .optional "kind" Encoding.string fun r s => { r with kind := s },
     .optional "verbs" (Encoding.list Encoding.string) fun r l => { r with verbs := l },
     .optional "shortNames" (Encoding.list Encoding.string) fun r l => { r with shortNames := l }]

def ofJson (value : Json) : Encoding.Decoded ApiResource :=
  layout.decode value

end ApiResource

end ResourceInspector
