/-!
# Discovery records

What API discovery says about the resources a server knows: the version a group is served in, and
the record of each resource with the verbs it advertises.
-/

namespace ResourceInspector

/-- A group and a version. The core group is the empty string. -/
structure GroupVersion where
  group : String := ""
  version : String := ""
deriving Repr, DecidableEq

/-- The form of the pair in an `apiVersion` field. -/
def GroupVersion.apiVersion (gv : GroupVersion) : String :=
  if gv.group = "" then gv.version else gv.group ++ "/" ++ gv.version

structure GroupVersionResource where
  group : String := ""
  version : String := ""
  resource : String := ""
deriving Repr, DecidableEq

def GroupVersionResource.groupVersion (r : GroupVersionResource) : GroupVersion :=
  ⟨r.group, r.version⟩

/-- A resource as API discovery advertises it. -/
structure ApiResource where
  name : String := ""
  singularName : String := ""
  namespaced : Bool := false
  group : String := ""
  version : String := ""
  kind : String := ""
  verbs : List String := []
  shortNames : List String := []
deriving Repr, DecidableEq

end ResourceInspector
