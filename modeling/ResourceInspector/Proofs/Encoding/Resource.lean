import ResourceInspector.Encoding.Resource
import ResourceInspector.Proofs.Encoding.Record
import ResourceInspector.Proofs.Except
/-!
# Discovery records read back

A discovery record is read back from every form that stands for it: from the object it is written
as, with or without short names and with other members beside its own, and in part from the first of
its fields, whether they come as items or as members (`only`). The fields that are left out have
their defaults.
-/

namespace ResourceInspector

theorem Encoding.list_strings (texts : List String) :
    Encoding.list Encoding.string (.strings texts) = .ok texts := by
  show (texts.map Json.string).mapM Encoding.string = .ok texts
  rw [mapM_eq_ok_iff, List.forall₂_map_left_iff, List.forall₂_same]
  exact fun _ _ => rfl

namespace ApiResource

variable (r : ApiResource)

/-- The members for the fields of a record, in the order of the fields. -/
def members : List (String × Json) :=
  [("name", .string r.name), ("singularName", .string r.singularName),
   ("namespaced", .bool r.namespaced), ("group", .string r.group), ("version", .string r.version),
   ("kind", .string r.kind), ("verbs", .strings r.verbs), ("shortNames", .strings r.shortNames)]

/-- The record with the fields whose members have these names. The others have their defaults. -/
def only (names : List String) : ApiResource where
  name := if "name" ∈ names then r.name else ""
  singularName := if "singularName" ∈ names then r.singularName else ""
  namespaced := if "namespaced" ∈ names then r.namespaced else false
  group := if "group" ∈ names then r.group else ""
  version := if "version" ∈ names then r.version else ""
  kind := if "kind" ∈ names then r.kind else ""
  verbs := if "verbs" ∈ names then r.verbs else []
  shortNames := if "shortNames" ∈ names then r.shortNames else []

/-- The last member is left out where there are no short names. -/
theorem toJson_eq :
    r.toJson = Json.ofMembers (r.members.take (if r.shortNames = [] then 7 else 8)) := by
  unfold toJson members
  cases r.shortNames <;> rfl

theorem fills_only : layout.Fills r.members r.only where
  names := rfl
  nil := rfl
  put := by
    intro field hfield value hvalue ns
    simp only [layout, List.mem_cons, List.not_mem_nil, or_false] at hfield
    -- each field meets the one member of its name
    rcases hfield with rfl | rfl | rfl | rfl | rfl | rfl | rfl | rfl <;>
      simp [members] at hvalue <;> subst hvalue <;>
      simp [only, Except.map, Encoding.string, Encoding.boolean, Encoding.list_strings]
  congr := by
    intro ns ns' h
    simp [Encoding.Layout.names, layout] at h
    simp [only, h]

/-- Members read in any order fill their fields, as long as the name is among them. -/
theorem ofJson_ofMembers {given : List (String × Json)} (hgiven : ∀ pair ∈ given, pair ∈ r.members)
    (hname : "name" ∈ given.map (·.1)) :
    ofJson (Json.ofMembers given) = .ok (r.only (given.map (·.1))) := by
  apply r.fills_only.decode_ofMembers hgiven
  simpa [layout] using hname

/-- A record is read back from its own form, with and without short names. -/
theorem ofJson_toJson : ofJson r.toJson = .ok r := by
  rw [toJson_eq, r.ofJson_ofMembers fun _ => List.mem_of_mem_take]
  · rcases r with ⟨_, _, _, _, _, _, _, _ | _⟩ <;> simp [only, members]
  · split <;> simp [members]

/-- All fields but the first may be left out from the end of an array. -/
theorem ofJson_array {given : List (String × Json)} (hgiven : given <+: r.members)
    (hne : given ≠ []) :
    ofJson (.array (given.map (·.2))) = .ok (r.only (given.map (·.1))) := by
  apply r.fills_only.decode_array hgiven
  intro field hfield
  have hlength : 1 ≤ given.length := List.length_pos_iff.2 hne
  have hrest : field ∈ layout.fields.drop 1 := List.drop_subset_drop_left _ hlength hfield
  simp only [layout, List.drop_succ_cons, List.drop_zero, List.mem_cons, List.not_mem_nil,
    or_false] at hrest
  rcases hrest with rfl | rfl | rfl | rfl | rfl | rfl | rfl <;> rfl

/-- A record is read back from each of its forms. -/
theorem decodes_in_every_form (r : ApiResource) :
    -- the object that it is written as
    r.toJson = Json.ofMembers (r.members.take (if r.shortNames = [] then 7 else 8)) ∧
    ofJson r.toJson = .ok r ∧
    -- members of other names, in any value
    (∀ value extra, (∀ pair ∈ extra, pair.1 ∉ r.members.map (·.1)) →
      ofJson (Json.adding value extra) = ofJson value) ∧
    -- the first fields, as items and as members
    ∀ k, 1 ≤ k →
      ofJson (.array ((r.members.take k).map (·.2))) =
        .ok (r.only ((r.members.take k).map (·.1))) ∧
      ofJson (Json.ofMembers (r.members.take k)) = .ok (r.only ((r.members.take k).map (·.1))) := by
  refine ⟨r.toJson_eq, r.ofJson_toJson, ?_, ?_⟩
  · intro value extra hextra
    show layout.decode (value.adding extra) = layout.decode value
    exact Encoding.Layout.decode_adding hextra value
  · intro k hk
    have hfirst : r.members.take k = ("name", .string r.name) :: r.members.tail.take (k - 1) := by
      obtain ⟨j, rfl⟩ := Nat.exists_eq_add_of_le' hk
      rfl
    constructor
    · exact r.ofJson_array (List.take_prefix k r.members) (by simp [hfirst])
    · exact r.ofJson_ofMembers (fun _ => List.mem_of_mem_take) (by simp [hfirst])

/-- A record that leaves no field out. -/
def deployments : ApiResource where
  name := "deployments"
  singularName := "deployment"
  namespaced := true
  group := "apps"
  version := "v1"
  kind := "Deployment"
  verbs := ["get", "list", "watch"]
  shortNames := ["deploy"]

/-- Names in another spelling are other names, and null is passed over under them. -/
theorem decodes_in_every_form_deployments :
    (∀ pair ∈ [("ShortNames", Json.null), ("short_names", .null), ("", .bool true)],
      pair.1 ∉ deployments.members.map (·.1)) ∧
    ofJson (deployments.toJson.adding
      [("ShortNames", .null), ("short_names", .null), ("", .bool true)]) = .ok deployments ∧
    ofJson (.array [.string "deployments", .string "deployment"]) =
      .ok { name := "deployments", singularName := "deployment" } ∧
    ofJson (Json.ofMembers
        [("name", .string "deployments"), ("singularName", .string "deployment")]) =
      .ok { name := "deployments", singularName := "deployment" } := by
  rcases deployments.decodes_in_every_form with ⟨_, hback, hother, hfirst⟩
  have hnames : ∀ pair ∈ [("ShortNames", Json.null), ("short_names", .null), ("", .bool true)],
      pair.1 ∉ deployments.members.map (·.1) := by
    decide
  exact ⟨hnames, (hother _ _ hnames).trans hback, (hfirst 2 (by decide)).1,
    (hfirst 2 (by decide)).2⟩

end ApiResource

end ResourceInspector
