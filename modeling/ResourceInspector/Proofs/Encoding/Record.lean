import Mathlib.Data.List.Find
import ResourceInspector.Encoding.Record
import ResourceInspector.Proofs.Json.Members
/-!
# Decoding records

A record is decoded from members by name or from items by place, and the two agree. Both put values
into fields one after the other, so what matters is which fields were filled and not in which order
(`Fills`): the members of an object are taken in the order of their names, which is not that of the
fields. Members of other names make no difference, neither to what is decoded nor to the error
(`decode_adding`).
-/

namespace ResourceInspector.Encoding

/-! ## Fields -/

section

variable {α β : Type} {name : String} {decode : Json → Decoded β} {set : α → β → α}

@[simp] theorem Field.name_mandatory : (Field.mandatory name decode set).name = name := rfl

@[simp] theorem Field.name_optional : (Field.optional name decode set).name = name := rfl

@[simp] theorem Field.required_mandatory : (Field.mandatory name decode set).required = true := rfl

@[simp] theorem Field.required_optional : (Field.optional name decode set).required = false := rfl

@[simp] theorem Field.put_mandatory (value : Json) (record : α) :
    (Field.mandatory name decode set).put value record = (decode value).map (set record) := rfl

@[simp] theorem Field.put_optional (value : Json) (record : α) :
    (Field.optional name decode set).put value record = (decode value).map (set record) := rfl

end

namespace Layout

variable {α : Type} {layout : Layout α}

/-- The names of the fields, in the order in which these are declared. -/
def names (layout : Layout α) : List String :=
  layout.fields.map (·.name)

/-! ## Members of other names -/

/-- A member that belongs to no field makes no difference. -/
theorem putMember_of_not_mem {member : String × Json} (h : member.1 ∉ layout.names) (record : α) :
    layout.putMember record member = .ok record := by
  have hnone : layout.fields.find? (·.name = member.1) = none := by
    rw [List.find?_eq_none]
    intro field hfield hname
    exact h (List.mem_map.2 ⟨field, hfield, of_decide_eq_true hname⟩)
  rw [putMember, hnone]

/-- A member is put into a field of its name. -/
theorem exists_putMember {member : String × Json} (h : member.1 ∈ layout.names) :
    ∃ field ∈ layout.fields, field.name = member.1 ∧
      ∀ record, layout.putMember record member = field.put member.2 record := by
  rcases List.mem_map.1 h with ⟨named, hnamed, hname⟩
  cases hfind : layout.fields.find? (·.name = member.1) with
  | none => exact absurd (decide_eq_true hname) (List.find?_eq_none.1 hfind named hnamed)
  | some field =>
    have hfield : field.name = member.1 := by simpa using List.find?_some hfind
    refine ⟨field, List.mem_of_find?_eq_some hfind, hfield, ?_⟩
    intro record
    rw [putMember, hfind]

/-- Members that belong to no field can be left out beforehand. -/
theorem foldlM_putMember_filter (members : Json.Members) (record : α) :
    (members.filter (·.1 ∈ layout.names)).foldlM layout.putMember record =
      members.foldlM layout.putMember record := by
  induction members generalizing record with
  | nil => rfl
  | cons member rest ih =>
    by_cases hmem : member.1 ∈ layout.names
    · simp only [List.filter_cons, hmem, decide_true, if_true, List.foldlM_cons, ih]
    · simp only [List.filter_cons, hmem, decide_false, Bool.false_eq_true, if_false,
        List.foldlM_cons, putMember_of_not_mem hmem, ih]
      rfl

/-- Members of no field are passed over, whether the others can be decoded or not. -/
theorem ofMembers_filter (members : Json.Members) :
    layout.ofMembers (members.filter (·.1 ∈ layout.names)) = layout.ofMembers members := by
  have hgiven : ∀ field ∈ layout.fields,
      Json.Members.contains (members.filter (·.1 ∈ layout.names)) field.name =
        members.contains field.name := by
    intro field hfield
    have hname : field.name ∈ layout.names := List.mem_map_of_mem hfield
    rw [Bool.eq_iff_iff, Json.Members.contains_iff, Json.Members.contains_iff]
    simp only [List.mem_map, List.mem_filter, decide_eq_true_eq]
    refine exists_congr fun member => and_congr_left fun hmember => ?_
    rw [hmember]
    exact and_iff_left hname
  have hmissing : layout.fields.find? (fun f => f.required &&
        !Json.Members.contains (members.filter (·.1 ∈ layout.names)) f.name) =
      layout.fields.find? fun f => f.required && !members.contains f.name := by
    apply List.find?_congr
    intro field hfield
    rw [hgiven field hfield]
  unfold ofMembers
  rw [foldlM_putMember_filter, hmissing]

/-- To any value members of no field can be added. -/
theorem decode_adding {extra : List (String × Json)}
    (hextra : ∀ pair ∈ extra, pair.1 ∉ layout.names) (value : Json) :
    layout.decode (value.adding extra) = layout.decode value := by
  cases value with
  | object members =>
    have hsame : (Json.Members.insertAll members extra).filter (·.1 ∈ layout.names) =
        members.filter (·.1 ∈ layout.names) :=
      Json.Members.filter_insertAll (fun n => n ∈ layout.names) fun pair hpair =>
        decide_eq_false (hextra pair hpair)
    show layout.ofMembers (Json.Members.insertAll members extra) = layout.ofMembers members
    rw [← ofMembers_filter, hsame, ofMembers_filter]
  | null | bool | number | string | array => rfl

/-! ## Records in part -/

/-- Members for the fields of a record, and what there is of the record when some of them were put:
`only names` has the fields of these names, and has the others as they are in a blank record. -/
structure Fills (layout : Layout α) (pairs : List (String × Json)) (only : List String → α) :
    Prop where
  /-- There is a member for each field, in the order of the fields. -/
  names : pairs.map (·.1) = layout.names
  nil : only [] = layout.blank
  put : ∀ field ∈ layout.fields, ∀ value, (field.name, value) ∈ pairs →
    ∀ ns, field.put value (only ns) = .ok (only (field.name :: ns))
  /-- It makes no difference how often a name is given and where, nor which others are. -/
  congr : ∀ ns ns', (∀ n ∈ layout.names, n ∈ ns ↔ n ∈ ns') → only ns = only ns'

namespace Fills

variable {pairs given : List (String × Json)} {only : List String → α}

/-- Members of a record, in any order, fill the fields of their names. -/
theorem foldlM_putMember (h : layout.Fills pairs only) {members : Json.Members}
    (hmembers : ∀ member ∈ members, member ∈ pairs) (ns : List String) :
    members.foldlM layout.putMember (only ns) = .ok (only (members.map (·.1) ++ ns)) := by
  induction members generalizing ns with
  | nil => rfl
  | cons member rest ih =>
    rcases List.forall_mem_cons.1 hmembers with ⟨hmember, hrest⟩
    have hname : member.1 ∈ layout.names := h.names ▸ List.mem_map_of_mem hmember
    rcases exists_putMember hname with ⟨field, hfield, hfname, hput⟩
    have hstep : layout.putMember (only ns) member = .ok (only (member.1 :: ns)) := by
      rw [hput, h.put field hfield member.2 (hfname ▸ hmember), hfname]
    rw [List.foldlM_cons, hstep]
    show rest.foldlM layout.putMember (only (member.1 :: ns)) = _
    rw [ih hrest, h.congr]
    intro n _
    simp [or_left_comm]

/-- An object fills the fields of its members, if those that have to be given are among them. -/
theorem decode_ofMembers (h : layout.Fills pairs only) (hgiven : ∀ pair ∈ given, pair ∈ pairs)
    (hrequired : ∀ field ∈ layout.fields, field.required = true → field.name ∈ given.map (·.1)) :
    layout.decode (Json.ofMembers given) = .ok (only (given.map (·.1))) := by
  have hmembers : ∀ member ∈ Json.Members.ofList given, member ∈ pairs := by
    intro member hmember
    exact hgiven member (Json.Members.mem_of_mem_ofList hmember)
  have hmissing : layout.fields.find? (fun f => f.required &&
      !(Json.Members.ofList given).contains f.name) = none := by
    rw [List.find?_eq_none]
    intro field hfield hmissing
    rw [Bool.and_eq_true, Bool.not_eq_true'] at hmissing
    have hthere : (Json.Members.ofList given).contains field.name = true :=
      Json.Members.contains_iff.2
        (Json.Members.mem_map_ofList.2 (hrequired field hfield hmissing.1))
    rw [hmissing.2] at hthere
    cases hthere
  show layout.ofMembers (Json.Members.ofList given) = _
  unfold ofMembers
  rw [← h.nil, h.foldlM_putMember hmembers, hmissing, List.append_nil,
    h.congr _ _ fun _ _ => Json.Members.mem_map_ofList]
  rfl

/-- From any place on, items fill the fields that stand where they do. -/
theorem putItems (h : layout.Fills pairs only) {fields : List (Field α)}
    (hfields : ∀ field ∈ fields, field ∈ layout.fields) (hgiven : ∀ pair ∈ given, pair ∈ pairs)
    (hnames : given.map (·.1) <+: fields.map (·.name))
    (hrest : ∀ field ∈ fields.drop given.length, field.required = false) (length place : Nat)
    (ns : List String) :
    layout.putItems length place fields (given.map (·.2)) (only ns) =
      .ok (only (given.map (·.1) ++ ns)) := by
  induction fields generalizing given place ns with
  | nil =>
    obtain rfl : given = [] := by simpa using hnames
    rfl
  | cons field fields ih =>
    rcases List.forall_mem_cons.1 hfields with ⟨hfield, hfields'⟩
    cases given with
    | nil =>
      -- the fields that are left have defaults
      rcases List.forall_mem_cons.1 hrest with ⟨hoptional, hrest'⟩
      rw [List.map_nil, Layout.putItems, hoptional]
      exact ih hfields' hgiven List.nil_prefix hrest' _ _
    | cons pair given =>
      rcases pair with ⟨n, value⟩
      rcases List.forall_mem_cons.1 hgiven with ⟨hpair, hgiven'⟩
      rcases List.cons_prefix_cons.1 hnames with ⟨hname, hnames'⟩
      obtain rfl : n = field.name := hname
      rw [List.map_cons, Layout.putItems, h.put field hfield value hpair ns]
      show layout.putItems length (place + 1) fields (given.map (·.2)) (only (field.name :: ns)) = _
      rw [ih hfields' hgiven' hnames' hrest, h.congr]
      intro n _
      simp [or_left_comm]

/-- An array fills the fields that its items come to, if the others can be left out. -/
theorem decode_array (h : layout.Fills pairs only) (hgiven : given <+: pairs)
    (hrest : ∀ field ∈ layout.fields.drop given.length, field.required = false) :
    layout.decode (.array (given.map (·.2))) = .ok (only (given.map (·.1))) := by
  have hnames : given.map (·.1) <+: layout.fields.map (·.name) := by
    have hmap := hgiven.map (·.1)
    rw [h.names] at hmap
    exact hmap
  have hfill := h.putItems (fun _ hfield => hfield) (fun _ hpair => hgiven.subset hpair) hnames
    hrest (given.map (·.2)).length 0 []
  rw [h.nil, List.append_nil] at hfill
  exact hfill

end Fills

end Layout

end ResourceInspector.Encoding
