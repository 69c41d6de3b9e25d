import ResourceInspector.Proofs.Identifier.Discovery
import ResourceInspector.Proofs.Path.Canonical
/-!
# Identifiers and their parts

An identifier can be rebuilt from its group and version, as they are written together, and the name
that it has under them (`parseUnder_parts`). The parts come back because a path keeps them apart:
none of them is empty but the core group, which is not written at all, and none is a dot or a climb
(`Regular`). The text comes back unless it says something that the parts do not, and there are two
such things: a slash in front of the version for the core group, and a colon with nothing behind it.
-/

namespace ResourceInspector.Identifier

open Text

/-- The name under a group and version: the resource, with the sub-resource if there is one. -/
def localName (id : Identifier) : String :=
  if id.subResource = "" then id.resource else id.resource ++ ":" ++ id.subResource

/-- The text that says each part once. -/
def spelling (id : Identifier) : String :=
  id.groupVersion.apiVersion ++ "/" ++ id.localName

/-- The components of that text. -/
def components (id : Identifier) : List String :=
  if id.group = "" then [id.version, id.localName] else [id.group, id.version, id.localName]

/-- An identifier with a version and a resource, whose parts are read as names where they stand. -/
@[mk_iff]
structure Regular (id : Identifier) : Prop where
  version_ne : id.version ≠ ""
  resource_ne : id.resource ≠ ""
  noDots : ∀ part ∈ [id.group, id.version, id.resource], part ≠ "." ∧ part ≠ ".."
  noColon : ∀ part ∈ [id.group, id.version, id.resource, id.subResource], ':' ∉ part.toList
  undivided : '/' ∉ id.subResource.toList

instance (id : Identifier) : Decidable (Regular id) :=
  decidable_of_iff' _ (regular_iff id)

variable {id : Identifier} {path s : String}

/-! ## The text of the parts -/

theorem apiVersion_eq (id : Identifier) :
    id.groupVersion.apiVersion =
      if id.group = "" then id.version else id.group ++ "/" ++ id.version := rfl

theorem joinFields_components (id : Identifier) : joinFields '/' id.components = id.spelling := by
  rw [components, spelling, apiVersion_eq]
  split
  · exact joinFields_core _ _
  · exact joinFields_full _ _ _

/-- Names are a path of the parts that the parts can be read from. -/
theorem spells_apiVersion (hspells : Spells path id.group id.version id.resource) :
    Spells (id.groupVersion.apiVersion ++ "/" ++ id.resource) id.group id.version id.resource := by
  rcases hspells.undivided with ⟨hg, hv, hr⟩
  rw [apiVersion_eq]
  by_cases hgroup : id.group = ""
  · rw [if_pos hgroup, hgroup]
    exact .core hv hr
  · rw [if_neg hgroup]
    exact .full hg hv hr

/-- A path spells its names in this way, or has a slash in front. -/
theorem Spells.eq_apiVersion_or (hspells : Spells path id.group id.version id.resource)
    (hversion : id.version ≠ "") :
    path = id.groupVersion.apiVersion ++ "/" ++ id.resource ∨ path.toList.head? = some '/' := by
  rw [apiVersion_eq]
  generalize id.group = g at hspells
  generalize id.version = v at hspells hversion
  cases hspells with
  | full =>
    by_cases hgroup : g = ""
    · right
      simp [hgroup]
    · left
      rw [if_neg hgroup]
  | core =>
    left
    rw [if_pos rfl]
  | bare => exact absurd rfl hversion

namespace Regular

theorem localName_ne (h : Regular id) : id.localName ≠ "" := by
  unfold localName
  split
  · exact h.resource_ne
  · simp

/-- The name is a single component of a path, and no dot or climb. -/
theorem solid_localName (h : Regular id) (hr : '/' ∉ id.resource.toList) :
    id.localName ≠ "" ∧ id.localName ≠ "." ∧ '/' ∉ id.localName.toList ∧ id.localName ≠ ".." := by
  refine ⟨h.localName_ne, ?_⟩
  unfold localName
  split
  · have hdots := h.noDots id.resource (by simp)
    exact ⟨hdots.1, hr, hdots.2⟩
  · -- neither of the two has a colon
    have hcolon : ':' ∈ (id.resource ++ ":" ++ id.subResource).toList := by simp
    refine ⟨?_, by simp [hr, h.undivided], ?_⟩
    · intro hdot
      rw [hdot] at hcolon
      exact absurd hcolon (by decide)
    · intro hup
      rw [hup] at hcolon
      exact absurd hcolon (by decide)

/-- The parts of a regular identifier are clean components, so joining leaves them as they are. -/
theorem normal_components (h : Regular id)
    (hspells : Spells path id.group id.version id.resource) :
    Path.Normal false id.components := by
  rcases hspells.undivided with ⟨hg, hv, hr⟩
  rcases h.solid_localName hr with ⟨hname, hnameDot, hnameSlash, hnameUp⟩
  have hversion := h.noDots id.version (by simp)
  have hgroup := h.noDots id.group (by simp)
  rw [Path.normal_false_iff]
  unfold components
  split
  · simp [h.version_ne, hversion, hv, hname, hnameDot, hnameSlash, hnameUp]
  · next hne =>
    simp [hne, hgroup, hg, h.version_ne, hversion, hv, hname, hnameDot, hnameSlash, hnameUp]

/-- Joining puts the parts together to their text. -/
theorem join_eq_spelling (h : Regular id)
    (hspells : Spells path id.group id.version id.resource) :
    Path.join [id.groupVersion.apiVersion, id.localName] = id.spelling := by
  have hversion : id.groupVersion.apiVersion ≠ "" := by
    rw [apiVersion_eq]
    split
    · exact h.version_ne
    · simp
  have hconcat : Path.concat [id.groupVersion.apiVersion, id.localName] =
      joinFields '/' id.components := by
    rw [joinFields_components, spelling, ← joinFields_core]
    simp [Path.concat, hversion, h.localName_ne]
  have hne : id.components ≠ [] := by
    unfold components
    split <;> simp
  rw [Path.join_of_concat (h.normal_components hspells) hne hconcat, joinFields_components]

/-- The parts are read from their text again. -/
theorem parse_spelling (h : Regular id)
    (hspells : Spells path id.group id.version id.resource) :
    parse id.spelling = .ok { id with raw := id.spelling } := by
  have hnames : ∀ name ∈ [id.group, id.version, id.resource], ':' ∉ name.toList := by
    intro name hname
    exact h.noColon name (List.mem_append_left [id.subResource] hname)
  have hspelled := spells_apiVersion hspells
  by_cases hsub : id.subResource = ""
  · have htext : id.spelling = id.groupVersion.apiVersion ++ "/" ++ id.resource := by
      rw [spelling, localName, if_pos hsub]
    rw [htext, hspelled.parse_eq_ok hnames]
    simp [hsub]
  · have htext : id.spelling =
        id.groupVersion.apiVersion ++ "/" ++ id.resource ++ ":" ++ id.subResource := by
      rw [spelling, localName, if_neg hsub]
      simp only [String.append_assoc]
    have hpath := hspelled.colon_not_mem_iff.2 hnames
    rw [htext, parse_append_colon hspelled hpath (h.noColon id.subResource (by simp))]

/-- The text of the parts neither starts with a slash nor ends in a colon. -/
theorem head?_spelling (h : Regular id)
    (hspells : Spells path id.group id.version id.resource) :
    id.spelling.toList.head? ≠ some '/' := by
  have hrooted := (h.normal_components hspells).isRooted_joinFields
  rw [joinFields_components] at hrooted
  simpa [Path.isRooted] using hrooted

/-- A colon never comes last, since a sub-resource that is empty is not written. -/
theorem getLast?_spelling (h : Regular id) : id.spelling.toList.getLast? ≠ some ':' := by
  have hname : id.localName.toList ≠ [] := by simpa using h.localName_ne
  rw [spelling, String.toList_append, List.getLast?_append_of_ne_nil _ hname]
  unfold localName
  intro hlast
  split at hlast
  · exact h.noColon id.resource (by simp) (List.mem_of_getLast? hlast)
  · next hsub =>
    have hchars : id.subResource.toList ≠ [] := by simpa using hsub
    rw [String.toList_append, List.getLast?_append_of_ne_nil _ hchars] at hlast
    exact h.noColon id.subResource (by simp) (List.mem_of_getLast? hlast)

/-- A text that says no more than the parts is the text of the parts. -/
theorem eq_spelling (h : Regular id) (hid : parse s = .ok id) (hhead : s.toList.head? ≠ some '/')
    (hlast : s.toList.getLast? ≠ some ':') : s = id.spelling := by
  rcases parse_eq_ok_iff.1 hid with ⟨_, hspells, hsub⟩
  by_cases hone : s.toList.count ':' = 1
  · rcases eq_append_of_count_eq_one hone with ⟨_, _, hsplit⟩
    rw [← hsub] at hsplit
    generalize pathOf s = path at hspells hsplit
    subst hsplit
    have hpath : path = id.groupVersion.apiVersion ++ "/" ++ id.resource := by
      apply (hspells.eq_apiVersion_or h.version_ne).resolve_right
      intro hslash
      exact hhead (by simp [hslash])
    have hne : id.subResource ≠ "" := by
      intro hempty
      exact hlast (by simp [hempty])
    rw [hpath, spelling, localName, if_neg hne]
    simp only [String.append_assoc]
  · rcases pathOf_of_count_ne_one hone with ⟨hall, hnone⟩
    rw [hall] at hspells
    have hpath := (hspells.eq_apiVersion_or h.version_ne).resolve_right hhead
    rw [spelling, localName, if_pos (hsub.trans hnone)]
    exact hpath

end Regular

/-! ## Rebuilding -/

/-- An identifier is rebuilt from its parts, but for its text: that comes back just when it has
neither a slash in front nor a colon at the end. -/
theorem parseUnder_parts (hid : parse s = .ok id) (h : Regular id) :
    parseUnder id.groupVersion.apiVersion id.localName = .ok { id with raw := id.spelling } ∧
    (parseUnder id.groupVersion.apiVersion id.localName = .ok id ↔
      s.toList.head? ≠ some '/' ∧ s.toList.getLast? ≠ some ':') := by
  rcases parse_eq_ok_iff.1 hid with ⟨hraw, hspells, _⟩
  have hrebuilt : parseUnder id.groupVersion.apiVersion id.localName =
      .ok { id with raw := id.spelling } := by
    rw [parseUnder, h.join_eq_spelling hspells, h.parse_spelling hspells]
  refine ⟨hrebuilt, ?_⟩
  rw [hrebuilt]
  constructor
  · intro hsame
    have hrawSpelling : id.spelling = id.raw := congrArg Identifier.raw (Except.ok.inj hsame)
    rw [← hraw, ← hrawSpelling]
    exact ⟨h.head?_spelling hspells, h.getLast?_spelling⟩
  · rintro ⟨hhead, hlast⟩
    rw [← h.eq_spelling hid hhead hlast, ← hraw]

/-- A slash for the core group is lost, and a text without it comes back as a whole. -/
theorem parseUnder_parts_pods :
    parse "/v1/pods:log" = .ok ⟨"/v1/pods:log", "", "v1", "pods", "log"⟩ ∧
      Regular ⟨"/v1/pods:log", "", "v1", "pods", "log"⟩ ∧
      parseUnder "v1" "pods:log" = .ok ⟨"v1/pods:log", "", "v1", "pods", "log"⟩ ∧
      parseUnder "apps/v1" "pods:a." = .ok ⟨"apps/v1/pods:a.", "apps", "v1", "pods", "a."⟩ := by
  have hslash : parse "/v1/pods:log" = .ok ⟨"/v1/pods:log", "", "v1", "pods", "log"⟩ := by rfl
  have hwhole : parse "apps/v1/pods:a." = .ok ⟨"apps/v1/pods:a.", "apps", "v1", "pods", "a."⟩ := by
    rfl
  have hregular : Regular ⟨"/v1/pods:log", "", "v1", "pods", "log"⟩ := by decide
  exact ⟨hslash, hregular, (parseUnder_parts hslash hregular).1,
    (parseUnder_parts hwhole (by decide)).2.2 (by decide)⟩

end ResourceInspector.Identifier
