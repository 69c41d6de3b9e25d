import Mathlib.Tactic.MkIffOfInductiveProp
import ResourceInspector.Encoding.Resource
import ResourceInspector.Proofs.Identifier.Grammar
import ResourceInspector.Proofs.Path.Clean
/-!
# Identifiers of discovery records

The identifier of a discovery record has the parts of the record, but its text is a cleaned path,
and the text is all that is kept when the identifier is written down. Which records are found again
in their text is a matter of the parts alone (`ReadsBack`): the parts must be the fields that the
path has, from the first one that is not empty to the last.
-/

namespace ResourceInspector.Identifier

open Text

/-- The group, version and name of a record whose identifier is what its own text reads as. -/
@[mk_iff]
structure ReadsBack (g v n : String) : Prop where
  /-- No part is divided by a slash. -/
  undivided : '/' ∉ g.toList ∧ '/' ∉ v.toList ∧ '/' ∉ n.toList
  /-- The parts do not have exactly one colon between them. -/
  colons : g.toList.count ':' + v.toList.count ':' + n.toList.count ':' ≠ 1
  /-- Behind a part that is there no part is missing. -/
  gapless : (g ≠ "" → v ≠ "") ∧ (v ≠ "" → n ≠ "")
  /-- No part is a dot, except for a name that is all there is. -/
  dots : g ≠ "." ∧ v ≠ "." ∧ (n = "." → g = "" ∧ v = "")
  /-- A part that climbs comes behind no name. -/
  climbs : (v = ".." → g = "" ∨ g = "..") ∧
    (n = ".." → (g = "" ∨ g = "..") ∧ (v = "" ∨ v = ".."))

/-- A name that is an ordinary component of a path, without a colon. -/
@[mk_iff]
structure Plain (s : String) : Prop where
  nonempty : s ≠ ""
  noDot : s ≠ "."
  noClimb : s ≠ ".."
  undivided : '/' ∉ s.toList
  noColon : ':' ∉ s.toList

instance (g v n : String) : Decidable (ReadsBack g v n) :=
  decidable_of_iff' _ (readsBack_iff g v n)

instance (s : String) : Decidable (Plain s) :=
  decidable_of_iff' _ (plain_iff s)

variable {g v n path : String}

/-! ## Texts that spell their parts -/

/-- The text of parts that read back spells them. -/
theorem ReadsBack.spells (h : ReadsBack g v n) : Spells (Path.join [g, v, n]) g v n := by
  obtain ⟨⟨hg, hv, hn⟩, _, ⟨hversion, hname⟩, ⟨hgroupDot, hversionDot, hnameDot⟩,
    hversionUp, hnameUp⟩ := h
  -- by the first part that is there: the parts from there on are clean components
  by_cases hgroup : g = ""
  · subst hgroup
    rw [Path.join_cons_empty]
    by_cases hver : v = ""
    · subst hver
      rw [Path.join_cons_empty]
      by_cases hshort : n = "" ∨ n = "."
      · rcases hshort with rfl | rfl <;> exact .bare (by decide)
      · have hnormal : Path.Normal false [n] := by
          simpa [Path.normal_false_iff, hn] using hshort
        rw [Path.join_of_normal hnormal (by simp), joinFields_singleton]
        exact .bare hn
    · have hnameDot' : n ≠ "." := fun hdot => hver (hnameDot hdot).2
      have hnormal : Path.Normal false [v, n] := by
        simpa [Path.normal_false_iff, hver, hname hver, hversionDot, hnameDot', hv, hn]
          using fun hup => (hnameUp hup).2.resolve_left hver
      rw [Path.join_of_normal hnormal (by simp), joinFields_core]
      exact .core hv hn
  · have hver : v ≠ "" := hversion hgroup
    have hnameDot' : n ≠ "." := fun hdot => hver (hnameDot hdot).2
    have hnormal : Path.Normal false [g, v, n] := by
      refine Path.normal_false_iff.2 ⟨?_, ?_⟩
      · simp [hgroup, hver, hname hver, hgroupDot, hversionDot, hnameDot', hg, hv, hn]
      · simpa [hgroup, hver] using And.intro (And.intro hversionUp fun hup => (hnameUp hup).1)
          fun hup => (hnameUp hup).2
    rw [Path.join_of_normal hnormal (by simp), joinFields_full]
    exact .full hg hv hn

/-- Parts that a path spells have no slash in them, since the slashes are where it was divided. -/
theorem Spells.undivided (h : Spells path g v n) :
    '/' ∉ g.toList ∧ '/' ∉ v.toList ∧ '/' ∉ n.toList := by
  cases h with
  | full hg hv hn => exact ⟨hg, hv, hn⟩
  | core hv hn => exact ⟨by simp, hv, hn⟩
  | bare hn => exact ⟨by simp, by simp, hn⟩

/-- Parts that their text spells read back, but for the colons. -/
theorem ReadsBack.of_spells (h : Spells (Path.join [g, v, n]) g v n)
    (hcolons : g.toList.count ':' + v.toList.count ':' + n.toList.count ':' ≠ 1) :
    ReadsBack g v n := by
  have hundivided := h.undivided
  have hslash : ∀ s ∈ [g, v, n], '/' ∉ s.toList := by simpa using hundivided
  rcases Path.fields_join hslash with hempty | hdot | hnormal
  · -- nothing to clean
    obtain ⟨rfl, rfl, rfl⟩ : g = "" ∧ v = "" ∧ n = "" := by simpa using hempty
    exact ⟨hundivided, hcolons, by simp, by simp, by simp⟩
  · -- all cleaned away: a dot spells no other parts than the dot as a name
    rw [hdot, spells_iff, show fields '/' "." = ["."] from rfl] at h
    obtain ⟨rfl, rfl, rfl⟩ : "." = n ∧ g = "" ∧ v = "" := by simpa using h
    exact ⟨hundivided, hcolons, by simp, by simp, by simp⟩
  · rcases spells_iff.1 h with hfields | ⟨hfields, rfl⟩ | ⟨hfields, rfl, rfl⟩ <;>
      rw [hfields, Path.normal_false_iff] at hnormal
    · obtain ⟨⟨⟨_, hg, _⟩, ⟨hver, hv, _⟩, ⟨hname, hn, _⟩⟩, ⟨hversionUp, hgroupUp⟩, hnameUp⟩ := by
        simpa using hnormal
      exact ⟨hundivided, hcolons, by simp [hver, hname], by simp [hg, hv, hn],
        ⟨fun hup => .inr (hversionUp hup), fun hup => ⟨.inr (hgroupUp hup), .inr (hnameUp hup)⟩⟩⟩
    · obtain ⟨⟨⟨_, hv, _⟩, ⟨hname, hn, _⟩⟩, hnameUp⟩ := by simpa using hnormal
      exact ⟨hundivided, hcolons, by simp [hname], by simp [hv, hn],
        ⟨by simp, fun hup => ⟨.inl rfl, .inr (hnameUp hup)⟩⟩⟩
    · exact ⟨hundivided, hcolons, by simp, by simp, by simp⟩

/-! ## Reading back -/

/-- Parts without a colon have a text without a colon. -/
theorem colon_not_mem_join (h : ∀ s ∈ [g, v, n], ':' ∉ s.toList) :
    ':' ∉ (Path.join [g, v, n]).toList := by
  intro hcolon
  obtain ⟨s, hs, hmem⟩ := Path.mem_join hcolon (by decide) (by decide)
  exact h s hs hmem

/-- The text of parts is read as these parts just when the parts read back. -/
theorem parse_join_iff :
    parse (Path.join [g, v, n]) = .ok ⟨Path.join [g, v, n], g, v, n, ""⟩ ↔ ReadsBack g v n := by
  constructor
  · intro hparse
    obtain ⟨_, hspells, _⟩ := parse_eq_ok_iff.1 hparse
    -- a colon that sets off a sub-resource is in none of the parts, so it is not in their text
    have hcolon : (Path.join [g, v, n]).toList.count ':' ≠ 1 := by
      intro hone
      have hpath := (eq_append_of_count_eq_one hone).1
      have hnone := colon_not_mem_join (hspells.colon_not_mem_iff.1 hpath)
      rw [List.count_eq_zero.2 hnone] at hone
      exact Nat.zero_ne_one hone
    rw [(pathOf_of_count_ne_one hcolon).1] at hspells
    exact .of_spells hspells (hspells.count_colon ▸ hcolon)
  · intro h
    exact parse_path h.spells (h.spells.count_colon ▸ h.colons)

/-- Writing an identifier down and reading it back reads its text. -/
theorem ofJson_toJson (id : Identifier) :
    ofJson id.toJson = (parse id.raw).mapError .identifier := rfl

theorem ofJson_toJson_eq_ok_iff (id id' : Identifier) :
    ofJson id.toJson = .ok id' ↔ parse id.raw = .ok id' := by
  rw [ofJson_toJson]
  cases parse id.raw <;> simp [Except.mapError]

/-! ## Texts of plain names -/

/-- Plain names are clean components. -/
theorem normal_of_plain {names : List String} (h : ∀ s ∈ names, Plain s) :
    Path.Normal false names :=
  Path.normal_false_iff.2
    ⟨fun s hs => ⟨(h s hs).nonempty, (h s hs).noDot, (h s hs).undivided⟩,
      List.pairwise_of_forall_mem_list fun _ _ b hb hup => absurd hup (h b hb).noClimb⟩

/-- Under a group but no version the group is taken for the version. -/
theorem parse_join_of_group (hg : Plain g) (hn : Plain n) :
    parse (Path.join [g, "", n]) = .ok ⟨g ++ "/" ++ n, "", g, n, ""⟩ := by
  have hnormal : Path.Normal false [g, n] := normal_of_plain (by simp [hg, hn])
  have hconcat : Path.concat [g, "", n] = joinFields '/' [g, n] := by
    simp [Path.concat, hg.nonempty, hn.nonempty]
  have hjoin : Path.join [g, "", n] = g ++ "/" ++ n := by
    rw [Path.join_of_concat hnormal (by simp) hconcat, joinFields_core]
  rw [hjoin]
  exact (Spells.core hg.undivided hn.undivided).parse_eq_ok (by simp [hg.noColon, hn.noColon])

/-- Of a name in two parts in the core group, the first is taken for the resource and the version
for its group. -/
theorem parse_join_of_subResource {p l : String} (hv : Plain v) (hp : Plain p) (hl : Plain l) :
    parse (Path.join ["", v, p ++ "/" ++ l]) = .ok ⟨v ++ "/" ++ p ++ "/" ++ l, v, p, l, ""⟩ := by
  have hnormal : Path.Normal false [v, p, l] := normal_of_plain (by simp [hv, hp, hl])
  have hconcat : Path.concat ["", v, p ++ "/" ++ l] = joinFields '/' [v, p, l] := by
    rw [joinFields_cons '/' v (List.cons_ne_nil p [l]), joinFields_core]
    simp [Path.concat, hv.nonempty, joinFields_core, String.append_assoc]
  have hjoin : Path.join ["", v, p ++ "/" ++ l] = v ++ "/" ++ p ++ "/" ++ l := by
    rw [Path.join_of_concat hnormal (by simp) hconcat, joinFields_full]
  rw [hjoin]
  exact (Spells.full hv.undivided hp.undivided hl.undivided).parse_eq_ok
    (by simp [hv.noColon, hp.noColon, hl.noColon])

/-! ## Records -/

/-- The identifier of a record is what its text is read as just when the parts of the record read
back, and writing it down and reading it makes no difference to that. So a record with a group but
no version and one whose name has a slash never come back as themselves. The first comes back with
the group as its version, and a sub-resource of the core group as a resource in a group that its
version names. -/
theorem ofApiResource_reads_back (m : ApiResource) :
    (parse (ofApiResource m).raw = .ok (ofApiResource m) ↔
      ReadsBack m.group m.version m.name) ∧
    (∀ id, ofJson (ofApiResource m).toJson = .ok id ↔ parse (ofApiResource m).raw = .ok id) ∧
    ((m.group ≠ "" ∧ m.version = "") ∨ '/' ∈ m.name.toList →
      ∀ id, parse (ofApiResource m).raw = .ok id → id ≠ ofApiResource m) ∧
    (Plain m.group → m.version = "" → Plain m.name →
      parse (ofApiResource m).raw = .ok ⟨m.group ++ "/" ++ m.name, "", m.group, m.name, ""⟩) ∧
    (∀ p l, m.group = "" → Plain m.version → m.name = p ++ "/" ++ l → Plain p → Plain l →
      parse (ofApiResource m).raw =
        .ok ⟨m.version ++ "/" ++ p ++ "/" ++ l, m.version, p, l, ""⟩) := by
  refine ⟨parse_join_iff, ofJson_toJson_eq_ok_iff _, ?_, ?_, ?_⟩
  · intro hparts id hparse hid
    rw [hid] at hparse
    have hback : ReadsBack m.group m.version m.name := parse_join_iff.1 hparse
    rcases hparts with ⟨hgroup, hversion⟩ | hslash
    · exact hback.gapless.1 hgroup hversion
    · exact hback.undivided.2.2 hslash
  · intro hgroup hversion hname
    simpa only [ofApiResource, hversion] using parse_join_of_group hgroup hname
  · intro p l hgroup hversion hname hp hl
    simpa only [ofApiResource, hgroup, hname] using parse_join_of_subResource hversion hp hl

/-- A pod's log comes back as a resource of its own, in a group that is a version. -/
theorem ofApiResource_reads_back_log :
    ¬ ReadsBack "" "v1" "pods/log" ∧
    (∀ id, parse "v1/pods/log" = .ok id →
      id ≠ ofApiResource { name := "pods/log", version := "v1" }) ∧
    parse "v1/pods/log" = .ok ⟨"v1/pods/log", "v1", "pods", "log", ""⟩ ∧
    parse "apps/deployments" = .ok ⟨"apps/deployments", "", "apps", "deployments", ""⟩ := by
  obtain ⟨_, _, hother, _, hlog⟩ :=
    ofApiResource_reads_back { name := "pods/log", version := "v1" }
  obtain ⟨_, _, _, hgroup, _⟩ :=
    ofApiResource_reads_back { name := "deployments", group := "apps" }
  exact ⟨by decide, hother (by decide),
    hlog "pods" "log" rfl (by decide) rfl (by decide) (by decide),
    hgroup (by decide) rfl (by decide)⟩

end ResourceInspector.Identifier
