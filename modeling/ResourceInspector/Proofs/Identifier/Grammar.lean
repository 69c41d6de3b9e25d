import ResourceInspector.Identifier.Basic
import ResourceInspector.Proofs.Text.Fields
/-!
# The grammar of identifiers

A text is an identifier when its path spells up to three names (`Spells`). The path is what stands
before the colon if there is exactly one colon, and the whole text otherwise, so that a second colon
turns the first into an ordinary character. Reading a text finds the names its path spells and fails
on no other ground than too many of them (`parse_eq_ok_iff`, `parse_eq_error_iff`).
-/

namespace ResourceInspector.Identifier

open Text

/-! ## The parts of a text -/

/-- The path of a text: what stands before the only colon, or all of a text that has no colon or
several. -/
def pathOf (s : String) : String :=
  if s.toList.count ':' = 1 then String.ofList (s.toList.takeWhile (· ≠ ':')) else s

/-- The sub-resource of a text: what stands behind the only colon, and nothing in a text that has no
colon or several. -/
def subResourceOf (s : String) : String :=
  if s.toList.count ':' = 1 then String.ofList (s.toList.dropWhile (· ≠ ':')).tail else ""

/-- The path that spells a group, a version and a resource. The group may be left out, or the group
and the version. -/
inductive Spells : String → String → String → String → Prop where
  | full {g v r : String} :
      '/' ∉ g.toList → '/' ∉ v.toList → '/' ∉ r.toList →
      Spells (g ++ "/" ++ v ++ "/" ++ r) g v r
  | core {v r : String} :
      '/' ∉ v.toList → '/' ∉ r.toList → Spells (v ++ "/" ++ r) "" v r
  | bare {r : String} : '/' ∉ r.toList → Spells r "" "" r

variable {s path sub g v r : String}

/-! ## The only colon -/

/-- A text has two parts just when one colon stands between them. -/
theorem fields_colon_iff :
    fields ':' s = [path, sub] ↔
      ':' ∉ path.toList ∧ ':' ∉ sub.toList ∧ s = path ++ ":" ++ sub := by
  rw [fields_eq_iff, joinFields_cons ':' path (List.cons_ne_nil sub []), joinFields_singleton]
  simp [and_assoc]

theorem toList_append_colon (path sub : String) :
    (path ++ ":" ++ sub).toList = path.toList ++ ':' :: sub.toList := by
  simp

/-- Before the colon there is no character that stops the reading of the path. -/
theorem forall_mem_path (hpath : ':' ∉ path.toList) :
    ∀ c ∈ path.toList, decide (c ≠ ':') = true := by
  intro c hc
  exact decide_eq_true (ne_of_mem_of_not_mem hc hpath)

theorem count_append (hpath : ':' ∉ path.toList) (hsub : ':' ∉ sub.toList) :
    (path ++ ":" ++ sub).toList.count ':' = 1 := by
  rw [toList_append_colon, List.count_append, List.count_cons_self, List.count_eq_zero.2 hpath,
    List.count_eq_zero.2 hsub]

theorem pathOf_append (hpath : ':' ∉ path.toList) (hsub : ':' ∉ sub.toList) :
    pathOf (path ++ ":" ++ sub) = path := by
  rw [pathOf, if_pos (count_append hpath hsub), toList_append_colon,
    List.takeWhile_append_of_pos (forall_mem_path hpath), List.takeWhile_cons_of_neg (by simp),
    List.append_nil, String.ofList_toList]

theorem subResourceOf_append (hpath : ':' ∉ path.toList) (hsub : ':' ∉ sub.toList) :
    subResourceOf (path ++ ":" ++ sub) = sub := by
  rw [subResourceOf, if_pos (count_append hpath hsub), toList_append_colon,
    List.dropWhile_append_of_pos (forall_mem_path hpath), List.dropWhile_cons_of_neg (by simp),
    List.tail_cons, String.ofList_toList]

/-- A text with exactly one colon is its path and its sub-resource with the colon between. -/
theorem eq_append_of_count_eq_one (h : s.toList.count ':' = 1) :
    ':' ∉ (pathOf s).toList ∧ ':' ∉ (subResourceOf s).toList ∧
      s = pathOf s ++ ":" ++ subResourceOf s := by
  have hlen : (fields ':' s).length = 2 := by rw [length_fields, h]
  obtain ⟨path, sub, hfields⟩ := List.length_eq_two.1 hlen
  obtain ⟨hpath, hsub, rfl⟩ := fields_colon_iff.1 hfields
  rw [pathOf_append hpath hsub, subResourceOf_append hpath hsub]
  exact ⟨hpath, hsub, rfl⟩

/-- Without exactly one colon a text is all path. -/
theorem pathOf_of_count_ne_one (h : s.toList.count ':' ≠ 1) :
    pathOf s = s ∧ subResourceOf s = "" :=
  ⟨if_neg h, if_neg h⟩

/-- Splitting a text gives what counting its colons says. -/
theorem splitSubResource_eq (s : String) : splitSubResource s = (pathOf s, subResourceOf s) := by
  by_cases h : s.toList.count ':' = 1
  · rw [splitSubResource, fields_colon_iff.2 (eq_append_of_count_eq_one h)]
  · obtain ⟨hall, hnone⟩ := pathOf_of_count_ne_one h
    rw [hall, hnone, splitSubResource]
    split
    · next hfields =>
      have hlen := length_fields ':' s
      rw [hfields] at hlen
      exact absurd (Nat.succ.inj hlen).symm h
    · rfl

/-! ## The names on a path -/

theorem joinFields_full (g v r : String) :
    joinFields '/' [g, v, r] = g ++ "/" ++ v ++ "/" ++ r := by
  rw [← String.toList_inj]
  simp [joinFields, List.intercalate]

theorem joinFields_core (v r : String) : joinFields '/' [v, r] = v ++ "/" ++ r := by
  rw [← String.toList_inj]
  simp [joinFields, List.intercalate]

/-- The names a path spells are its fields. -/
theorem spells_iff :
    Spells path g v r ↔
      fields '/' path = [g, v, r] ∨ (fields '/' path = [v, r] ∧ g = "") ∨
        (fields '/' path = [r] ∧ g = "" ∧ v = "") := by
  constructor
  · rintro (⟨hg, hv, hr⟩ | ⟨hv, hr⟩ | hr)
    · left
      rw [← joinFields_full]
      exact fields_joinFields nofun (by simp [hg, hv, hr])
    · right; left
      rw [← joinFields_core]
      exact ⟨fields_joinFields nofun (by simp [hv, hr]), rfl⟩
    · right; right
      exact ⟨fields_eq_iff.2 ⟨nofun, by simpa using hr, (joinFields_singleton ..).symm⟩, rfl, rfl⟩
  · rintro (hfields | ⟨hfields, rfl⟩ | ⟨hfields, rfl, rfl⟩) <;>
      obtain ⟨_, hsep, rfl⟩ := fields_eq_iff.1 hfields
    · rw [joinFields_full]
      exact .full (hsep g (by simp)) (hsep v (by simp)) (hsep r (by simp))
    · rw [joinFields_core]
      exact .core (hsep v (by simp)) (hsep r (by simp))
    · rw [joinFields_singleton]
      exact .bare (hsep r (by simp))

/-- A path spells some names unless it has too many. -/
theorem exists_spells_iff : (∃ g v r, Spells path g v r) ↔ path.toList.count '/' ≤ 2 := by
  have hlen := length_fields '/' path
  constructor
  · rintro ⟨g, v, r, h⟩
    rcases spells_iff.1 h with hfields | ⟨hfields, _⟩ | ⟨hfields, _⟩ <;>
      rw [hfields] at hlen <;> simp only [List.length_cons, List.length_nil] at hlen <;> omega
  · intro hle
    rcases hfields : fields '/' path with _ | ⟨a, _ | ⟨b, _ | ⟨c, _ | ⟨d, rest⟩⟩⟩⟩
    · exact absurd hfields (fields_ne_nil '/' path)
    · exact ⟨"", "", a, spells_iff.2 (by simp [hfields])⟩
    · exact ⟨"", a, b, spells_iff.2 (by simp [hfields])⟩
    · exact ⟨a, b, c, spells_iff.2 (by simp [hfields])⟩
    · rw [hfields] at hlen
      simp only [List.length_cons] at hlen
      omega

/-- The colons of a path are those of its names. -/
theorem Spells.count_colon (h : Spells path g v r) :
    path.toList.count ':' =
      g.toList.count ':' + v.toList.count ':' + r.toList.count ':' := by
  cases h <;> simp [Nat.add_assoc]

theorem Spells.colon_not_mem_iff (h : Spells path g v r) :
    ':' ∉ path.toList ↔ ∀ name ∈ [g, v, r], ':' ∉ name.toList := by
  simp only [← List.count_eq_zero, h.count_colon, List.forall_mem_cons, List.not_mem_nil,
    false_imp_iff, implies_true, and_true]
  omega

/-! ## Reading -/

/-- A text whose path spells names is read as these names. -/
theorem parse_of_spells (h : Spells (pathOf s) g v r) :
    parse s = .ok ⟨s, g, v, r, subResourceOf s⟩ := by
  rw [parse, splitSubResource_eq]
  rcases spells_iff.1 h with hfields | ⟨hfields, rfl⟩ | ⟨hfields, rfl, rfl⟩ <;> simp [hfields]

/-- A path that does not have exactly one colon is read as the names it spells. -/
theorem parse_path (h : Spells s g v r) (hcolon : s.toList.count ':' ≠ 1) :
    parse s = .ok ⟨s, g, v, r, ""⟩ := by
  obtain ⟨hall, hnone⟩ := pathOf_of_count_ne_one hcolon
  rw [parse_of_spells (hall.symm ▸ h), hnone]

/-- A path of names without colons is read as these names. -/
theorem Spells.parse_eq_ok (h : Spells path g v r)
    (hnames : ∀ name ∈ [g, v, r], ':' ∉ name.toList) :
    parse path = .ok ⟨path, g, v, r, ""⟩ := by
  have hpath : ':' ∉ path.toList := h.colon_not_mem_iff.2 hnames
  have hcolon : path.toList.count ':' ≠ 1 := by
    rw [List.count_eq_zero.2 hpath]
    decide
  exact parse_path h hcolon

/-- A path without colons is read as the names it spells also where a sub-resource follows. -/
theorem parse_append_colon (h : Spells path g v r) (hpath : ':' ∉ path.toList)
    (hsub : ':' ∉ sub.toList) :
    parse (path ++ ":" ++ sub) = .ok ⟨path ++ ":" ++ sub, g, v, r, sub⟩ := by
  have hwhole : pathOf (path ++ ":" ++ sub) = path := pathOf_append hpath hsub
  rw [parse_of_spells (hwhole.symm ▸ h), subResourceOf_append hpath hsub]

/-- A text with too many names on its path is not read. -/
theorem parse_of_two_lt (h : 2 < (pathOf s).toList.count '/') :
    parse s = .error ⟨s, (pathOf s).toList.count '/' + 1⟩ := by
  rw [parse, splitSubResource_eq, ← length_fields]
  have hlen := length_fields '/' (pathOf s)
  dsimp only
  split
  case h_4 => rfl
  all_goals
    next hfields =>
    rw [hfields] at hlen
    simp only [List.length_cons, List.length_nil] at hlen
    omega

/-- What is accepted, and as what: the text itself, and the parts that its path spells. -/
theorem parse_eq_ok_iff {id : Identifier} :
    parse s = .ok id ↔
      id.raw = s ∧ Spells (pathOf s) id.group id.version id.resource ∧
        id.subResource = subResourceOf s := by
  constructor
  · intro hid
    -- with more names the text would have been refused
    have hle : (pathOf s).toList.count '/' ≤ 2 := by
      by_contra hlt
      rw [parse_of_two_lt (Nat.lt_of_not_le hlt)] at hid
      cases hid
    obtain ⟨g, v, r, hspells⟩ := exists_spells_iff.2 hle
    rw [parse_of_spells hspells] at hid
    obtain rfl := Except.ok.inj hid
    exact ⟨rfl, hspells, rfl⟩
  · rintro ⟨hraw, hspells, hsub⟩
    rw [parse_of_spells hspells, ← hsub, ← hraw]

/-- What is refused: a path of more than three parts. Their number is reported. -/
theorem parse_eq_error_iff {e : Malformed} :
    parse s = .error e ↔
      e = ⟨s, (pathOf s).toList.count '/' + 1⟩ ∧ 2 < (pathOf s).toList.count '/' := by
  constructor
  · intro he
    have hlt : 2 < (pathOf s).toList.count '/' := by
      by_contra hle
      obtain ⟨g, v, r, hspells⟩ := exists_spells_iff.2 (Nat.le_of_not_lt hle)
      rw [parse_of_spells hspells] at he
      cases he
    rw [parse_of_two_lt hlt] at he
    exact ⟨(Except.error.inj he).symm, hlt⟩
  · rintro ⟨rfl, hlt⟩
    exact parse_of_two_lt hlt

/-- Reading accepts the texts whose path spells up to three names and no others, and takes them
apart into what they are made of. What it refuses it reports with the number of names. Whatever is
put together from names, with a sub-resource behind it or without, is taken apart into just these
names. -/
theorem parse_grammar :
    (∀ s : String,
      ((∃ id, parse s = .ok id) ↔ (pathOf s).toList.count '/' ≤ 2) ∧
      (∀ id, parse s = .ok id →
        id.raw = s ∧ Spells (pathOf s) id.group id.version id.resource ∧
        id.subResource = subResourceOf s ∧
        (s.toList.count ':' = 1 →
          ∀ part ∈ [id.group, id.version, id.resource, id.subResource], ':' ∉ part.toList)) ∧
      (∀ e, parse s = .error e → e = ⟨s, (pathOf s).toList.count '/' + 1⟩ ∧ 4 ≤ e.tokens)) ∧
    (∀ path g v r, Spells path g v r → (∀ name ∈ [g, v, r], ':' ∉ name.toList) →
      parse path = .ok ⟨path, g, v, r, ""⟩ ∧
      ∀ u : String, ':' ∉ u.toList →
        parse (path ++ ":" ++ u) = .ok ⟨path ++ ":" ++ u, g, v, r, u⟩) := by
  constructor
  · intro s
    refine ⟨?_, ?_, ?_⟩
    · rw [← exists_spells_iff]
      constructor
      · rintro ⟨id, hid⟩
        exact ⟨_, _, _, (parse_eq_ok_iff.1 hid).2.1⟩
      · rintro ⟨g, v, r, hspells⟩
        exact ⟨_, parse_of_spells hspells⟩
    · intro id hid
      obtain ⟨hraw, hspells, hsub⟩ := parse_eq_ok_iff.1 hid
      refine ⟨hraw, hspells, hsub, ?_⟩
      intro hone
      obtain ⟨hpath, hsubResource, _⟩ := eq_append_of_count_eq_one hone
      have hname : ∀ name ∈ [id.group, id.version, id.resource], ':' ∉ name.toList :=
        hspells.colon_not_mem_iff.1 hpath
      simpa [hsub, hsubResource] using hname
    · intro e he
      obtain ⟨rfl, hlt⟩ := parse_eq_error_iff.1 he
      exact ⟨rfl, Nat.succ_le_succ hlt⟩
  · intro path g v r hspells hnames
    have hpath : ':' ∉ path.toList := hspells.colon_not_mem_iff.2 hnames
    exact ⟨hspells.parse_eq_ok hnames, fun u hu => parse_append_colon hspells hpath hu⟩

/-- A sub-resource may hold slashes, and a colon may stand anywhere as soon as there are two. -/
theorem parse_grammar_colons :
    Spells "apps/v1/deployments" "apps" "v1" "deployments" ∧
      parse "apps/v1/deployments:a/b" =
        .ok ⟨"apps/v1/deployments:a/b", "apps", "v1", "deployments", "a/b"⟩ ∧
      parse "v1:/pods:log" = .ok ⟨"v1:/pods:log", "", "v1:", "pods:log", ""⟩ := by
  have hspells : Spells "apps/v1/deployments" "apps" "v1" "deployments" :=
    @Spells.full "apps" "v1" "deployments" (by decide) (by decide) (by decide)
  exact ⟨hspells, (parse_grammar.2 _ _ _ _ hspells (by decide)).2 "a/b" (by decide), by rfl⟩

end ResourceInspector.Identifier
