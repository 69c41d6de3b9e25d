import ResourceInspector.Proofs.Command.Parameters
import ResourceInspector.Proofs.Command.Pipeline
import ResourceInspector.Proofs.Identifier.Grammar
import ResourceInspector.Proofs.Identifier.Sorting
/-!
# Sorting resources

`sort` reads a list of texts and gives the texts back in the order of their groups. What it gives is
said of the texts alone (`Arranged`): an identifier can be spelled in more than one way, and each
text has to come back as it was. Texts of identifiers have one arrangement, which is also its own
(`Arranged.unique`, `Arranged.again`).

The parameters decide what the command answers. `sortedResources_eq_ok_iff` says when it is an
arrangement, and `sortedResources_eq_error_iff` which failure it is otherwise. Items that are no
texts are refused before any text is read, and so a malformed text among them goes unnoticed.
-/

namespace ResourceInspector

variable {revision : Option String}

namespace Identifier

/-! ## Arrangements -/

/-- The group of the identifier that a text is. -/
def groupOf? (text : String) : Option String :=
  (parse text).toOption.map (·.group)

/-- The texts in the order of their groups. Those of one group stand in the order they had. -/
@[mk_iff]
structure Arranged (texts sorted : List String) : Prop where
  perm : sorted.Perm texts
  ordered : (sorted.map groupOf?).Pairwise fun first second =>
    ∀ g ∈ first, ∀ h ∈ second, NaturalOrder.le g h = true
  stable : ∀ text ∈ texts,
    sorted.filter (groupOf? · = groupOf? text) = texts.filter (groupOf? · = groupOf? text)

instance (texts sorted : List String) : Decidable (Arranged texts sorted) :=
  decidable_of_iff' _ (arranged_iff texts sorted)

variable {text : String} {texts sorted other : List String} {id : Identifier}
  {ids : List Identifier}

theorem groupOf?_of_parse (h : parse text = .ok id) : groupOf? text = some id.group := by
  rw [groupOf?, h]
  rfl

namespace Arranged

/-- The order is kept inside the groups that do not occur as well. -/
theorem filter_eq (h : Arranged texts sorted) (group : Option String) :
    sorted.filter (groupOf? · = group) = texts.filter (groupOf? · = group) := by
  by_cases hmem : ∃ text ∈ texts, groupOf? text = group
  · rcases hmem with ⟨text, htext, rfl⟩
    exact h.stable text htext
  · have hnone : texts.filter (groupOf? · = group) = [] := by
      simpa [List.filter_eq_nil_iff] using hmem
    have hperm := h.perm.filter (groupOf? · = group)
    rw [hnone] at hperm ⊢
    exact hperm.eq_nil

/-- The groups of identifiers come in one order. -/
theorem map_groupOf?_eq (h : Arranged texts sorted) (h' : Arranged texts other)
    (hread : ∀ text ∈ texts, ∃ id, parse text = .ok id) :
    sorted.map groupOf? = other.map groupOf? := by
  have hsome : ∀ {list : List String} {o : Option String}, list.Perm texts →
      o ∈ list.map groupOf? → ∃ g, o = some g := by
    intro list o hperm ho
    rcases List.mem_map.1 ho with ⟨text, htext, rfl⟩
    rcases hread text (hperm.subset htext) with ⟨id, hid⟩
    exact ⟨id.group, groupOf?_of_parse hid⟩
  refine List.Perm.eq_of_pairwise ?_ h.ordered h'.ordered
    ((h.perm.trans h'.perm.symm).map groupOf?)
  intro first second hfirst hsecond hle hle'
  rcases hsome h.perm hfirst with ⟨g, rfl⟩
  rcases hsome h'.perm hsecond with ⟨g', rfl⟩
  rw [NaturalOrder.le_antisymm (hle g rfl g' rfl) (hle' g' rfl g rfl)]

/-- Identifiers have no more than one arrangement. -/
theorem unique (h : Arranged texts sorted) (h' : Arranged texts other)
    (hread : ∀ text ∈ texts, ∃ id, parse text = .ok id) : sorted = other := by
  apply StableSort.eq_of_map_eq_of_filter_eq (h.map_groupOf?_eq h' hread)
  intro group
  exact (h.filter_eq group).trans (h'.filter_eq group).symm

/-- What was arranged is arranged. -/
theorem again (h : Arranged texts sorted) : Arranged sorted sorted :=
  ⟨.refl _, h.ordered, fun _ _ => rfl⟩

end Arranged

/-! ## Collections of identifiers that were read -/

/-- Reading keeps the texts. -/
theorem of_forall₂_parse (h : List.Forall₂ (fun text id => parse text = .ok id) texts ids) :
    ids.map (·.raw) = texts ∧ ∀ id ∈ ids, parse id.raw = .ok id := by
  induction h with
  | nil => simp
  | @cons text id texts ids hid _ ih =>
    obtain ⟨rfl, _⟩ := parse_eq_ok_iff.1 hid
    simpa [ih.1, hid] using ih.2

namespace Collection

variable {c : Collection}

/-- The texts of a group are those of its identifiers. -/
theorem filter_texts (hread : ∀ id ∈ c.toList, Identifier.parse id.raw = .ok id) (group : String) :
    c.texts.filter (groupOf? · = some group) = (c.ofGroup group).map (·.raw) := by
  unfold texts ofGroup
  rw [List.filter_map]
  congr 1
  apply List.filter_congr
  intro id hid
  simp [groupOf?_of_parse (hread id hid)]

/-- Sorting identifiers arranges their texts. -/
theorem arranged_sort (hread : ∀ id ∈ c.toList, Identifier.parse id.raw = .ok id) :
    Arranged c.texts c.sort.texts := by
  have hread' : ∀ id ∈ c.sort.toList, Identifier.parse id.raw = .ok id := by
    intro id hid
    exact hread id ((perm_sort c).subset hid)
  constructor
  · exact (perm_sort c).map _
  · unfold texts
    rw [List.pairwise_map, List.pairwise_map]
    refine (sorted_sort c).imp_of_mem ?_
    intro a b ha hb hle g hg h hh
    rw [groupOf?_of_parse (hread' a ha)] at hg
    rw [groupOf?_of_parse (hread' b hb)] at hh
    cases hg
    cases hh
    exact hle
  · intro text htext
    rcases List.mem_map.1 htext with ⟨id, hid, rfl⟩
    rw [groupOf?_of_parse (hread id hid), filter_texts hread', filter_texts hread, ofGroup_sort]

end Collection

end Identifier

namespace Command

namespace Builtin

open Identifier (Arranged)

variable {ctx : Context} {text : String} {texts sorted : List String} {id : Identifier}
  {f : Failure}

theorem parseResource_eq_ok_iff : parseResource text = .ok id ↔ Identifier.parse text = .ok id :=
  mapError_eq_ok_iff

/-- A malformed resource is reported with its whole text. -/
theorem parseResource_eq_error_iff :
    parseResource text = .error f ↔ ∃ e, Identifier.parse text = .error e ∧ .resource text e = f :=
  mapError_eq_error_iff

/-- Sorting what was read arranges what it was read from. -/
theorem arranged_of_mapM {ids : List Identifier} (h : texts.mapM parseResource = .ok ids) :
    (∀ text ∈ texts, ∃ id, Identifier.parse text = .ok id) ∧
      Arranged texts (Identifier.Collection.mk ids).sort.texts := by
  simp only [mapM_eq_ok_iff, parseResource_eq_ok_iff] at h
  rcases Identifier.of_forall₂_parse h with ⟨rfl, hread⟩
  constructor
  · intro text htext
    rcases List.mem_map.1 htext with ⟨id, hid, rfl⟩
    exact ⟨id, hread id hid⟩
  · exact Identifier.Collection.arranged_sort hread

theorem exists_sortedResources (htexts : ctx.stringsParam "resources" = .ok texts)
    (hread : ∀ text ∈ texts, ∃ id, Identifier.parse text = .ok id) :
    ∃ sorted, sortedResources ctx = .ok sorted ∧ Arranged texts sorted := by
  have hreads : ∀ text ∈ texts, ∃ id, parseResource text = .ok id := by
    simpa only [parseResource_eq_ok_iff] using hread
  rcases exists_mapM_eq_ok hreads with ⟨ids, hids⟩
  refine ⟨_, ?_, (arranged_of_mapM hids).2⟩
  unfold sortedResources
  simp only [bind_eq_ok_iff, mapError_eq_ok_iff]
  exact ⟨texts, htexts, ids, hids, rfl⟩

/-- The resources are sorted when they are texts of identifiers, into their only arrangement. -/
theorem sortedResources_eq_ok_iff :
    sortedResources ctx = .ok sorted ↔
      ∃ texts, ctx.stringsParam "resources" = .ok texts ∧
        (∀ text ∈ texts, ∃ id, Identifier.parse text = .ok id) ∧ Arranged texts sorted := by
  constructor
  · intro h
    unfold sortedResources at h
    simp only [bind_eq_ok_iff, mapError_eq_ok_iff] at h
    rcases h with ⟨texts, htexts, ids, hids, heq⟩
    obtain rfl := Except.ok.inj heq
    exact ⟨texts, htexts, arranged_of_mapM hids⟩
  · rintro ⟨texts, htexts, hread, harranged⟩
    rcases exists_sortedResources htexts hread with ⟨sorted', hsorted, harranged'⟩
    rw [hsorted, harranged'.unique harranged hread]

/-- Otherwise the parameter is refused as a whole, or the first text that is no identifier is. -/
theorem sortedResources_eq_error_iff :
    sortedResources ctx = .error f ↔
      (∃ e, ctx.stringsParam "resources" = .error e ∧ f = .parameter e) ∨
        ∃ before text after e, ctx.stringsParam "resources" = .ok (before ++ text :: after) ∧
          (∀ t ∈ before, ∃ id, Identifier.parse t = .ok id) ∧
          Identifier.parse text = .error e ∧ f = .resource text e := by
  unfold sortedResources
  simp only [bind_eq_error_iff, mapError_eq_ok_iff, mapError_eq_error_iff, mapM_eq_error_iff,
    parseResource_eq_ok_iff, parseResource_eq_error_iff]
  constructor
  · rintro (⟨e, he, rfl⟩ | ⟨texts, htexts, ⟨before, text, after, rfl, hbefore, e, he, rfl⟩ | h⟩)
    · exact Or.inl ⟨e, he, rfl⟩
    · exact Or.inr ⟨before, text, after, e, htexts, hbefore, he, rfl⟩
    · -- nothing is left that could fail
      rcases h with ⟨_, _, h⟩
      cases h
  · rintro (⟨e, he, rfl⟩ | ⟨before, text, after, e, htexts, hbefore, he, rfl⟩)
    · exact Or.inl ⟨e, he, rfl⟩
    · exact Or.inr ⟨_, htexts, Or.inl ⟨before, text, after, rfl, hbefore, e, he, rfl⟩⟩

/-- Of texts that are not all identifiers, the first that is none is the one reported. -/
theorem exists_first_malformed (htexts : ctx.stringsParam "resources" = .ok texts)
    (hsome : ∃ text ∈ texts, ∃ e, Identifier.parse text = .error e) :
    ∃ before text after e, texts = before ++ text :: after ∧
      (∀ t ∈ before, ∃ id, Identifier.parse t = .ok id) ∧ Identifier.parse text = .error e ∧
      sortedResources ctx = .error (.resource text e) := by
  cases h : sortedResources ctx with
  | ok sorted =>
    rcases sortedResources_eq_ok_iff.1 h with ⟨texts', htexts', hread, _⟩
    obtain rfl := Except.ok.inj (htexts.symm.trans htexts')
    rcases hsome with ⟨text, htext, e, he⟩
    rcases hread text htext with ⟨id, hid⟩
    rw [he] at hid
    cases hid
  | error f =>
    rcases sortedResources_eq_error_iff.1 h with
      ⟨e, he, _⟩ | ⟨before, text, after, e, htexts', hbefore, he, rfl⟩
    · rw [htexts] at he
      cases he
    · obtain rfl := Except.ok.inj (htexts.symm.trans htexts')
      exact ⟨before, text, after, e, rfl, hbefore, he, rfl⟩

theorem sort_call (ctx : Context) :
    sort.call ctx =
      .ofReply .execute ctx
        { answer := (sortedResources ctx).map fun texts => some (.strings texts) } := rfl

/-- The answer is the only thing that sorting adds to the context. -/
theorem runHandlers_sort (hc : ctx.cancelled = false) (hres : ctx.result = none) :
    (runHandlers [sort] ctx).outcome =
        (sortedResources ctx).map (fun texts => some (.strings texts)) ∧
      (runHandlers [sort] ctx).context =
        { ctx with result := (runHandlers [sort] ctx).outcome.toOption.join } := by
  cases hsorted : sortedResources ctx with
  | ok texts =>
    have ha : (sort.call ctx).answer = .ok (some (.strings texts)) := by
      rw [sort_call, hsorted]
      rfl
    have hleft : settle sort.kind (sort.call ctx) =
        { ctx with result := some (.strings texts) } := by
      rw [sort_call, hsorted]
      simp [settle, sort, Handler.executing, Call.ofReply, Call.value, Except.map, hres]
    rw [runHandlers_of_ok hc ha, hleft]
    exact ⟨rfl, rfl⟩
  | error f =>
    have ha : (sort.call ctx).answer = .error f := by
      rw [sort_call, hsorted]
      rfl
    rw [runHandlers_of_error hc ha]
    refine ⟨rfl, ?_⟩
    rw [sort_call]
    simp [Call.ofReply, Except.toOption, ← hres]

end Builtin

/-! ## Runs of `sort` -/

section

variable {ctx : Context}

theorem execute_sort_eq (hname : ctx.commandName = "sort") (hc : ctx.cancelled = false) :
    let run := (Registry.builtin revision).execute ctx
    run.outcome = (Builtin.sortedResources ctx).map (fun texts => some (.strings texts)) ∧
      run.context = { ctx with result := run.outcome.toOption.join } := by
  have hr : (Registry.builtin revision).handlers? ctx.commandName = some [Builtin.sort] := by
    rw [hname]
    rfl
  have hphases : phases [Builtin.sort] = [Builtin.sort] := rfl
  rw [Registry.execute_eq hr, hphases]
  exact Builtin.runHandlers_sort hc rfl

/-- Resources that were arranged are given back as they are. -/
theorem outcome_sort_of_arranged {texts sorted : List String} (hname : ctx.commandName = "sort")
    (hc : ctx.cancelled = false) (hread : ∀ text ∈ texts, ∃ id, Identifier.parse text = .ok id)
    (harranged : Identifier.Arranged texts sorted)
    (hvalue : ctx.parameters.find? "resources" = some (.strings sorted)) :
    ((Registry.builtin revision).execute ctx).outcome = .ok (some (.strings sorted)) := by
  have htexts : ctx.stringsParam "resources" = .ok sorted :=
    Context.stringsParam_eq_ok_iff.2 ⟨_, hvalue, .many sorted⟩
  have hread' : ∀ text ∈ sorted, ∃ id, Identifier.parse text = .ok id := by
    intro text htext
    exact hread text (harranged.perm.subset htext)
  rw [(execute_sort_eq hname hc).1,
    Builtin.sortedResources_eq_ok_iff.2 ⟨sorted, htexts, hread', harranged.again⟩]
  rfl

end

/-- What `sort` answers. It succeeds on texts of identifiers, and gives them back as they were
written, in the one order that has the groups in natural order and keeps the order inside each of
them. It refuses items that are no texts before it reads any, and then the first text that cannot be
read. The parameters stay as they are, and without success there is no result. -/
theorem execute_sort {ctx : Context} (hname : ctx.commandName = "sort")
    (hc : ctx.cancelled = false) :
    let run := (Registry.builtin revision).execute ctx
    ((∃ result, run.outcome = .ok result) ↔
      ∃ value texts, ctx.parameters.find? "resources" = some value ∧ Context.Holds value texts ∧
        ∀ text ∈ texts, ∃ id, Identifier.parse text = .ok id) ∧
    -- texts of identifiers
    (∀ value texts, ctx.parameters.find? "resources" = some value → Context.Holds value texts →
      (∀ text ∈ texts, ∃ id, Identifier.parse text = .ok id) →
      ∃ sorted, run.outcome = .ok (some (.strings sorted)) ∧
        Identifier.Arranged texts sorted ∧
        (∀ other, Identifier.Arranged texts other → other = sorted) ∧
        ∀ next : Context, next.commandName = "sort" → next.cancelled = false →
          next.parameters.find? "resources" = some (.strings sorted) →
          ((Registry.builtin revision).execute next).outcome = run.outcome) ∧
    -- no texts
    (∀ e, Context.NoStrings "resources" (ctx.parameters.find? "resources") e →
      run.outcome = .error (.parameter e)) ∧
    -- texts, and some of them not of identifiers
    (∀ value texts, ctx.parameters.find? "resources" = some value → Context.Holds value texts →
      (∃ text ∈ texts, ∃ e, Identifier.parse text = .error e) →
      ∃ before text after e f, texts = before ++ text :: after ∧
        (∀ t ∈ before, ∃ id, Identifier.parse t = .ok id) ∧ Identifier.parse text = .error e ∧
        run.outcome = .error f ∧ f = .resource text e ∧
        f.chain = ["Invalid resource: " ++ text, e.message]) ∧
    run.context = { ctx with result := run.outcome.toOption.join } := by
  intro run
  rcases execute_sort_eq hname hc with ⟨houtcome, hcontext⟩
  have hgiven : ∀ {value texts}, ctx.parameters.find? "resources" = some value →
      Context.Holds value texts → ctx.stringsParam "resources" = .ok texts := by
    intro value texts hvalue hholds
    exact Context.stringsParam_eq_ok_iff.2 ⟨value, hvalue, hholds⟩
  refine ⟨?_, ?_, ?_, ?_, hcontext⟩
  · constructor
    · rintro ⟨result, hresult⟩
      rcases map_eq_ok_iff.1 (houtcome.symm.trans hresult) with ⟨sorted, hsorted, _⟩
      rcases Builtin.sortedResources_eq_ok_iff.1 hsorted with ⟨texts, htexts, hread, _⟩
      rcases Context.stringsParam_eq_ok_iff.1 htexts with ⟨value, hvalue, hholds⟩
      exact ⟨value, texts, hvalue, hholds, hread⟩
    · rintro ⟨value, texts, hvalue, hholds, hread⟩
      rcases Builtin.exists_sortedResources (hgiven hvalue hholds) hread with ⟨sorted, hsorted, _⟩
      exact ⟨_, houtcome.trans (map_eq_ok_iff.2 ⟨sorted, hsorted, rfl⟩)⟩
  · intro value texts hvalue hholds hread
    rcases Builtin.exists_sortedResources (hgiven hvalue hholds) hread with
      ⟨sorted, hsorted, harranged⟩
    have hresult : run.outcome = .ok (some (.strings sorted)) := by
      rw [houtcome, hsorted]
      rfl
    refine ⟨sorted, hresult, harranged, fun other hother => hother.unique harranged hread, ?_⟩
    intro next hnext hnext' hvalue'
    rw [hresult]
    exact outcome_sort_of_arranged hnext hnext' hread harranged hvalue'
  · intro e he
    have hfailed : Builtin.sortedResources ctx = .error (.parameter e) :=
      Builtin.sortedResources_eq_error_iff.2
        (Or.inl ⟨e, Context.stringsParam_eq_error_iff.2 he, rfl⟩)
    rw [houtcome, hfailed]
    rfl
  · intro value texts hvalue hholds hsome
    rcases Builtin.exists_first_malformed (hgiven hvalue hholds) hsome with
      ⟨before, text, after, e, htexts, hbefore, he, hfailed⟩
    refine ⟨before, text, after, e, _, htexts, hbefore, he, ?_, rfl, rfl⟩
    rw [houtcome, hfailed]
    rfl

/-- Asks for resources to be sorted. -/
def sorting (resources : Json) : Context where
  commandName := "sort"
  parameters := [("resources", resources)]
  activityId := .nil

/-- Five resources of three groups, two of the core group. One has a slash in front and one a colon
behind. -/
def spellings : List String :=
  ["g10/v1/a", "g2/v1/c:", "/v1/b", "g2/v1/c", "v1/d"]

/-- The slash and the colon are given back. Of two malformed texts the first is reported, and beside
an item that is no text a malformed text is not. -/
theorem execute_sort_spellings :
    (sorting (.strings spellings)).commandName = "sort" ∧
      (sorting (.strings spellings)).cancelled = false ∧
      (Registry.builtin.execute (sorting (.strings spellings))).outcome =
        .ok (some (.strings ["/v1/b", "v1/d", "g2/v1/c:", "g2/v1/c", "g10/v1/a"])) ∧
      (Registry.builtin.execute (sorting (.strings ["v1/d", "a/b/c/d", "w/x/y/z/"]))).outcome =
        .error (.resource "a/b/c/d" ⟨"a/b/c/d", 4⟩) ∧
      (Registry.builtin.execute (sorting (.array [.string "a/b/c/d", .null]))).outcome =
        .error (.parameter (.itemNotString "resources")) := by
  have hmalformed : Identifier.parse "a/b/c/d" = .error ⟨"a/b/c/d", 4⟩ := by rfl
  refine ⟨rfl, rfl, ?_, ?_, ?_⟩
  · rcases @execute_sort _ (sorting (.strings spellings)) rfl rfl with ⟨_, hsorts, _⟩
    have hread : ∀ text ∈ spellings, ∃ id, Identifier.parse text = .ok id := by
      unfold spellings
      simp only [List.forall_mem_cons, List.not_mem_nil, false_imp_iff, implies_true, and_true]
      exact ⟨⟨_, by rfl⟩, ⟨_, by rfl⟩, ⟨_, by rfl⟩, ⟨_, by rfl⟩, ⟨_, by rfl⟩⟩
    rcases hsorts _ _ rfl (.many _) hread with ⟨sorted, houtcome, _, hunique, _⟩
    rw [houtcome, hunique ["/v1/b", "v1/d", "g2/v1/c:", "g2/v1/c", "g10/v1/a"] (by decide +kernel)]
  · rcases @execute_sort _ (sorting (.strings ["v1/d", "a/b/c/d", "w/x/y/z/"])) rfl rfl with
      ⟨_, _, _, hfirst, _⟩
    rcases hfirst _ _ rfl (.many _) ⟨"a/b/c/d", by simp, _, hmalformed⟩ with
      ⟨before, text, after, e, f, htexts, hbefore, he, houtcome, rfl, _⟩
    -- the first text is an identifier, and the second is none
    rcases before with _ | ⟨first, _ | ⟨second, before⟩⟩
    · rcases List.cons.inj htexts with ⟨rfl, _⟩
      cases he
    · rcases List.cons.inj htexts with ⟨rfl, hrest⟩
      rcases List.cons.inj hrest with ⟨rfl, _⟩
      rw [houtcome, Except.error.inj (he.symm.trans hmalformed)]
    · rcases List.cons.inj htexts with ⟨rfl, hrest⟩
      rcases List.cons.inj hrest with ⟨rfl, _⟩
      rcases hbefore "a/b/c/d" (by simp) with ⟨id, hid⟩
      cases hid
  · rcases @execute_sort _ (sorting (.array [.string "a/b/c/d", .null])) rfl rfl with ⟨_, _, hno, _⟩
    exact hno _ (.item ⟨.null, by simp, nofun⟩)

end Command

end ResourceInspector
