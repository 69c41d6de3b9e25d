import ResourceInspector.Proofs.Command.Parameters
import ResourceInspector.Proofs.Command.Pipeline
import ResourceInspector.Proofs.Json.Members
/-!
# Reading an identifier

The resource that `gvr` is asked about is a whole path, or a name under a `groupVersion` of its own.
Three handlers share the work: one joins the two parameters, one checks that the path can be read,
and one reads it again and describes it. What they find in the parameters is said once for all three
(`Gives`, `Declines`), and a run of them goes one of three ways (`GvrRun`). That the last handler
reads what the second has read is the reason why it never fails.
-/

namespace ResourceInspector.Command

variable {revision : Option String}

/-! ## What the parameters give -/

/-- The parameters give a path to read, and are replaced by others. A path that was joined becomes
the resource, and the group and version that it was joined from are taken out. -/
inductive Gives (parameters : Json.Members) : String → Json.Members → Prop where
  | whole {r : String} :
      parameters.find? "groupVersion" = none → parameters.find? "resource" = some (.string r) →
      Gives parameters r parameters
  | joined {gv r : String} :
      parameters.find? "groupVersion" = some (.string gv) →
      parameters.find? "resource" = some (.string r) →
      Gives parameters (Path.join [gv, r])
        (Json.Members.insert "resource" (.string (Path.join [gv, r]))
          (parameters.erase "groupVersion"))

/-- The parameters give no path, for the reason that is reported. The group and version are asked
for first where there is a parameter for them. -/
inductive Declines (parameters : Json.Members) : ParameterError → Prop where
  | groupVersion {value : Json} {e : ParameterError} :
      parameters.find? "groupVersion" = some value →
      Context.NoString "groupVersion" (some value) e → Declines parameters e
  | resource {e : ParameterError} :
      (∀ value, parameters.find? "groupVersion" = some value → ∃ gv, value = .string gv) →
      Context.NoString "resource" (parameters.find? "resource") e → Declines parameters e

section

variable {parameters after after' : Json.Members} {path path' name : String} {e : ParameterError}

/-- The path is where the resource was. -/
theorem Gives.find?_resource (h : Gives parameters path after) :
    after.find? "resource" = some (.string path) := by
  cases h with
  | whole _ hr => exact hr
  | joined => exact Json.Members.find?_insert_self ..

/-- There was a resource to begin with. -/
theorem Gives.exists_resource (h : Gives parameters path after) :
    ∃ r, parameters.find? "resource" = some (.string r) := by
  cases h with
  | whole _ hr => exact ⟨_, hr⟩
  | joined _ hr => exact ⟨_, hr⟩

/-- What is left has no group and version on its own any more. -/
theorem Gives.find?_groupVersion (h : Gives parameters path after) :
    after.find? "groupVersion" = none := by
  cases h with
  | whole hgv => exact hgv
  | joined =>
    rw [Json.Members.find?_insert_of_ne (by decide)]
    exact Json.Members.find?_erase_self ..

/-- All other parameters stay. -/
theorem Gives.find?_other (h : Gives parameters path after) (hgv : name ≠ "groupVersion")
    (hr : name ≠ "resource") : after.find? name = parameters.find? name := by
  cases h with
  | whole => rfl
  | joined => rw [Json.Members.find?_insert_of_ne hr, Json.Members.find?_erase_of_ne hgv]

/-- Parameters give one path at most, and are replaced in one way. -/
theorem Gives.unique (h : Gives parameters path after) (h' : Gives parameters path' after') :
    path = path' ∧ after = after' := by
  cases h with
  | whole hgv hr =>
    cases h' with
    | whole _ hr' =>
      rw [hr] at hr'
      cases hr'
      exact ⟨rfl, rfl⟩
    | joined hgv' _ =>
      rw [hgv] at hgv'
      cases hgv'
  | joined hgv hr =>
    cases h' with
    | whole hgv' _ =>
      rw [hgv] at hgv'
      cases hgv'
    | joined hgv' hr' =>
      rw [hgv] at hgv'
      rw [hr] at hr'
      cases hgv'
      cases hr'
      exact ⟨rfl, rfl⟩

/-- The parameters give a path, or they say why not. -/
theorem gives_or_declines (parameters : Json.Members) :
    (∃ path after, Gives parameters path after) ∨ ∃ e, Declines parameters e := by
  rcases Context.string_or_noString "resource" (parameters.find? "resource") with ⟨r, hr⟩ | ⟨e, he⟩
  · cases hgv : parameters.find? "groupVersion" with
    | none => exact Or.inl ⟨r, parameters, .whole hgv hr⟩
    | some value =>
      rcases Context.string_or_noString "groupVersion" (some value) with ⟨gv, hvalue⟩ | ⟨e, he⟩
      · exact Or.inl ⟨_, _, .joined (hgv.trans hvalue) hr⟩
      · exact Or.inr ⟨e, .groupVersion hgv he⟩
  · by_cases hgv : ∀ value, parameters.find? "groupVersion" = some value → ∃ gv, value = .string gv
    · exact Or.inr ⟨e, .resource hgv he⟩
    · push Not at hgv
      rcases hgv with ⟨value, hvalue, hne⟩
      exact Or.inr ⟨_, .groupVersion hvalue (.other hne)⟩

/-- Parameters that give a path do not decline. -/
theorem Declines.not_gives (hd : Declines parameters e) : ¬ Gives parameters path after := by
  intro hg
  cases hd with
  | groupVersion hfind hno =>
    cases hg with
    | whole hgv =>
      rw [hfind] at hgv
      cases hgv
    | joined hgv =>
      rw [← hfind, hgv] at hno
      exact Context.not_noString_string hno
  | resource _ hno =>
    rcases hg.exists_resource with ⟨r, hr⟩
    rw [hr] at hno
    exact Context.not_noString_string hno

end

namespace Builtin

/-! ## Descriptions -/

/-- The members of a value are the parts of an identifier and the ways in which they are written. -/
structure Describes (value : Json) (id : Identifier) : Prop where
  raw : value.member "raw" = .string id.raw
  group : value.member "group" = .string id.group
  version : value.member "version" = .string id.version
  resource : value.member "resource" = .string id.resource
  subResource : value.member "subResource" = .string id.subResource
  resourceName : value.member "resourceName" =
    .string (id.resource ++ "." ++ id.version ++ "." ++ id.group)
  groupVersion : value.member "groupVersion" =
    .string (if id.group = "" then id.version else id.group ++ "/" ++ id.version)

theorem describes_description (id : Identifier) : Describes (description id) id :=
  ⟨rfl, rfl, rfl, rfl, rfl, rfl, rfl⟩

/-- What is described can be told from its description. -/
theorem Describes.unique {value : Json} {a b : Identifier} (ha : Describes value a)
    (hb : Describes value b) : a = b := by
  have hraw := ha.raw.symm.trans hb.raw
  have hgroup := ha.group.symm.trans hb.group
  have hversion := ha.version.symm.trans hb.version
  have hresource := ha.resource.symm.trans hb.resource
  have hsub := ha.subResource.symm.trans hb.subResource
  cases a
  cases b
  simp_all

/-- Different identifiers have different descriptions, since each of their parts is shown. -/
theorem description_inj {a b : Identifier} (h : description a = description b) : a = b :=
  (describes_description a).unique (h ▸ describes_description b)

/-! ## The handlers -/

section

variable {ctx : Context} {path : String} {after : Json.Members} {e : ParameterError} {f : Failure}
variable {id : Identifier}

theorem hasParam_groupVersion (ctx : Context) :
    ctx.hasParam groupVersionParam = (ctx.parameters.find? "groupVersion").isSome := rfl

/-- The parameters that give a path are left with the path as their resource. -/
theorem joinGroupVersion_call_of_gives (h : Gives ctx.parameters path after) :
    joinGroupVersion.call ctx =
      .ofMutation ctx { answer := .ok none, context := { ctx with parameters := after } } := by
  show Call.ofMutation ctx _ = _
  cases h with
  | whole hgv _ =>
    simp only [hasParam_groupVersion, hgv]
    rfl
  | @joined gv r hgv hr =>
    have hjoined : joinedResource ctx = .ok (Path.join [gv, r]) :=
      bind_eq_ok_iff.2 ⟨gv, Context.stringParam_eq_ok_iff.2 hgv,
        bind_eq_ok_iff.2 ⟨r, Context.stringParam_eq_ok_iff.2 hr, rfl⟩⟩
    simp only [hasParam_groupVersion, hgv, hjoined]
    rfl

/-- Without a path the parameters are left as they are. The handler fails unless there is nothing to
join. -/
theorem joinGroupVersion_call_of_declines (h : Declines ctx.parameters e) :
    joinGroupVersion.call ctx =
      .ofMutation ctx
        { answer := if ctx.parameters.find? "groupVersion" = none then .ok none
            else .error (.parameter e)
          context := ctx } := by
  show Call.ofMutation ctx _ = _
  cases h with
  | groupVersion hgv hno =>
    have hjoined : joinedResource ctx = .error e :=
      bind_eq_error_iff.2 (Or.inl (Context.stringParam_eq_error_iff.2 (hgv ▸ hno)))
    simp only [hasParam_groupVersion, hgv, hjoined]
    rfl
  | resource hgv hno =>
    cases hfind : ctx.parameters.find? "groupVersion" with
    | none =>
      simp only [hasParam_groupVersion, hfind]
      rfl
    | some value =>
      rcases hgv value hfind with ⟨gv, rfl⟩
      have hjoined : joinedResource ctx = .error e :=
        bind_eq_error_iff.2 (Or.inr ⟨gv, Context.stringParam_eq_ok_iff.2 hfind,
          bind_eq_error_iff.2 (Or.inl (Context.stringParam_eq_error_iff.2 hno))⟩)
      simp only [hasParam_groupVersion, hfind, hjoined]
      rfl

theorem resourceOf_of_string (h : ctx.parameters.find? "resource" = some (.string path)) :
    resourceOf ctx = parseResource path := by
  have hr : ctx.stringParam resourceParam = .ok path := Context.stringParam_eq_ok_iff.2 h
  rw [resourceOf, hr]
  rfl

theorem resourceOf_of_noString
    (h : Context.NoString "resource" (ctx.parameters.find? "resource") e) :
    resourceOf ctx = .error (.parameter e) := by
  have hr : ctx.stringParam resourceParam = .error e := Context.stringParam_eq_error_iff.2 h
  rw [resourceOf, hr]
  rfl

theorem checkResource_call (ctx : Context) :
    checkResource.call ctx =
      .ofReply .validate ctx { answer := (resourceOf ctx).map fun _ => none } := rfl

theorem describe_call (ctx : Context) :
    describe.call ctx =
      .ofReply .execute ctx { answer := (resourceOf ctx).map fun id => some (description id) } :=
  rfl

theorem describe_answer (hid : resourceOf ctx = .ok id) :
    (describe.call ctx).answer = .ok (some (description id)) := by
  rw [describe_call, hid]
  rfl

/-- A resource that can be read once is read twice, and its description is recorded. -/
theorem runHandlers_reading_of_ok (hc : ctx.cancelled = false) (hres : ctx.result = none)
    (hid : resourceOf ctx = .ok id) :
    runHandlers [checkResource, describe] ctx =
      ⟨.ok (some (description id)), { ctx with result := some (description id) },
        [⟨checkResource, ctx, checkResource.call ctx⟩, ⟨describe, ctx, describe.call ctx⟩]⟩ := by
  have hcheck : (checkResource.call ctx).answer = .ok none := by
    rw [checkResource_call, hid]
    rfl
  have hchecked : settle checkResource.kind (checkResource.call ctx) = ctx := by
    rw [checkResource_call]
    simp [settle, checkResource, Handler.validating, Call.ofReply]
  have hdescribed : settle describe.kind (describe.call ctx) =
      { ctx with result := some (description id) } := by
    rw [describe_call, hid]
    simp [settle, describe, Handler.executing, Call.ofReply, Call.value, Except.map, hres]
  rw [runHandlers_of_ok hc hcheck, hchecked, runHandlers_of_ok hc (describe_answer hid),
    hdescribed]
  rfl

/-- A resource that cannot be read is not read again. -/
theorem runHandlers_reading_of_error (hc : ctx.cancelled = false) (hf : resourceOf ctx = .error f) :
    runHandlers [checkResource, describe] ctx =
      ⟨.error f, ctx, [⟨checkResource, ctx, checkResource.call ctx⟩]⟩ := by
  have hcheck : (checkResource.call ctx).answer = .error f := by
    rw [checkResource_call, hf]
    rfl
  rw [runHandlers_of_error hc hcheck]
  simp [checkResource_call, Call.ofReply]

end

end Builtin

/-! ## Runs of `gvr` -/

/-- The ways in which a run of `gvr` goes that starts from `start`. -/
inductive GvrRun (start : Context) : Run → Prop where
  /-- There is no path. Nothing is read and nothing changed. -/
  | declined {e : ParameterError} {steps : List Step} :
      Declines start.parameters e → (∀ s ∈ steps, s.handler.kind ≠ .internal) →
      GvrRun start ⟨.error (.parameter e), start, steps⟩
  /-- The path is no identifier. It stays in the place of what it was joined from. -/
  | malformed {path : String} {after : Json.Members} {e : Identifier.Malformed}
      {steps : List Step} :
      Gives start.parameters path after → Identifier.parse path = .error e →
      (∀ s ∈ steps, s.handler.kind ≠ .internal) →
      GvrRun start ⟨.error (.resource path e), { start with parameters := after }, steps⟩
  /-- The path is an identifier, and its description is the result. -/
  | described {path : String} {after : Json.Members} {id : Identifier} {steps : List Step} :
      Gives start.parameters path after → Identifier.parse path = .ok id →
      (∀ s ∈ steps, s.handler.kind = .internal → s.handler = Builtin.describe ∧ s.Succeeded) →
      GvrRun start
        ⟨.ok (some (Builtin.description id)),
          { start with parameters := after, result := some (Builtin.description id) }, steps⟩

section

variable {start : Context} {path : String} {after : Json.Members} {e : ParameterError}

/-- Where the parameters give a path, the path alone decides how the run ends. -/
theorem gvrRun_of_gives (hc : start.cancelled = false) (hres : start.result = none)
    (h : Gives start.parameters path after) :
    GvrRun start
      (runHandlers [Builtin.joinGroupVersion, Builtin.checkResource, Builtin.describe] start) := by
  have hcall := Builtin.joinGroupVersion_call_of_gives h
  generalize hnext : { start with parameters := after } = next at hcall
  have hleft : settle Builtin.joinGroupVersion.kind (Builtin.joinGroupVersion.call start) =
      next := by
    rw [hcall, ← hnext]
    simp [settle, Builtin.joinGroupVersion, Handler.mutating, Call.ofMutation, Context.succeed]
  have hresource : Builtin.resourceOf next = Builtin.parseResource path := by
    subst hnext
    exact Builtin.resourceOf_of_string h.find?_resource
  have hc' : next.cancelled = false := hnext ▸ hc
  have hres' : next.result = none := hnext ▸ hres
  rw [runHandlers_of_ok hc (by rw [hcall]; rfl), hleft]
  cases hparse : Identifier.parse path with
  | ok id =>
    rw [Builtin.parseResource, hparse] at hresource
    rw [Builtin.runHandlers_reading_of_ok hc' hres' hresource, ← hnext]
    refine .described h hparse ?_
    simp only [List.forall_mem_cons, List.not_mem_nil, false_imp_iff, implies_true, and_true,
      true_and]
    refine ⟨nofun, nofun, ?_⟩
    rw [hnext]
    exact fun _ => ⟨_, Builtin.describe_answer hresource⟩
  | error e =>
    rw [Builtin.parseResource, hparse] at hresource
    rw [Builtin.runHandlers_reading_of_error hc' hresource, ← hnext]
    refine .malformed h hparse ?_
    simp only [List.forall_mem_cons, List.not_mem_nil, false_imp_iff, implies_true, and_true]
    exact ⟨nofun, nofun⟩

/-- Where they give none, the run fails with the reason before anything is described. -/
theorem gvrRun_of_declines (hc : start.cancelled = false) (h : Declines start.parameters e) :
    GvrRun start
      (runHandlers [Builtin.joinGroupVersion, Builtin.checkResource, Builtin.describe] start) := by
  have hcall := Builtin.joinGroupVersion_call_of_declines h
  have hsame : (Builtin.joinGroupVersion.call start).context = start := by
    rw [hcall]
    simp [Call.ofMutation, Context.succeed]
  cases hfind : start.parameters.find? "groupVersion" with
  | some value =>
    have ha : (Builtin.joinGroupVersion.call start).answer = .error (.parameter e) := by
      rw [hcall, hfind]
      rfl
    rw [runHandlers_of_error hc ha, hsame]
    refine .declined h ?_
    simp only [List.forall_mem_cons, List.not_mem_nil, false_imp_iff, implies_true, and_true]
    exact nofun
  | none =>
    -- there is nothing to join, and the next handler asks for the resource
    have ha : (Builtin.joinGroupVersion.call start).answer = .ok none := by
      rw [hcall, hfind]
      rfl
    have hleft : settle Builtin.joinGroupVersion.kind (Builtin.joinGroupVersion.call start) =
        start := hsame
    have hno : Context.NoString "resource" (start.parameters.find? "resource") e := by
      cases h with
      | groupVersion hgv =>
        rw [hfind] at hgv
        cases hgv
      | resource _ hno => exact hno
    rw [runHandlers_of_ok hc ha, hleft,
      Builtin.runHandlers_reading_of_error hc (Builtin.resourceOf_of_noString hno)]
    refine .declined h ?_
    simp only [List.forall_mem_cons, List.not_mem_nil, false_imp_iff, implies_true, and_true]
    exact ⟨nofun, nofun⟩

end

/-- The three handlers run in the order in which they are registered. -/
theorem phases_gvr :
    phases [Builtin.joinGroupVersion, Builtin.checkResource, Builtin.describe] =
      [Builtin.joinGroupVersion, Builtin.checkResource, Builtin.describe] := rfl

/-- Every run of `gvr` on a context that is not cancelled goes one of the ways of `GvrRun`. -/
theorem gvrRun_execute {ctx : Context} (hname : ctx.commandName = "gvr")
    (hc : ctx.cancelled = false) :
    GvrRun { ctx with result := none } ((Registry.builtin revision).execute ctx) := by
  have hr : (Registry.builtin revision).handlers? ctx.commandName =
      some [Builtin.joinGroupVersion, Builtin.checkResource, Builtin.describe] := by
    rw [hname]
    rfl
  rw [Registry.execute_eq hr, phases_gvr]
  rcases gives_or_declines ctx.parameters with ⟨path, after, hgives⟩ | ⟨e, hdeclines⟩
  · exact gvrRun_of_gives hc rfl hgives
  · exact gvrRun_of_declines hc hdeclines

/-! ## Agreement with the reading of identifiers -/

/-- An answer to a path says what reading it gives: the description of the identifier, or under the
path the reason why it is none. -/
structure Answers (read : Except Identifier.Malformed Identifier) (path : String)
    (answer : Answer) : Prop where
  described : ∀ id, answer = .ok (some (Builtin.description id)) ↔ read = .ok id
  malformed : ∀ e, answer = .error (.resource path e) ↔ read = .error e
  worded : ∀ f, answer = .error f →
    ∃ e, read = .error e ∧ f.chain = ["Invalid resource: " ++ path, e.message]

section

variable {read : Except Identifier.Malformed Identifier}

theorem answers_ok {id : Identifier} (h : read = .ok id) (path : String) :
    Answers read path (.ok (some (Builtin.description id))) := by
  subst h
  refine ⟨?_, ?_, nofun⟩
  · intro id'
    constructor
    · intro hanswer
      rw [Builtin.description_inj (Option.some.inj (Except.ok.inj hanswer))]
    · intro hid
      rw [Except.ok.inj hid]
  · intro e
    exact ⟨nofun, nofun⟩

theorem answers_error {e : Identifier.Malformed} (h : read = .error e) (path : String) :
    Answers read path (.error (.resource path e)) := by
  subst h
  refine ⟨?_, ?_, ?_⟩
  · intro id
    exact ⟨nofun, nofun⟩
  · intro e'
    simp
  · intro f hf
    rw [← Except.error.inj hf]
    exact ⟨e, rfl, rfl⟩

end

namespace GvrRun

variable {start : Context} {run : Run} {path : String} {after : Json.Members}

/-- Where there is a path, the answer is to that path. -/
theorem of_gives (hrun : GvrRun start run) (h : Gives start.parameters path after) :
    Answers (Identifier.parse path) path run.outcome ∧ run.context.parameters = after := by
  cases hrun with
  | declined hdeclines => exact absurd h hdeclines.not_gives
  | malformed hgives hparse =>
    rcases hgives.unique h with ⟨rfl, rfl⟩
    exact ⟨answers_error hparse _, rfl⟩
  | described hgives hparse =>
    rcases hgives.unique h with ⟨rfl, rfl⟩
    exact ⟨answers_ok hparse _, rfl⟩

/-- Parameters that give no path decline, and stay as they are. -/
theorem of_not_gives (hrun : GvrRun start run)
    (h : ∀ path after, ¬ Gives start.parameters path after) :
    (∃ e, Declines start.parameters e ∧ run.outcome = .error (.parameter e)) ∧
      run.context.parameters = start.parameters := by
  cases hrun with
  | declined hdeclines => exact ⟨⟨_, hdeclines, rfl⟩, rfl⟩
  | malformed hgives => exact absurd hgives (h _ _)
  | described hgives => exact absurd hgives (h _ _)

/-- Nothing but the parameters changes and the answer is recorded. -/
theorem context_eq {ctx : Context} (hrun : GvrRun { ctx with result := none } run) :
    run.context =
      { ctx with parameters := run.context.parameters, result := run.outcome.toOption.join } := by
  cases hrun with
  | declined => rfl
  | malformed => rfl
  | described => rfl

/-- The handler that describes is reached only with a resource that can be read. -/
theorem succeeded_of_internal (hrun : GvrRun start run) :
    ∀ s ∈ run.steps, s.handler.kind = .internal → s.handler = Builtin.describe ∧ s.Succeeded := by
  cases hrun with
  | declined _ hnone => exact fun s hs hk => absurd hk (hnone s hs)
  | malformed _ _ hnone => exact fun s hs hk => absurd hk (hnone s hs)
  | described _ _ hok => exact hok

end GvrRun

/-- What `gvr` answers is what reading the identifier gives, whether it comes as one path or in two
parameters. Joining the two is all that ever happens to the parameters, also where the joined path
is then refused, and the handler that describes never fails. -/
theorem execute_gvr {ctx : Context} (hname : ctx.commandName = "gvr") (hc : ctx.cancelled = false) :
    let run := (Registry.builtin revision).execute ctx
    -- a resource under a group and version
    (∀ gv r, ctx.parameters.find? "groupVersion" = some (.string gv) →
      ctx.parameters.find? "resource" = some (.string r) →
      Answers (Identifier.parseUnder gv r) (Path.join [gv, r]) run.outcome ∧
      run.context.parameters.find? "groupVersion" = none ∧
      run.context.parameters.find? "resource" = some (.string (Path.join [gv, r])) ∧
      ∀ name, name ≠ "groupVersion" → name ≠ "resource" →
        run.context.parameters.find? name = ctx.parameters.find? name) ∧
    -- a resource on its own
    (∀ r, ctx.parameters.find? "groupVersion" = none →
      ctx.parameters.find? "resource" = some (.string r) →
      Answers (Identifier.parse r) r run.outcome ∧ run.context.parameters = ctx.parameters) ∧
    -- anything else
    ((∃ value, ctx.parameters.find? "groupVersion" = some value ∧ ∀ gv, value ≠ .string gv) ∨
        (∀ r, ctx.parameters.find? "resource" ≠ some (.string r)) →
      (∃ e, Declines ctx.parameters e ∧ run.outcome = .error (.parameter e)) ∧
      run.context.parameters = ctx.parameters) ∧
    -- the rest of the context, and the handler that describes
    run.context =
      { ctx with parameters := run.context.parameters, result := run.outcome.toOption.join } ∧
    (∀ s ∈ run.steps, s.handler.kind = .internal → s.handler = Builtin.describe ∧ s.Succeeded) ∧
    ∀ id, Builtin.Describes (Builtin.description id) id := by
  intro run
  have hrun : GvrRun { ctx with result := none } run := gvrRun_execute hname hc
  refine ⟨?_, ?_, ?_, hrun.context_eq, hrun.succeeded_of_internal,
    Builtin.describes_description⟩
  · intro gv r hgv hr
    have hgives := Gives.joined hgv hr
    rcases hrun.of_gives hgives with ⟨hanswers, hafter⟩
    rw [hafter]
    refine ⟨hanswers, hgives.find?_groupVersion, hgives.find?_resource, ?_⟩
    intro name hne hne'
    exact hgives.find?_other hne hne'
  · intro r hgv hr
    exact hrun.of_gives (.whole hgv hr)
  · intro hnone
    apply hrun.of_not_gives
    intro path after hgives
    rcases hnone with ⟨value, hvalue, hne⟩ | hne
    · exact (Declines.groupVersion hvalue (.other hne)).not_gives hgives
    · rcases hgives.exists_resource with ⟨r, hr⟩
      exact hne r hr

/-- Asks for a resource under a group and version, and has a parameter that nobody asks for. -/
def asking (gv r : String) : Context where
  commandName := "gvr"
  parameters := [("groupVersion", .string gv), ("note", .null), ("resource", .string r)]
  activityId := .nil

/-- Two names under a group and version make a path of four, which is refused after it was
joined. -/
theorem execute_gvr_asking :
    (asking "apps//v1" "deployments:scale").commandName = "gvr" ∧
      (Registry.builtin.execute (asking "apps//v1" "deployments:scale")).outcome =
        .ok (some (Builtin.description
          ⟨"apps/v1/deployments:scale", "apps", "v1", "deployments", "scale"⟩)) ∧
      (Registry.builtin.execute (asking "apps/v1" "pods/log")).outcome =
        .error (.resource "apps/v1/pods/log" ⟨"apps/v1/pods/log", 4⟩) ∧
      (Registry.builtin.execute (asking "apps/v1" "pods/log")).context.parameters.find? "resource" =
        some (.string "apps/v1/pods/log") := by
  rcases @execute_gvr _ (asking "apps//v1" "deployments:scale") rfl rfl with ⟨hscale, _⟩
  rcases hscale _ _ rfl rfl with ⟨hanswers, _⟩
  rcases @execute_gvr _ (asking "apps/v1" "pods/log") rfl rfl with ⟨hlog, _⟩
  rcases hlog _ _ rfl rfl with ⟨hanswers', _, hresource, _⟩
  have hjoin : Path.join ["apps/v1", "pods/log"] = "apps/v1/pods/log" := by rfl
  rw [hjoin] at hanswers' hresource
  exact ⟨rfl, (hanswers.described _).2 (by rfl), (hanswers'.malformed _).2 (by rfl), hresource⟩

end ResourceInspector.Command
