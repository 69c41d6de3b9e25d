import ResourceInspector.Proofs.Access.Permission
import ResourceInspector.Proofs.Command.Cancellation
import ResourceInspector.Proofs.Command.Parameters
import ResourceInspector.Proofs.Command.Provenance
/-!
# Decisions and their record

`can` answers a question: an action, and the verbs that are granted. A run of it, whatever handlers
are registered besides, goes one of four ways (`CanRun`): it stops before the question is reached,
or the question cannot be read, or a decision is made, which is recorded in the log before any
handler from outside sees it, or a decision is made and not recorded. The last happens just when
the activity is cancelled from elsewhere while `can` decides. `unrecorded_decision` is such a run.
-/

namespace ResourceInspector.Command

variable {revision : Option String}

/-! ## Questions and decisions -/

/-- The verbs that a parameter grants. Where there is no parameter there are none. -/
inductive Grants : Option Json → List String → Prop where
  | absent : Grants none []
  | given {value : Json} {verbs : List String} :
      Context.Holds value verbs → Grants (some value) verbs

/-- The parameters ask about an action, with verbs granted. -/
structure Asks (parameters : Json.Members) (action : String) (verbs : List String) : Prop where
  action_eq : parameters.find? "action" = some (.string action)
  grants : Grants (parameters.find? "verbs") verbs

/-- A decision as it is answered. -/
def verdict (action : String) (verbs : List String) (allowed : Bool) : Json :=
  Json.ofMembers
    [("action", .string action), ("verbs", .strings verbs), ("allowed", .bool allowed)]

/-- The event that records a decision. -/
def capabilityCheck (activityId : Uuid) (action : String) (verbs : List String) (allowed : Bool) :
    Log.Event where
  level := .info
  target := "kscope_runtime::command::audit"
  message := "capability check"
  fields :=
    [("activity_id", .shown activityId.toText), ("action", .shown (Json.string action).compact),
     ("verbs", .shown (Json.strings verbs).compact), ("allowed", .flag allowed)]

namespace Builtin

variable {ctx : Context} {action : String} {verbs : List String}

/-- The question is read just when the parameters ask it. -/
theorem question_eq_ok_iff :
    question ctx = .ok (action, verbs) ↔ Asks ctx.parameters action verbs := by
  have hhas : ctx.hasParam verbsParam = (ctx.parameters.find? "verbs").isSome := rfl
  unfold question
  rw [hhas]
  simp only [bind_eq_ok_iff, Context.stringParam_eq_ok_iff]
  constructor
  · rintro ⟨a, haction, hrest⟩
    cases hfind : ctx.parameters.find? "verbs" with
    | none =>
      rw [hfind] at hrest
      cases hrest
      exact ⟨haction, hfind ▸ .absent⟩
    | some value =>
      rw [hfind] at hrest
      obtain ⟨vs, hvs, hpair⟩ := bind_eq_ok_iff.1 hrest
      cases hpair
      obtain ⟨value', hvalue', hholds⟩ := Context.stringsParam_eq_ok_iff.1 hvs
      obtain rfl := Option.some.inj (hfind.symm.trans hvalue')
      exact ⟨haction, hfind ▸ .given hholds⟩
  · rintro ⟨haction, hgrants⟩
    refine ⟨action, haction, ?_⟩
    cases hfind : ctx.parameters.find? "verbs" with
    | none =>
      rw [hfind] at hgrants
      cases hgrants
      rfl
    | some value =>
      rw [hfind] at hgrants
      obtain _ | hholds := hgrants
      exact bind_eq_ok_iff.2 ⟨verbs, Context.stringsParam_eq_ok_iff.2 ⟨value, hfind, hholds⟩, rfl⟩

/-- The call of `can` on a question that can be read. It cancels nothing by itself. -/
theorem can_call_of_asks (elsewhere : Bool) (hasks : Asks ctx.parameters action verbs) :
    (can.interrupted elsewhere).call ctx =
      .ofReply .execute ctx
        { answer := .ok (some (decision action verbs)), events := Access.events action,
          cancels := elsewhere } := by
  have hq := question_eq_ok_iff.2 hasks
  show Call.ofReply .execute ctx _ = _
  simp only [hq, Bool.false_or]

/-- A parameter that cannot be read makes `can` fail, and nothing is reported. -/
theorem can_call_of_not_asks (elsewhere : Bool)
    (hnot : ∀ action verbs, ¬ Asks ctx.parameters action verbs) :
    ∃ e, (can.interrupted elsewhere).call ctx =
      .ofReply .execute ctx { answer := .error (.parameter e), cancels := elsewhere } := by
  cases hq : question ctx with
  | ok pair => exact absurd (question_eq_ok_iff.1 hq) (hnot pair.1 pair.2)
  | error e =>
    refine ⟨e, ?_⟩
    show Call.ofReply .execute ctx _ = _
    simp only [hq, Bool.false_or]

/-- What the observer reports of a decision on the context. -/
theorem auditEvent_decision :
    auditEvent ctx (decision action verbs) =
      capabilityCheck ctx.activityId action verbs (Access.allows verbs action) := by
  have haction : (decision action verbs).member "action" = .string action := rfl
  have hverbs : (decision action verbs).member "verbs" = .strings verbs := rfl
  have hallowed : (decision action verbs).member "allowed" =
      .bool (Access.allows verbs action) := rfl
  unfold auditEvent capabilityCheck
  rw [haction, hverbs, hallowed]
  cases Access.allows verbs action <;> rfl

/-- The observer reports the result it finds, and never fails. -/
theorem audit_call_of_result (elsewhere : Bool) {decided : Json}
    (hres : ctx.result = some decided) :
    (audit.interrupted elsewhere).call ctx =
      .ofReply .execute ctx
        { answer := .ok none, events := [auditEvent ctx decided], cancels := elsewhere } := by
  show Call.ofReply .execute ctx _ = _
  simp only [hres, Bool.false_or]

/-- After a decision the context holds it, and is otherwise as before, unless it was cancelled from
elsewhere. -/
theorem settle_can (elsewhere : Bool) (hasks : Asks ctx.parameters action verbs)
    (hres : ctx.result = none) :
    settle (can.interrupted elsewhere).kind ((can.interrupted elsewhere).call ctx) =
      { ctx with
        result := some (decision action verbs), cancelled := ctx.cancelled || elsewhere } := by
  rw [can_call_of_asks elsewhere hasks]
  simp [settle, can, Handler.interrupted, Handler.executing, Call.ofReply, Call.value, hres]

/-- The decision is also what is answered, since the observer leaves it as it is. -/
theorem runHandlers_deciding (hc : ctx.cancelled = false) (hres : ctx.result = none)
    (hasks : Asks ctx.parameters action verbs) :
    (runHandlers [can, audit] ctx).outcome = .ok (some (decision action verbs)) := by
  have hdecides := can_call_of_asks false hasks
  have hsettles := settle_can false hasks hres
  rw [Handler.interrupted_false] at hdecides hsettles
  rw [Bool.or_false] at hsettles
  generalize hnext : { ctx with result := some (decision action verbs) } = next at hsettles
  have hfound : next.result = some (decision action verbs) := hnext ▸ rfl
  have hrecords := audit_call_of_result false hfound
  rw [Handler.interrupted_false] at hrecords
  have hkept : settle audit.kind (audit.call next) = next := by
    rw [hrecords]
    simp [settle, audit, Handler.executing, Call.ofReply]
  rw [runHandlers_of_ok hc (by rw [hdecides]; rfl), hsettles,
    runHandlers_of_ok (hnext ▸ hc) (by rw [hrecords]; rfl), hkept]
  exact congrArg Except.ok hfound

end Builtin

/-! ## Runs of `can` -/

/-- On its own the command answers the decision. -/
theorem outcome_can {ctx : Context} {action : String} {verbs : List String}
    (hname : ctx.commandName = "can") (hc : ctx.cancelled = false)
    (hasks : Asks ctx.parameters action verbs) :
    ((Registry.builtin revision).execute ctx).outcome =
      .ok (some (Builtin.decision action verbs)) := by
  have hr : (Registry.builtin revision).handlers? ctx.commandName =
      some [Builtin.can, Builtin.audit] := by
    rw [hname]
    rfl
  have hphases : phases [Builtin.can, Builtin.audit] = [Builtin.can, Builtin.audit] := rfl
  rw [Registry.execute_eq hr, hphases]
  exact Builtin.runHandlers_deciding hc rfl hasks

/-- The handlers that run before the decision, of those registered besides. -/
def early (added : List Handler) : List Handler :=
  ofKind .mutator added ++ ofKind .validator added

/-- The handlers that run after the record of the decision, of those registered besides. -/
def late (added : List Handler) : List Handler :=
  ofKind .observer added

theorem kind_ne_internal_of_mem_early {added : List Handler} {h : Handler} (hh : h ∈ early added) :
    h.kind ≠ .internal := by
  rcases List.mem_append.1 hh with hm | hv
  · rw [(mem_ofKind.1 hm).2]
    decide
  · rw [(mem_ofKind.1 hv).2]
    decide

/-- The question comes after the early handlers, and its record before the late ones. -/
theorem phases_can {added : List Handler} (hadded : ∀ h ∈ added, h.kind ≠ .internal) :
    phases ([Builtin.can, Builtin.audit] ++ added) =
      early added ++ ([Builtin.can, Builtin.audit] ++ late added) := by
  have hinternal : ofKind .internal added = [] := ofKind_eq_nil_of_forall_ne hadded
  simp only [phases, ofKind_append, hinternal]
  simp [early, late, ofKind, Builtin.can, Builtin.audit, Handler.executing]

/-- A step in which `can` reads a question and decides on it. -/
structure Decides (s : Step) (action : String) (verbs : List String) (allowed : Bool) : Prop where
  asks : Asks s.seen.parameters action verbs
  allowed_iff : allowed = true ↔ Access.Permits verbs action
  answer_eq : s.call.answer = .ok (some (verdict action verbs allowed))
  events_eq : s.call.events =
    if action ∈ Access.actions then [] else [Access.mappingFailed action]

/-- The ways in which a run of `can` goes that starts from `start`, with the handlers `added`
registered besides, while somebody else may cancel the activity. `can` comes behind the early ones
of these handlers, so it is counted by their number. -/
inductive CanRun (added : List Handler) (elsewhere : Nat → Bool) (start : Context) (run : Run) :
    Prop where
  /-- The run ends before the question is reached. Nothing is decided and nothing recorded. -/
  | undecided :
      run.steps.map Step.handler <+: interruptedAt elsewhere (early added) →
      (∀ value, run.outcome ≠ .ok value) → CanRun added elsewhere start run
  /-- The question cannot be read. The run ends with that, and nothing is recorded. -/
  | unreadable {before : List Step} {asked : Step} {e : ParameterError} :
      run.steps = before ++ [asked] →
      before.map Step.handler = interruptedAt elsewhere (early added) →
      asked.handler = Builtin.can.interrupted (elsewhere (early added).length) →
      asked.seen = contextAfter start before →
      (∀ action verbs, ¬ Asks asked.seen.parameters action verbs) →
      asked.call.answer = .error (.parameter e) → asked.call.events = [] →
      run.outcome = .error (.parameter e) → CanRun added elsewhere start run
  /-- A decision is made on the parameters that the handlers before it left, and the activity is
  cancelled from elsewhere meanwhile. The run is interrupted with the decision on the context, and
  nothing is recorded. -/
  | unrecorded {before : List Step} {asked : Step} {action : String} {verbs : List String}
      {allowed : Bool} :
      elsewhere (early added).length = true →
      run.steps = before ++ [asked] →
      before.map Step.handler = interruptedAt elsewhere (early added) →
      asked.handler = Builtin.can.interrupted true →
      asked.seen = contextAfter start before → Decides asked action verbs allowed →
      run.outcome = .error (.cancelled asked.seen.commandName) →
      run.context = { asked.seen with
        result := some (verdict action verbs allowed), cancelled := true } →
      CanRun added elsewhere start run
  /-- A decision is made on the parameters that the handlers before it left, and nobody else cancels
  the activity meanwhile. The next handler is the builtin observer, which reports that decision in a
  single event. Whatever comes after it, the decision is the result. -/
  | decided {before after : List Step} {asked recorded : Step} {action : String}
      {verbs : List String} {allowed : Bool} :
      elsewhere (early added).length = false →
      run.steps = before ++ asked :: recorded :: after →
      before.map Step.handler = interruptedAt elsewhere (early added) →
      asked.handler = Builtin.can →
      recorded.handler = Builtin.audit.interrupted (elsewhere ((early added).length + 1)) →
      after.map Step.handler <+:
        interruptedAt (fun n => elsewhere (n + (early added).length + 2)) (late added) →
      asked.seen = contextAfter start before → Decides asked action verbs allowed →
      recorded.call.events = [capabilityCheck asked.seen.activityId action verbs allowed] →
      (∀ value, run.outcome = .ok value → value = some (verdict action verbs allowed)) →
      CanRun added elsewhere start run

/-- The handlers from the question on, with the token cancelled from elsewhere while some of them
run. -/
theorem interruptedAt_can (added : List Handler) (elsewhere : Nat → Bool) :
    interruptedAt elsewhere (early added ++ ([Builtin.can, Builtin.audit] ++ late added)) =
      interruptedAt elsewhere (early added) ++
        Builtin.can.interrupted (elsewhere (early added).length) ::
          Builtin.audit.interrupted (elsewhere ((early added).length + 1)) ::
            interruptedAt (fun n => elsewhere (n + (early added).length + 2)) (late added) := by
  have hsecond : 0 + 1 + (early added).length = (early added).length + 1 := by omega
  have hlater : ∀ n, n + 1 + 1 + (early added).length = n + (early added).length + 2 := by
    intro n
    omega
  rw [interruptedAt_append, List.cons_append, List.cons_append, List.nil_append, interruptedAt_cons,
    interruptedAt_cons]
  simp only [Nat.zero_add, hsecond, hlater]

section

variable {added later : List Handler} {elsewhere : Nat → Bool} {start : Context}
  {before : List Step} {rest : Run}

/-- A question that cannot be read is not answered, whatever would come later. -/
theorem canRun_of_not_asks
    (hbefore : before.map Step.handler = interruptedAt elsewhere (early added))
    (hrest : Runs (Builtin.can.interrupted (elsewhere (early added).length) :: later)
      (contextAfter start before) rest)
    (hnot : ∀ action verbs, ¬ Asks (contextAfter start before).parameters action verbs) :
    CanRun added elsewhere start ⟨rest.outcome, rest.context, before ++ rest.steps⟩ := by
  obtain ⟨e, hcall⟩ := Builtin.can_call_of_not_asks (elsewhere (early added).length) hnot
  cases hrest with
  | cancelled => exact .undecided (by simp [hbefore]) nofun
  | @failed _ _ _ e' _ ha =>
    have he : e' = .parameter e := by
      rw [hcall] at ha
      exact (Except.error.inj ha).symm
    subst he
    exact .unreadable rfl hbefore rfl rfl hnot ha (by rw [hcall]; rfl) rfl
  | next _ ha _ =>
    rw [hcall] at ha
    cases ha

/-- A question that can be read is decided on, where the context has no result yet. Whether the
decision is recorded depends only on the token, since the observer that is next does not fail. -/
theorem canRun_of_asks {action : String} {verbs : List String}
    (hbefore : before.map Step.handler = interruptedAt elsewhere (early added))
    (hres : (contextAfter start before).result = none)
    (hrest : Runs
      (Builtin.can.interrupted (elsewhere (early added).length) ::
        Builtin.audit.interrupted (elsewhere ((early added).length + 1)) ::
          interruptedAt (fun n => elsewhere (n + (early added).length + 2)) (late added))
      (contextAfter start before) rest)
    (hasks : Asks (contextAfter start before).parameters action verbs)
    (hvalue : ∀ value, rest.outcome = .ok value →
      value = (before ++ rest.steps).findSome? Step.found?)
    (hnone : before.findSome? Step.found? = none) :
    CanRun added elsewhere start ⟨rest.outcome, rest.context, before ++ rest.steps⟩ := by
  generalize hctx : contextAfter start before = ctx at hres hrest hasks
  generalize hmeanwhile : elsewhere (early added).length = meanwhile at hrest
  have hcall := Builtin.can_call_of_asks meanwhile hasks
  cases hrest with
  | cancelled => exact .undecided (by simp [hbefore]) nofun
  | failed _ ha =>
    rw [hcall] at ha
    cases ha
  | next hc _ htail =>
    rw [Builtin.settle_can meanwhile hasks hres] at htail
    have hdecides : Decides
        ⟨Builtin.can.interrupted meanwhile, ctx, (Builtin.can.interrupted meanwhile).call ctx⟩
        action verbs (Access.allows verbs action) :=
      { asks := hasks
        allowed_iff := Access.allows_iff
        answer_eq := by rw [hcall]; rfl
        events_eq := by rw [hcall]; exact Access.events_eq action }
    cases meanwhile with
    | true =>
      rw [Bool.or_true] at htail
      obtain rfl := htail.eq_of_cancelled (List.cons_ne_nil _ _) rfl
      exact .unrecorded hmeanwhile rfl hbefore rfl hctx.symm hdecides rfl rfl
    | false =>
      rw [Bool.or_false] at htail
      have hfound : Step.found?
          ⟨Builtin.can.interrupted false, ctx, (Builtin.can.interrupted false).call ctx⟩ =
            some (Builtin.decision action verbs) :=
        Step.found?_eq_some_iff.2 ⟨rfl, by rw [hcall]; rfl, by rw [hcall]; rfl⟩
      cases htail with
      | cancelled htrue => exact absurd (hc.symm.trans htrue) nofun
      | failed _ ha =>
        rw [Builtin.audit_call_of_result _ rfl] at ha
        cases ha
      | next _ _ hlast =>
        refine .decided hmeanwhile rfl hbefore (Handler.interrupted_false _) rfl
          hlast.prefix_handlers hctx.symm hdecides ?_ ?_
        · rw [Builtin.audit_call_of_result _ rfl]
          exact congrArg (fun e => [e]) Builtin.auditEvent_decision
        · intro value hv
          rw [hvalue value hv, List.findSome?_append, hnone, Option.none_or, List.findSome?_cons,
            hfound]
          rfl

end

/-- Whether the token is cancelled from elsewhere has nothing to do with the result. -/
theorem Handler.KeepsResult.interrupted {h : Handler} (hkeep : h.KeepsResult) (elsewhere : Bool) :
    (h.interrupted elsewhere).KeepsResult := by
  intro change hchange
  obtain ⟨own, hown, rfl⟩ := Option.map_eq_some_iff.1 hchange
  exact hkeep own hown

theorem keepsResult_interruptedAt {elsewhere : Nat → Bool} {handlers : List Handler}
    (hkeep : ∀ h ∈ handlers, h.KeepsResult) :
    ∀ h ∈ interruptedAt elsewhere handlers, h.KeepsResult := by
  intro h hh
  obtain ⟨h', hh', b, rfl⟩ := mem_interruptedAt hh
  exact (hkeep h' hh').interrupted b

/-- Every decision that `can` makes is recorded once by the program's own observer, as it was made,
and is what the command answers, whatever handlers are registered besides that leave the result
alone, unless the activity is cancelled from elsewhere while it is made. In that case, and in no
other, a decision is made that the observer does not record, and the command does not answer it. -/
theorem execute_can (calls : List (String × Handler)) (elsewhere : Nat → Bool) {ctx : Context}
    (hname : ctx.commandName = "can")
    (hkeep : ∀ h ∈ Registry.accepted calls "can", h.KeepsResult) :
    CanRun (Registry.accepted calls "can") elsewhere { ctx with result := none }
      ((Registry.build revision calls).executeAmid elsewhere ctx) := by
  have hinternal : ∀ h ∈ Registry.accepted calls "can", h.kind ≠ .internal :=
    fun h hh => (Registry.mem_accepted.1 hh).2
  have hr : (Registry.build revision calls).handlers? ctx.commandName =
      some ([Builtin.can, Builtin.audit] ++ Registry.accepted calls "can") := by
    rw [hname]
    exact Registry.handlers?_build_of_builtin calls rfl nofun
  have hrun := Registry.runs_executeAmid elsewhere hr
  generalize (Registry.build revision calls).executeAmid elsewhere ctx = run at hrun ⊢
  have hkeep' : ∀ h ∈ phases ([Builtin.can, Builtin.audit] ++ Registry.accepted calls "can"),
      h.KeepsResult := by
    intro h hh
    rcases List.mem_append.1 (mem_phases.1 hh) with hown | hadded
    · exact @Registry.keepsResult_of_mem_builtin revision "can" h hown
    · exact hkeep h hadded
  have hvalue : ∀ value, run.outcome = .ok value → value = run.steps.findSome? Step.found? := by
    intro value hv
    rw [hrun.value_eq hv, hrun.result_eq rfl (keepsResult_interruptedAt hkeep')]
  have hfollows := hrun.follows
  have hassigns := hrun.not_assigns (keepsResult_interruptedAt hkeep')
  rw [phases_can hinternal, interruptedAt_can] at hrun
  rcases hrun.append_cases with ⟨hstarted, hout⟩ | ⟨before, rest, hbefore, hrest, heq⟩
  · exact .undecided hstarted hout
  · rw [heq] at hvalue hfollows hassigns ⊢
    -- no handler before the question finds a result
    have hnone : before.findSome? Step.found? = none := by
      rw [List.findSome?_eq_none_iff]
      intro s hs
      apply Step.found?_of_kind_ne
      have hearly : s.handler ∈ interruptedAt elsewhere (early (Registry.accepted calls "can")) :=
        hbefore ▸ List.mem_map_of_mem hs
      obtain ⟨h, hh, b, hinterrupted⟩ := mem_interruptedAt hearly
      have hkind : h.kind ≠ .internal := kind_ne_internal_of_mem_early hh
      rwa [hinterrupted]
    have hres : (contextAfter { ctx with result := none } before).result = none := by
      have hbefore' : ∀ s ∈ before, ¬ s.Assigns :=
        fun s hs => hassigns s (List.mem_append_left _ hs)
      rw [hfollows.append_left.result_contextAfter hbefore', hnone]
      rfl
    by_cases hasks : ∃ action verbs,
        Asks (contextAfter { ctx with result := none } before).parameters action verbs
    · obtain ⟨action, verbs, hasks⟩ := hasks
      exact canRun_of_asks hbefore hres hrest hasks hvalue hnone
    · exact canRun_of_not_asks hbefore hrest fun action verbs h => hasks ⟨action, verbs, h⟩

/-- Refuses whatever was decided. -/
def refusing : Handler :=
  .scripted "refusing" .observer [.execute] [.fail "refused"]

/-- Asks for a view with a verb that is given as a single string. -/
def viewing : Context where
  commandName := "can"
  parameters := [("action", .string "view"), ("verbs", .string "get")]
  activityId := .nil

/-- Renames the command before the decision and refuses it afterwards. -/
def contrary : List (String × Handler) :=
  [("can", refusing), ("can", relabelling)]

/-- The record stays also where the command is renamed before it and refused after it, and where the
activity is cancelled from elsewhere as soon as the decision is made. -/
theorem execute_can_viewing :
    viewing.commandName = "can" ∧
      (∀ h ∈ Registry.accepted contrary "can", h.KeepsResult) ∧
      CanRun [refusing, relabelling] (fun n => n = 2) viewing
        ((Registry.build Builtin.revision contrary).executeAmid (fun n => n = 2) viewing) := by
  have hkeep : ∀ h ∈ Registry.accepted contrary "can", h.KeepsResult := by
    have haccepted : Registry.accepted contrary "can" = [refusing, relabelling] := rfl
    rw [haccepted]
    simp only [List.forall_mem_cons, List.not_mem_nil, false_imp_iff, implies_true, and_true]
    exact ⟨.of_mutate_eq_none rfl, keepsResult_job relabelling (by simp)⟩
  exact ⟨rfl, hkeep, @execute_can _ _ _ viewing rfl hkeep⟩

/-- The events that record a decision. -/
def capabilityChecks (run : Run) : List Log.Event :=
  run.events.filter (·.message = "capability check")

/-- The builtin commands, with the activity cancelled from elsewhere while `can` decides. -/
def interruptedViewing : Run :=
  (Registry.build Builtin.revision []).executeAmid (fun n => n = 0) viewing

/-- Not every decision is recorded, and not every one only once. Where the activity is cancelled
from elsewhere while `can` decides, there is no record, although the decision is on the context.
Where the observer is registered another time, there are two. -/
theorem unrecorded_decision :
    (∃ asked, interruptedViewing.steps = [asked] ∧ asked.handler.kind = .internal ∧
      asked.call.answer = .ok (some (verdict "view" ["get"] true))) ∧
    interruptedViewing.context.result = some (verdict "view" ["get"] true) ∧
    interruptedViewing.outcome = .error (.cancelled "can") ∧
    capabilityChecks interruptedViewing = [] ∧
    (capabilityChecks
      ((Registry.build Builtin.revision [("can", Builtin.audit)]).execute viewing)).length = 2 := by
  have hinterrupted : interruptedViewing =
      runHandlers [Builtin.can.interrupted true, Builtin.audit.interrupted false] viewing := by
    have hr : (Registry.build Builtin.revision []).handlers? viewing.commandName =
        some [Builtin.can, Builtin.audit] := rfl
    rw [interruptedViewing, Registry.executeAmid_eq _ hr]
    rfl
  have hr : (Registry.build Builtin.revision [("can", Builtin.audit)]).handlers?
      viewing.commandName = some [Builtin.can, Builtin.audit, Builtin.audit] := rfl
  rw [hinterrupted, Registry.execute_eq hr]
  exact ⟨⟨_, rfl, rfl, rfl⟩, rfl, rfl, rfl, rfl⟩

end ResourceInspector.Command
