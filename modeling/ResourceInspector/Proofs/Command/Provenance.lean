import Mathlib.Tactic.Common
import ResourceInspector.Proofs.Command.Registration
import ResourceInspector.Proofs.Command.Result
/-!
# Who a result comes from

Handlers that find results are not taken from outside, yet the result travels on the context, and
whoever mutates the context can write it. So the result of a command has one of two origins: it was
recorded, which only a builtin handler brings about, or it was assigned by a handler from outside,
in place of what is recorded. `result_origin` tells the two apart, and `overruled_decision` is a run
in which the decision of `can` is replaced.
-/

namespace ResourceInspector.Command

variable {revision : Option String}

/-! ## Origins -/

/-- A step with the property, after which no handler changes the result any more. -/
def LastChange (P : Step → Prop) (steps : List Step) : Prop :=
  ∃ before s after, steps = before ++ s :: after ∧ P s ∧ ∀ t ∈ after, ¬ t.Assigns

/-- The value was found by an internal handler when there was no result yet, and has stayed. -/
def Recorded (steps : List Step) (v : Json) : Prop :=
  LastChange (fun s => s.found? = some v ∧ s.seen.result = none) steps

/-- The value was put on the context by a handler that mutates it, and has stayed. -/
def Assigned (steps : List Step) (v : Json) : Prop :=
  LastChange (fun s => s.Assigns ∧ s.call.context.result = some v) steps

variable {ctx : Context} {s : Step} {steps : List Step} {v : Json}

/-- The last change is the first step, if no later one changes anything, or it is among the later
ones. -/
theorem lastChange_cons {P : Step → Prop} :
    LastChange P (s :: steps) ↔ (P s ∧ ∀ t ∈ steps, ¬ t.Assigns) ∨ LastChange P steps := by
  constructor
  · rintro ⟨before, t, after, hsplit, hrest⟩
    cases before with
    | nil =>
      obtain ⟨rfl, rfl⟩ := List.cons.inj hsplit
      exact Or.inl hrest
    | cons _ before =>
      exact Or.inr ⟨before, t, after, (List.cons.inj hsplit).2, hrest⟩
  · rintro (hfirst | ⟨before, t, after, rfl, hrest⟩)
    · exact ⟨[], s, steps, rfl, hfirst⟩
    · exact ⟨s :: before, t, after, rfl, hrest⟩

theorem LastChange.exists_mem {P : Step → Prop} (h : LastChange P steps) : ∃ s ∈ steps, P s := by
  obtain ⟨before, s, after, rfl, hs, _⟩ := h
  exact ⟨s, by simp, hs⟩

/-- A result that is there at the end was there from the start, or was recorded, or assigned. -/
theorem Follows.origin (hf : Follows ctx steps) (hv : (contextAfter ctx steps).result = some v) :
    (ctx.result = some v ∧ ∀ t ∈ steps, ¬ t.Assigns) ∨ Recorded steps v ∨ Assigned steps v := by
  induction hf with
  | nil => exact Or.inl ⟨hv, by simp⟩
  | @cons ctx h steps hc hf ih =>
    have hcalls : h.Calls ctx (h.call ctx) := h.calls_call ctx
    rcases ih hv with ⟨hleft, hquiet⟩ | hrec | hass
    · -- nothing later changed the result, so it is what this step left
      by_cases ha : Step.Assigns ⟨h, ctx, h.call ctx⟩
      · have hres := Step.left_result_of_assigns hcalls ha
        exact Or.inr (Or.inr (lastChange_cons.2 (Or.inl ⟨⟨ha, hres.symm.trans hleft⟩, hquiet⟩)))
      · have hor : ctx.result.or (Step.found? ⟨h, ctx, h.call ctx⟩) = some v :=
          (Step.left_result_of_not_assigns ha).symm.trans hleft
        cases hr : ctx.result with
        | none =>
          rw [hr, Option.none_or] at hor
          exact Or.inr (Or.inl (lastChange_cons.2 (Or.inl ⟨⟨hor, hr⟩, hquiet⟩)))
        | some w =>
          rw [hr, Option.some_or] at hor
          exact Or.inl ⟨hor, List.forall_mem_cons.2 ⟨ha, hquiet⟩⟩
    · exact Or.inr (Or.inl (lastChange_cons.2 (Or.inr hrec)))
    · exact Or.inr (Or.inr (lastChange_cons.2 (Or.inr hass)))

/-- What was assigned and has stayed leaves no room for a recorded value. -/
theorem Follows.not_recorded_of_assigned (hf : Follows ctx steps) (hass : Assigned steps v) :
    ¬ Recorded steps v := by
  intro hrec
  induction hf with
  | nil => obtain ⟨s, hs, _⟩ := hass.exists_mem; simp at hs
  | @cons ctx h steps hc hf ih =>
    have hcalls : h.Calls ctx (h.call ctx) := h.calls_call ctx
    rcases lastChange_cons.1 hrec with ⟨⟨hfound, hnone⟩, hquiet⟩ | hrec
    · rcases lastChange_cons.1 hass with ⟨⟨ha, _⟩, _⟩ | hass
      · -- one call cannot both execute and mutate
        have hexec := (Step.found?_eq_some_iff.1 hfound).2.1
        have hmut := Step.via_of_assigns hcalls ha
        exact absurd (hexec.symm.trans hmut) (by decide)
      · obtain ⟨t, ht, ha, _⟩ := hass.exists_mem
        exact hquiet t ht ha
    · rcases lastChange_cons.1 hass with ⟨⟨ha, hres⟩, hquiet⟩ | hass
      · -- the value assigned first is still there when the other is recorded
        obtain ⟨before, t, after, rfl, ⟨_, hnone⟩, _⟩ := hrec
        have hleft : (settle h.kind (h.call ctx)).result = some v :=
          (Step.left_result_of_assigns hcalls ha).trans hres
        have hseen := hf.append_left.result_contextAfter fun t ht => hquiet t (by simp [ht])
        rw [← hf.seen_eq, hnone, hleft] at hseen
        cases hseen
      · exact ih hass hrec

/-- The result of a run was recorded unless the last change to it was an assignment. -/
theorem Runs.recorded_iff {handlers : List Handler} {run : Run} (hrun : Runs handlers ctx run)
    (hstart : ctx.result = none) (hv : run.outcome = .ok (some v)) :
    Recorded run.steps v ↔ ¬ Assigned run.steps v := by
  constructor
  · intro hrec hass
    exact hrun.follows.not_recorded_of_assigned hass hrec
  · intro hnot
    have hres : (contextAfter ctx run.steps).result = some v := by
      rw [← hrun.context_eq, hrun.value_eq hv]
    rcases hrun.follows.origin hres with ⟨hold, _⟩ | hrec | hass
    · rw [hstart] at hold
      cases hold
    · exact hrec
    · exact absurd hass hnot

/-! ## Builtin handlers -/

/-- The one builtin mutator touches two parameters and nothing else. -/
theorem Builtin.keepsResult_joinGroupVersion : joinGroupVersion.KeepsResult := by
  intro change hchange ctx
  obtain rfl := Option.some.inj hchange
  dsimp only
  split
  · split <;> rfl
  · rfl

/-- No handler that comes with the program changes the result itself. -/
theorem Registry.keepsResult_of_mem_builtin {name : String} {h : Handler}
    (hh : h ∈ ((builtin revision).handlers? name).getD []) : h.KeepsResult := by
  refine forall_mem_handlers? (P := fun _ h => h.KeepsResult) ?_ hh
  rw [builtin_entries]
  simp only [List.forall_mem_cons, List.not_mem_nil, false_imp_iff, implies_true, and_true]
  exact ⟨.of_mutate_eq_none rfl,
    ⟨.of_mutate_eq_none rfl, .of_mutate_eq_none rfl⟩,
    ⟨Builtin.keepsResult_joinGroupVersion, .of_mutate_eq_none rfl,
      .of_mutate_eq_none rfl⟩,
    .of_mutate_eq_none rfl, .of_mutate_eq_none rfl⟩

theorem Builtin.eq_can_of_kind {h : Handler} (hh : h ∈ [can, audit]) (hk : h.kind = .internal) :
    h = can := by
  have hpair : h = can ∨ h = audit := by simpa using hh
  rcases hpair with rfl | rfl
  · rfl
  · cases hk

/-! ## Results of commands -/

section

variable {calls : List (String × Handler)} {handlers : List Handler}

/-- A handler started for a command came with the program or was accepted for that command. -/
theorem Registry.mem_of_mem_steps
    (hr : (Registry.build revision calls).handlers? ctx.commandName = some handlers)
    (hs : s ∈ ((Registry.build revision calls).execute ctx).steps) :
    s.handler ∈ ((builtin revision).handlers? ctx.commandName).getD [] ∨
      s.handler ∈ accepted calls ctx.commandName := by
  have hmem : s.handler ∈ handlers := mem_phases.1 ((runs_execute hr).handler_mem hs)
  rwa [eq_of_handlers?_build hr, List.mem_append] at hmem

/-- Only an accepted handler assigns a result: the builtin ones leave it alone. -/
theorem Registry.mem_accepted_of_assigns
    (hr : (Registry.build revision calls).handlers? ctx.commandName = some handlers)
    (hs : s ∈ ((Registry.build revision calls).execute ctx).steps) (ha : s.Assigns) :
    s.handler ∈ accepted calls ctx.commandName := by
  rcases mem_of_mem_steps hr hs with hown | hadded
  · have hcalls := (runs_execute hr).follows.calls hs
    exact absurd ha (Step.not_assigns_of_keepsResult hcalls (keepsResult_of_mem_builtin hown))
  · exact hadded

/-- An internal handler that is started came with the program: none is accepted. -/
theorem Registry.mem_builtin_of_internal
    (hr : (Registry.build revision calls).handlers? ctx.commandName = some handlers)
    (hs : s ∈ ((Registry.build revision calls).execute ctx).steps)
    (hkind : s.handler.kind = .internal) :
    s.handler ∈ ((builtin revision).handlers? ctx.commandName).getD [] := by
  rcases mem_of_mem_steps hr hs with hown | hadded
  · exact hown
  · exact absurd hkind (mem_accepted.1 hadded).2

end

/-- A result of a command, with any handlers registered from outside. It was recorded unless the
last change to it was an assignment. What was recorded is the answer of a builtin internal handler
to this very run, which for `can` is its decision. What was assigned comes from an accepted handler
that was called to mutate the context. -/
theorem result_origin {calls : List (String × Handler)} {ctx : Context} {v : Json}
    (hv : ((Registry.build revision calls).execute ctx).outcome = .ok (some v)) :
    let steps := ((Registry.build revision calls).execute ctx).steps
    let own := ((Registry.builtin revision).handlers? ctx.commandName).getD []
    let added := Registry.accepted calls ctx.commandName
    (Recorded steps v ↔ ¬ Assigned steps v) ∧
    (Recorded steps v → ∃ s ∈ steps, s.handler ∈ own ∧ s.handler.kind = .internal ∧
      s.call.via = some .execute ∧ s.call.answer = .ok (some v) ∧
      (ctx.commandName = "can" → s.handler = Builtin.can)) ∧
    (Assigned steps v → ∃ s ∈ steps, s.handler ∈ added ∧
      s.call.via = some .mutate ∧ s.call.context.result = some v ∧ s.seen.result ≠ some v) ∧
    ((∀ h ∈ added, h.KeepsResult) → Recorded steps v) := by
  intro steps own added
  cases hr : (Registry.build revision calls).handlers? ctx.commandName with
  | none => simp [Registry.execute, hr] at hv
  | some handlers =>
    have hrun := Registry.runs_execute hr
    have hiff : Recorded steps v ↔ ¬ Assigned steps v := hrun.recorded_iff rfl hv
    refine ⟨hiff, ?_, ?_, ?_⟩
    · intro hrec
      obtain ⟨s, hs, hfound, _⟩ := hrec.exists_mem
      obtain ⟨hkind, hvia, hanswer⟩ := Step.found?_eq_some_iff.1 hfound
      have hown : s.handler ∈ own := Registry.mem_builtin_of_internal hr hs hkind
      refine ⟨s, hs, hown, hkind, hvia, hanswer, ?_⟩
      intro hcan
      simp only [own, hcan] at hown
      exact Builtin.eq_can_of_kind hown hkind
    · intro hass
      obtain ⟨s, hs, ha, hres⟩ := hass.exists_mem
      have hadded : s.handler ∈ added := Registry.mem_accepted_of_assigns hr hs ha
      refine ⟨s, hs, hadded, Step.via_of_assigns (hrun.follows.calls hs) ha, hres, ?_⟩
      intro hseen
      exact ha (hres.trans hseen.symm)
    · intro hkeep
      apply hiff.2
      intro hass
      obtain ⟨s, hs, ha, _⟩ := hass.exists_mem
      have hadded : s.handler ∈ added := Registry.mem_accepted_of_assigns hr hs ha
      exact Step.not_assigns_of_keepsResult (hrun.follows.calls hs) (hkeep _ hadded) ha

/-! ## A decision that is overruled -/

/-- A decision that `can` never makes: without verbs nothing is granted. -/
def forgedDecision : Json :=
  Json.ofMembers [("action", .string "delete"), ("verbs", .strings []), ("allowed", .bool true)]

/-- An observer that is called to mutate the context and puts the forged decision on it. -/
def overruling : Handler :=
  .scripted "overruling" .observer [.mutate] [.setResult forgedDecision]

/-- Asks whether something may be deleted, without any verbs. -/
def deletion : Context where
  commandName := "can"
  parameters := [("action", .string "delete")]
  activityId := .nil

/-- The question, put where the observer is registered. -/
def overruledRun : Run :=
  (Registry.build Builtin.revision [("can", overruling)]).execute deletion

theorem execute_deletion :
    overruledRun = runHandlers [Builtin.can, Builtin.audit, overruling] deletion := by
  have hr : (Registry.build Builtin.revision [("can", overruling)]).handlers?
      deletion.commandName = some [Builtin.can, Builtin.audit, overruling] := rfl
  exact Registry.execute_eq hr

theorem outcome_deletion : overruledRun.outcome = .ok (some forgedDecision) := by
  rw [execute_deletion]
  rfl

/-- What was found in the run is only the decision that `can` made. -/
theorem found?_ne_forgedDecision : ∀ s ∈ overruledRun.steps, s.found? ≠ some forgedDecision := by
  have hfound : overruledRun.steps.map Step.found? =
      [some (Builtin.decision "delete" []), none, none] := by
    rw [execute_deletion]
    rfl
  intro s hs heq
  have hmem : some forgedDecision ∈ overruledRun.steps.map Step.found? :=
    heq ▸ List.mem_map_of_mem hs
  rw [hfound] at hmem
  revert hmem
  decide

/-- The observer is accepted, and what the command answers is its decision and not that of `can`. -/
theorem overruled_decision :
    let run := (Registry.build Builtin.revision [("can", overruling)]).execute deletion
    overruling.kind ≠ .internal ∧ run.outcome = .ok (some forgedDecision) ∧
      ∀ s ∈ run.steps, s.found? ≠ some forgedDecision :=
  ⟨by decide, outcome_deletion, found?_ne_forgedDecision⟩

/-- The forged decision is one that was assigned, by the handler from outside. -/
theorem origin_deletion :
    let run := (Registry.build Builtin.revision [("can", overruling)]).execute deletion
    run.outcome = .ok (some forgedDecision) ∧ Assigned run.steps forgedDecision ∧
      (Recorded run.steps forgedDecision ↔ ¬ Assigned run.steps forgedDecision) ∧
      ∃ s ∈ run.steps, s.handler ∈ [overruling] := by
  intro run
  obtain ⟨hiff, _, hassigned, _⟩ := result_origin outcome_deletion
  have hnot : ¬ Recorded run.steps forgedDecision := by
    intro hrec
    obtain ⟨s, hs, hfound, _⟩ := hrec.exists_mem
    exact found?_ne_forgedDecision s hs hfound
  have hass : Assigned run.steps forgedDecision := not_not.1 (mt hiff.2 hnot)
  obtain ⟨s, hs, hadded, _⟩ := hassigned hass
  exact ⟨outcome_deletion, hass, hiff, s, hs, hadded⟩

end ResourceInspector.Command
