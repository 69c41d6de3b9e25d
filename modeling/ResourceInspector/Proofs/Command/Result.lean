import ResourceInspector.Proofs.Command.Pipeline
/-!
# Where the result comes from

What a step does to the result on the context is one of two things. Either the handler changed it
itself, which only a mutation can (`Step.Assigns`), or what was there stays and only an empty place
is filled, with what an internal handler returned (`Step.found?`). A run without assignments
therefore has the first value found, and every handler sees the first value found before it
(`first_result_wins`).
-/

namespace ResourceInspector.Command

/-- A handler that, called to mutate a context, leaves the result on it alone. -/
def Handler.KeepsResult (h : Handler) : Prop :=
  ∀ change, h.mutate = some change → ∀ ctx, (change ctx).context.result = ctx.result

/-- A handler that cannot mutate leaves the result alone. -/
theorem Handler.KeepsResult.of_mutate_eq_none {h : Handler} (hm : h.mutate = none) :
    h.KeepsResult := by
  intro change hchange
  rw [hm] at hchange
  cases hchange

namespace Step

/-- The value a step has for the command: what an internal handler returned from its execution.
Whatever other kinds of handlers return, and whatever is returned from a check or a mutation, is no
such value. -/
def found? (s : Step) : Option Json :=
  match s.handler.kind, s.call.via, s.call.answer with
  | .internal, some .execute, .ok value => value
  | _, _, _ => none

/-- The handler itself changed the result on the context. -/
def Assigns (s : Step) : Prop :=
  s.call.context.result ≠ s.seen.result

variable {s : Step}

theorem found?_eq_ite (s : Step) :
    s.found? = if s.handler.kind = .internal then s.call.value else none := by
  unfold found? Call.value
  cases s.handler.kind <;> simp
  split <;> simp_all

/-- A value is found just when an internal handler was executed and returned it. -/
theorem found?_eq_some_iff {v : Json} :
    s.found? = some v ↔
      s.handler.kind = .internal ∧ s.call.via = some .execute ∧ s.call.answer = .ok (some v) := by
  constructor
  · intro h
    unfold found? at h
    split at h
    · next hk hv ha => exact ⟨hk, hv, by rw [ha, h]⟩
    · cases h
  · rintro ⟨hk, hv, ha⟩
    simp [found?, hk, hv, ha]

theorem found?_of_kind_ne (hk : s.handler.kind ≠ .internal) : s.found? = none := by
  rw [found?_eq_ite, if_neg hk]

/-- Only a mutation changes the result. -/
theorem via_of_assigns (hcall : s.handler.Calls s.seen s.call) (ha : s.Assigns) :
    s.call.via = some .mutate := by
  rcases hcall.frame with hsame | ⟨change, _, hmutation⟩
  · exact absurd (by rw [hsame]) ha
  · rw [hmutation]
    rfl

theorem not_assigns_of_keepsResult (hcall : s.handler.Calls s.seen s.call)
    (hkeep : s.handler.KeepsResult) : ¬ s.Assigns := by
  rw [Assigns, not_not]
  rcases hcall.frame with hsame | ⟨change, hm, hmutation⟩
  · rw [hsame]
  · rw [hmutation]
    exact hkeep change hm s.seen

/-- A mutation has no value for the command, so a result that a handler assigned stays as it is. -/
theorem left_result_of_assigns (hcall : s.handler.Calls s.seen s.call) (ha : s.Assigns) :
    s.left.result = s.call.context.result := by
  have hvia : s.call.via = some .mutate := via_of_assigns hcall ha
  have hvalue : s.call.value = none := by simp [Call.value, hvia]
  unfold left settle
  split
  · next h => rw [hvalue, Option.isNone_iff_eq_none.1 h.2]
  · rfl

/-- Where the handler did not assign a result, a value found fills an empty place and nothing
else. -/
theorem left_result_of_not_assigns (ha : ¬ s.Assigns) :
    s.left.result = s.seen.result.or s.found? := by
  have hsame : s.call.context.result = s.seen.result := not_not.1 ha
  unfold left settle
  rw [found?_eq_ite, ← hsame]
  cases hr : s.call.context.result <;>
    by_cases hk : s.handler.kind = .internal <;> simp [hk, hr]

end Step

/-! ## Runs -/

/-- The result that steps without assignments leave: the one there was at the start, or else the
first value found. -/
theorem Follows.result_contextAfter {ctx : Context} {steps : List Step} (hf : Follows ctx steps)
    (hkeep : ∀ s ∈ steps, ¬ s.Assigns) :
    (contextAfter ctx steps).result = ctx.result.or (steps.findSome? Step.found?) := by
  induction hf with
  | nil => simp
  | @cons ctx h steps _ _ ih =>
    obtain ⟨hfirst, hrest⟩ := List.forall_mem_cons.1 hkeep
    have hleft := Step.left_result_of_not_assigns hfirst
    rw [contextAfter_cons]
    calc
      (contextAfter (settle h.kind (h.call ctx)) steps).result
          = (settle h.kind (h.call ctx)).result.or (steps.findSome? Step.found?) := ih hrest
      _ = (ctx.result.or (Step.found? ⟨h, ctx, h.call ctx⟩)).or (steps.findSome? Step.found?) :=
        congrArg (fun result => result.or (steps.findSome? Step.found?)) hleft
      _ = ctx.result.or ((⟨h, ctx, h.call ctx⟩ :: steps).findSome? Step.found?) := by
        rw [Option.or_assoc, List.findSome?_cons]
        cases Step.found? ⟨h, ctx, h.call ctx⟩ <;> rfl

namespace Runs

variable {handlers : List Handler} {ctx : Context} {run : Run}

theorem handler_mem (hrun : Runs handlers ctx run) {s : Step} (hs : s ∈ run.steps) :
    s.handler ∈ handlers :=
  hrun.prefix_handlers.subset (List.mem_map_of_mem hs)

/-- In a run of handlers that leave the result alone no step changes it. -/
theorem not_assigns (hrun : Runs handlers ctx run) (hkeep : ∀ h ∈ handlers, h.KeepsResult) :
    ∀ s ∈ run.steps, ¬ s.Assigns := by
  intro s hs
  have hmem : s.handler ∈ handlers := hrun.handler_mem hs
  exact Step.not_assigns_of_keepsResult (hrun.follows.calls hs) (hkeep s.handler hmem)

/-- What a successful run answers is the result on the context it leaves. -/
theorem value_eq (hrun : Runs handlers ctx run) {value : Option Json}
    (hv : run.outcome = .ok value) : value = run.context.result := by
  cases hrun.ending with
  | completed _ _ hout => exact Except.ok.inj (hv.symm.trans hout)
  | failed _ _ _ hout => exact absurd (hv.symm.trans hout) nofun
  | cancelled _ _ _ hout => exact absurd (hv.symm.trans hout) nofun

/-- The handlers of one kind are started in the order in which they are given. -/
theorem prefix_ofKind (hrun : Runs handlers ctx run) (kind : Kind) :
    (run.steps.filter (·.handler.kind = kind)).map Step.handler <+: ofKind kind handlers := by
  have h := hrun.prefix_handlers.filter (·.kind = kind)
  rwa [List.filter_map] at h

/-- Without assignments, the result a run leaves is the first value found in it. -/
theorem result_eq (hrun : Runs handlers ctx run) (hstart : ctx.result = none)
    (hkeep : ∀ h ∈ handlers, h.KeepsResult) :
    run.context.result = run.steps.findSome? Step.found? := by
  rw [hrun.context_eq, hrun.follows.result_contextAfter (hrun.not_assigns hkeep), hstart,
    Option.none_or]

/-- Without assignments, a handler sees the first value found before it. -/
theorem seen_result_eq (hrun : Runs handlers ctx run) (hstart : ctx.result = none)
    (hkeep : ∀ h ∈ handlers, h.KeepsResult) {before after : List Step} {s : Step}
    (hsplit : run.steps = before ++ s :: after) :
    s.seen.result = before.findSome? Step.found? := by
  have hf : Follows ctx (before ++ s :: after) := hsplit ▸ hrun.follows
  have hbefore : ∀ t ∈ before, ¬ t.Assigns := by
    intro t ht
    exact hrun.not_assigns hkeep t (hsplit ▸ List.mem_append_left _ ht)
  rw [hf.seen_eq, hf.append_left.result_contextAfter hbefore, hstart, Option.none_or]

end Runs

/-- The first value that an internal handler found is the result of the command, and it is what all
handlers after it see. A result left on the context from before has no part in it, and a command
without handlers leaves it where it is. -/
theorem first_result_wins (r : Registry) (ctx : Context) :
    (∀ handlers, r.handlers? ctx.commandName = some handlers →
      (∀ h ∈ handlers, h.KeepsResult) →
      let run := r.execute ctx
      -- the result, whether the run succeeds or fails
      run.context.result = run.steps.findSome? Step.found? ∧
      (∀ value, run.outcome = .ok value → value = run.context.result) ∧
      -- what a handler sees: nothing up to the first value, and that value from then on
      (∀ before s after, run.steps = before ++ s :: after →
        s.seen.result = before.findSome? Step.found?) ∧
      -- internal handlers run in the order in which they were registered
      (run.steps.filter (·.handler.kind = .internal)).map Step.handler
        <+: handlers.filter (·.kind = .internal) ∧
      -- the run is the same whatever result there was before
      ∀ stale, r.execute { ctx with result := stale } = run) ∧
    (r.handlers? ctx.commandName = none →
      r.execute ctx = ⟨.error (.notFound ctx.commandName), ctx, []⟩) := by
  constructor
  · intro handlers hr hkeep run
    have hrun : Runs (phases handlers) { ctx with result := none } run := Registry.runs_execute hr
    have hkeep' : ∀ h ∈ phases handlers, h.KeepsResult := fun h hh => hkeep h (mem_phases.1 hh)
    refine ⟨hrun.result_eq rfl hkeep', fun value => hrun.value_eq, ?_, ?_, ?_⟩
    · intro before s after hsplit
      exact hrun.seen_result_eq rfl hkeep' hsplit
    · rw [← ofKind, ← ofKind_phases]
      exact hrun.prefix_ofKind .internal
    · intro stale
      simp only [run, Registry.execute, hr, dispatch]
  · intro hr
    simp only [Registry.execute, hr]

theorem keepsResult_job : ∀ h ∈ [watching, finding, relabelling], h.KeepsResult := by
  simp only [List.forall_mem_cons, List.not_mem_nil, false_imp_iff, implies_true, and_true]
  refine ⟨.of_mutate_eq_none rfl, .of_mutate_eq_none rfl, ?_⟩
  intro change hchange ctx
  obtain rfl := Option.some.inj hchange
  rfl

/-- The result left over is gone from the job, and the null that was found is the result. -/
theorem first_result_wins_job :
    job.handlers? jobContext.commandName = some [watching, finding, relabelling] ∧
      (∀ h ∈ [watching, finding, relabelling], h.KeepsResult) ∧
      (job.execute jobContext).context.result =
        (job.execute jobContext).steps.findSome? Step.found? ∧
      ∀ stale, job.execute { jobContext with result := stale } = job.execute jobContext := by
  have hr : job.handlers? jobContext.commandName = some [watching, finding, relabelling] := rfl
  obtain ⟨hresult, _, _, _, hstale⟩ := (first_result_wins job jobContext).1 _ hr keepsResult_job
  exact ⟨hr, keepsResult_job, hresult, hstale⟩

end ResourceInspector.Command
