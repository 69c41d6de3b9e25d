import Mathlib.Data.List.Basic
import ResourceInspector.Command.Registry
import ResourceInspector.Command.Script
import ResourceInspector.Proofs.Command.Phases
/-!
# What a run does

A run is described twice beside the function that carries it out.

* `Runs` says how a run comes about, handler by handler. Every fact about whole runs is an induction
  on it.
* `Follows`, `contextAfter` and `Ending` look at a run from outside: which contexts its steps saw,
  what context it left, and why it stopped where it did.

`execute_pipeline` puts these together for a command of a registry: which handlers are started, in
which order and through which interface, where the run stops, and what the log says about it.
-/

namespace ResourceInspector.Command

/-! ## Calls -/

/-- The call that is due when a handler is started: through the first interface it offers of
validating, mutating and executing, and through no other. -/
inductive Handler.Calls (h : Handler) (ctx : Context) : Call → Prop where
  | validate {check : Context → Reply} :
      h.validate = some check → Calls h ctx (.ofReply .validate ctx (check ctx))
  | mutate {change : Context → Mutation} :
      h.validate = none → h.mutate = some change → Calls h ctx (.ofMutation ctx (change ctx))
  | execute {body : Context → Reply} :
      h.validate = none → h.mutate = none → h.execute = some body →
      Calls h ctx (.ofReply .execute ctx (body ctx))
  | nothing :
      h.validate = none → h.mutate = none → h.execute = none →
      Calls h ctx ⟨none, .error (.notCallable h.kind), [], ctx, false, false⟩

theorem Handler.calls_call (h : Handler) (ctx : Context) : h.Calls ctx (h.call ctx) := by
  unfold Handler.call
  split
  · next hv => exact .validate hv
  · next hv hm => exact .mutate hv hm
  · next hv hm he => exact .execute hv hm he
  · next hv hm he => exact .nothing hv hm he

/-- A call leaves the context as it is, the cancellation apart, unless it mutates it. -/
theorem Handler.Calls.frame {h : Handler} {ctx : Context} {call : Call} (hc : h.Calls ctx call) :
    call.context = { ctx with cancelled := call.context.cancelled } ∨
      ∃ change, h.mutate = some change ∧ call = .ofMutation ctx (change ctx) := by
  cases hc with
  | validate => exact Or.inl rfl
  | mutate _ hm => exact Or.inr ⟨_, hm, rfl⟩
  | execute => exact Or.inl rfl
  | nothing => exact Or.inl rfl

/-! ## Steps -/

namespace Step

/-- The context a step leaves to the next one. -/
def left (s : Step) : Context :=
  settle s.handler.kind s.call

def Succeeded (s : Step) : Prop :=
  ∃ value, s.call.answer = .ok value

theorem not_succeeded_of_error {s : Step} {e : Failure} (he : s.call.answer = .error e) :
    ¬ s.Succeeded := by
  rintro ⟨value, hv⟩
  rw [he] at hv
  cases hv

end Step

/-- A call that failed has nothing to record. -/
theorem settle_of_error (kind : Kind) {call : Call} {e : Failure} (he : call.answer = .error e) :
    settle kind call = call.context := by
  unfold settle
  split
  · next h =>
    have hv : call.value = none := by simp [Call.value, he]
    have hr : call.context.result = none := Option.isNone_iff_eq_none.1 h.2
    rw [hv, ← hr]
  · rfl

/-- Recording a result changes nothing else. -/
theorem settle_eq (kind : Kind) (call : Call) :
    settle kind call = { call.context with result := (settle kind call).result } := by
  unfold settle
  split <;> rfl

/-- The context that steps leave which start from `ctx`: that of the last one. -/
def contextAfter (ctx : Context) (steps : List Step) : Context :=
  steps.foldl (fun _ s => s.left) ctx

@[simp] theorem contextAfter_nil (ctx : Context) : contextAfter ctx [] = ctx := rfl

@[simp] theorem contextAfter_cons (ctx : Context) (s : Step) (steps : List Step) :
    contextAfter ctx (s :: steps) = contextAfter s.left steps := rfl

/-- Later steps start from what the earlier ones have left. -/
theorem contextAfter_append (ctx : Context) (before after : List Step) :
    contextAfter ctx (before ++ after) = contextAfter (contextAfter ctx before) after :=
  List.foldl_append ..

/-- Steps that follow on each other from a context: each handler finds the context that the one
before it left, finds it uncancelled, and is called on it once. -/
inductive Follows : Context → List Step → Prop where
  | nil (ctx : Context) : Follows ctx []
  | cons {ctx : Context} {h : Handler} {steps : List Step} :
      ctx.cancelled = false → Follows (settle h.kind (h.call ctx)) steps →
      Follows ctx (⟨h, ctx, h.call ctx⟩ :: steps)

namespace Follows

variable {ctx : Context} {steps before after : List Step} {s : Step}

/-- Behind any step the rest follows from the context that is left there. -/
theorem append_right (hf : Follows ctx (before ++ after)) :
    Follows (contextAfter ctx before) after := by
  induction before generalizing ctx with
  | nil => exact hf
  | cons s before ih =>
    cases hf with
    | cons _ hf => exact ih hf

theorem append_left (hf : Follows ctx (before ++ after)) : Follows ctx before := by
  induction before generalizing ctx with
  | nil => exact .nil ctx
  | cons s before ih =>
    cases hf with
    | cons hc hf => exact .cons hc (ih hf)

/-- A step in the middle of a run saw what the steps before it left. -/
theorem seen_eq (hf : Follows ctx (before ++ s :: after)) : s.seen = contextAfter ctx before := by
  cases hf.append_right
  rfl

theorem call_eq (hf : Follows ctx steps) (hs : s ∈ steps) : s.call = s.handler.call s.seen := by
  obtain ⟨before, after, rfl⟩ := List.append_of_mem hs
  cases hf.append_right
  rfl

theorem calls (hf : Follows ctx steps) (hs : s ∈ steps) : s.handler.Calls s.seen s.call := by
  rw [hf.call_eq hs]
  exact Handler.calls_call ..

end Follows

/-! ## Runs -/

/-- How a run of handlers comes about. -/
inductive Runs : List Handler → Context → Run → Prop where
  /-- No handler is left. -/
  | done (ctx : Context) : Runs [] ctx ⟨.ok ctx.result, ctx, []⟩
  /-- The activity is found cancelled, and the next handler is not started. -/
  | cancelled {h : Handler} {rest : List Handler} {ctx : Context} :
      ctx.cancelled = true →
      Runs (h :: rest) ctx ⟨.error (.cancelled ctx.commandName), ctx, []⟩
  /-- The next handler is started and fails. -/
  | failed {h : Handler} {rest : List Handler} {ctx : Context} {e : Failure} :
      ctx.cancelled = false → (h.call ctx).answer = .error e →
      Runs (h :: rest) ctx ⟨.error e, (h.call ctx).context, [⟨h, ctx, h.call ctx⟩]⟩
  /-- The next handler is started and succeeds. -/
  | next {h : Handler} {rest : List Handler} {ctx : Context} {value : Option Json} {run : Run} :
      ctx.cancelled = false → (h.call ctx).answer = .ok value →
      Runs rest (settle h.kind (h.call ctx)) run →
      Runs (h :: rest) ctx ⟨run.outcome, run.context, ⟨h, ctx, h.call ctx⟩ :: run.steps⟩

section

variable {h : Handler} {rest : List Handler} {ctx : Context}

/-- A handler that fails is the last, and the context stays as it left it. -/
theorem runHandlers_of_error {e : Failure} (hc : ctx.cancelled = false)
    (ha : (h.call ctx).answer = .error e) :
    runHandlers (h :: rest) ctx =
      ⟨.error e, (h.call ctx).context, [⟨h, ctx, h.call ctx⟩]⟩ := by
  simp [runHandlers, hc, ha]

/-- Behind a handler that succeeds the run goes on from the context with its result. -/
theorem runHandlers_of_ok {value : Option Json} (hc : ctx.cancelled = false)
    (ha : (h.call ctx).answer = .ok value) :
    runHandlers (h :: rest) ctx =
      let run := runHandlers rest (settle h.kind (h.call ctx))
      ⟨run.outcome, run.context, ⟨h, ctx, h.call ctx⟩ :: run.steps⟩ := by
  simp [runHandlers, hc, ha]

end

/-- Running handlers is a run of them. From here on runs are looked at only through `Runs`. -/
theorem runs_runHandlers (handlers : List Handler) (ctx : Context) :
    Runs handlers ctx (runHandlers handlers ctx) := by
  induction handlers generalizing ctx with
  | nil => exact .done ctx
  | cons h rest ih =>
    cases hc : ctx.cancelled with
    | true => simpa [runHandlers, hc] using (Runs.cancelled hc : Runs (h :: rest) ctx _)
    | false =>
      cases ha : (h.call ctx).answer with
      | error e =>
        rw [runHandlers_of_error hc ha]
        exact .failed hc ha
      | ok value =>
        rw [runHandlers_of_ok hc ha]
        exact .next hc ha (ih _)

/-- A command of a registry runs the handlers registered under the name that the context has at the
start. What they do to the name later makes no difference to that. -/
theorem Registry.execute_eq {r : Registry} {ctx : Context} {handlers : List Handler}
    (hr : r.handlers? ctx.commandName = some handlers) :
    r.execute ctx = runHandlers (phases handlers) { ctx with result := none } := by
  simp only [Registry.execute, hr, dispatch, inPhases_eq_phases]

/-- A dispatch is a run of the handlers in order, on a context without a result. -/
theorem Registry.runs_execute {r : Registry} {ctx : Context} {handlers : List Handler}
    (hr : r.handlers? ctx.commandName = some handlers) :
    Runs (phases handlers) { ctx with result := none } (r.execute ctx) := by
  rw [Registry.execute_eq hr]
  exact runs_runHandlers ..

/-- Why a run of `handlers` stopped where it did. -/
inductive Ending (handlers : List Handler) (run : Run) : Prop where
  /-- All handlers succeeded. -/
  | completed :
      run.steps.map Step.handler = handlers → (∀ s ∈ run.steps, s.Succeeded) →
      run.outcome = .ok run.context.result → Ending handlers run
  /-- The last handler started was the first to fail, and its failure is that of the run. -/
  | failed {before : List Step} {last : Step} {e : Failure} :
      run.steps = before ++ [last] → (∀ s ∈ before, s.Succeeded) → last.call.answer = .error e →
      run.outcome = .error e → Ending handlers run
  /-- All handlers started succeeded, and before the next one the activity was found cancelled. -/
  | cancelled {next : Handler} {rest : List Handler} :
      handlers = run.steps.map Step.handler ++ next :: rest → (∀ s ∈ run.steps, s.Succeeded) →
      run.context.cancelled = true → run.outcome = .error (.cancelled run.context.commandName) →
      Ending handlers run

namespace Runs

variable {handlers : List Handler} {ctx : Context} {run : Run}

/-- The handlers started come first among those to run, each once. -/
theorem prefix_handlers (hrun : Runs handlers ctx run) :
    run.steps.map Step.handler <+: handlers := by
  induction hrun with
  | done => simp
  | cancelled => simp
  | failed => simp
  | next _ _ _ ih => simpa using ih

theorem follows (hrun : Runs handlers ctx run) : Follows ctx run.steps := by
  induction hrun with
  | done ctx => exact .nil ctx
  | cancelled => exact .nil _
  | failed hc _ => exact .cons hc (.nil _)
  | next hc _ _ ih => exact .cons hc ih

/-- The context a run leaves is that of its last step. This holds of a run that failed as well: the
failing handler had nothing to record. -/
theorem context_eq (hrun : Runs handlers ctx run) : run.context = contextAfter ctx run.steps := by
  induction hrun with
  | done => rfl
  | cancelled => rfl
  | failed _ ha => simp [Step.left, settle_of_error _ ha]
  | next _ _ _ ih => simpa [Step.left] using ih

/-- Every run ends in one of the three ways. -/
theorem ending (hrun : Runs handlers ctx run) : Ending handlers run := by
  induction hrun with
  | done ctx => exact .completed rfl (by simp) rfl
  | cancelled hc => exact .cancelled rfl (by simp) hc rfl
  | failed _ ha => exact .failed (List.nil_append _).symm (by simp) ha rfl
  | @next h rest ctx value run _ ha _ ih =>
    have hfirst : Step.Succeeded ⟨h, ctx, h.call ctx⟩ := ⟨value, ha⟩
    -- the rest of the run ends in one of the three ways, and the whole run in the same one
    cases ih with
    | completed hall hok hout =>
      exact .completed (by simp [hall]) (by simpa using ⟨hfirst, hok⟩) hout
    | @failed before last e hsteps hok hlast hout =>
      have hsplit : ⟨h, ctx, h.call ctx⟩ :: run.steps =
          (⟨h, ctx, h.call ctx⟩ :: before) ++ [last] := by
        rw [hsteps]
        rfl
      exact .failed hsplit (by simpa using ⟨hfirst, hok⟩) hlast hout
    | cancelled hleft hok hc hout =>
      exact .cancelled (by simpa using hleft) (by simpa using ⟨hfirst, hok⟩) hc hout

/-- A run succeeds just when every handler was started and none failed. -/
theorem outcome_ok_iff (hrun : Runs handlers ctx run) :
    (∃ value, run.outcome = .ok value) ↔
      run.steps.map Step.handler = handlers ∧ ∀ s ∈ run.steps, s.Succeeded := by
  cases hrun.ending with
  | completed hall hok hout => exact ⟨fun _ => ⟨hall, hok⟩, fun _ => ⟨_, hout⟩⟩
  | @failed before last e hsteps _ hlast hout =>
    constructor
    · rintro ⟨value, hv⟩
      rw [hout] at hv
      cases hv
    · rintro ⟨_, hok⟩
      exact absurd (hok last (by simp [hsteps])) (Step.not_succeeded_of_error hlast)
  | cancelled hleft _ _ hout =>
    constructor
    · rintro ⟨value, hv⟩
      rw [hout] at hv
      cases hv
    · rintro ⟨hall, _⟩
      -- there is a handler that was not started
      have hlen := congrArg List.length (hall.trans hleft)
      simp at hlen

/-- A run of two groups of handlers either ends inside the first one, without success, or goes
through it and is then a run of the second. -/
theorem append_cases {first second : List Handler} (hrun : Runs (first ++ second) ctx run) :
    (run.steps.map Step.handler <+: first ∧ ∀ value, run.outcome ≠ .ok value) ∨
      ∃ before rest, before.map Step.handler = first ∧
        Runs second (contextAfter ctx before) rest ∧
        run = ⟨rest.outcome, rest.context, before ++ rest.steps⟩ := by
  induction first generalizing ctx run with
  | nil => exact Or.inr ⟨[], run, rfl, hrun, rfl⟩
  | cons h first ih =>
    cases hrun with
    | cancelled => exact Or.inl ⟨by simp, nofun⟩
    | failed => exact Or.inl ⟨by simp, nofun⟩
    | next _ _ htail =>
      -- the first handler is through, and the rest of the first group decides
      rcases ih htail with ⟨hstarted, hout⟩ | ⟨before, rest, hbefore, hrest, rfl⟩
      · exact Or.inl ⟨by simpa using hstarted, hout⟩
      · exact Or.inr ⟨⟨h, ctx, h.call ctx⟩ :: before, rest, by simp [hbefore], hrest, rfl⟩

end Runs

/-! ## The log of a run -/

/-- An event of the kind that reports the start of a handler. -/
def reportsStart (e : Log.Event) : Bool :=
  e.level = .debug && e.target = "kscope_runtime::command" && e.message = "running command handler"

theorem reportsStart_startEvent (s : Step) : reportsStart s.startEvent = true := by
  simp [reportsStart, Step.startEvent]

/-- Where no handler reports starts itself, the log has one such event for each step, in order. -/
theorem filter_reportsStart_events {run : Run}
    (hquiet : ∀ s ∈ run.steps, ∀ e ∈ s.call.events, reportsStart e = false) :
    run.events.filter reportsStart = run.steps.map Step.startEvent := by
  have hstep : ∀ s ∈ run.steps, s.events.filter reportsStart = [s.startEvent] := by
    intro s hs
    have hnone : s.call.events.filter reportsStart = [] := by
      simpa using hquiet s hs
    simp [Step.events, reportsStart_startEvent, hnone]
  calc
    run.events.filter reportsStart
        = run.steps.flatMap fun s => s.events.filter reportsStart := by
      simp [Run.events, List.filter_flatMap]
    _ = run.steps.flatMap fun s => [s.startEvent] := List.flatMap_congr hstep
    _ = run.steps.map Step.startEvent := List.map_eq_flatMap.symm

/-! ## Pipelines -/

/-- What a command does, for handlers of any kind, with any interfaces and any behaviour. -/
theorem execute_pipeline {r : Registry} {ctx : Context} {handlers : List Handler}
    (hr : r.handlers? ctx.commandName = some handlers) :
    let run := r.execute ctx
    let start := { ctx with result := none }
    -- the handlers started, in order
    run.steps.map Step.handler <+: phases handlers ∧
    -- each called once, through the first interface it offers, on what the one before it left
    (∀ s ∈ run.steps, s.handler.Calls s.seen s.call) ∧
    Follows start run.steps ∧ run.context = contextAfter start run.steps ∧
    -- where and why the run stops
    Ending (phases handlers) run ∧
    ((∃ value, run.outcome = .ok value) ↔
      run.steps.map Step.handler = phases handlers ∧ ∀ s ∈ run.steps, s.Succeeded) ∧
    -- the log: the start of each handler, with the name the command has at that moment
    (run.events = run.steps.flatMap fun s =>
      { level := .debug
        target := "kscope_runtime::command"
        message := "running command handler"
        fields :=
          [("command", .shown s.seen.commandName),
           ("activity_id", .shown s.seen.activityId.toText),
           ("handler_type", .quoted s.handler.kind.name)] } :: s.call.events) ∧
    ((∀ s ∈ run.steps, ∀ e ∈ s.call.events, reportsStart e = false) →
      run.events.filter reportsStart = run.steps.map Step.startEvent) := by
  intro run start
  have hrun : Runs (phases handlers) start run := Registry.runs_execute hr
  refine ⟨hrun.prefix_handlers, ?_, hrun.follows, hrun.context_eq, hrun.ending,
    hrun.outcome_ok_iff, rfl, filter_reportsStart_events⟩
  intro s hs
  exact hrun.follows.calls hs

/-- Gives the command another name. -/
def relabelling : Handler :=
  .scripted "relabelling" .mutator [.mutate] [.rename "other"]

/-- Cancels the activity and answers nevertheless. -/
def finding : Handler :=
  .scripted "finding" .internal [.execute] [.cancel, .answer .null]

/-- Looks on. -/
def watching : Handler :=
  .scripted "watching" .observer [.execute] []

/-- A command whose handlers are registered in the opposite order to that in which they run. -/
def job : Registry := ⟨[("job", [watching, finding, relabelling])]⟩

/-- Asks for the job, with a result left over. -/
def jobContext : Context where
  commandName := "job"
  activityId := .nil
  result := some (.string "stale")

/-- The job is renamed and cancelled while it runs, and keeps to its own handlers. -/
theorem execute_pipeline_job :
    job.handlers? jobContext.commandName = some [watching, finding, relabelling] ∧
      (job.execute jobContext).steps.map Step.handler <+: [relabelling, finding, watching] ∧
      (∀ s ∈ (job.execute jobContext).steps, s.handler.Calls s.seen s.call) ∧
      Ending [relabelling, finding, watching] (job.execute jobContext) := by
  have hr : job.handlers? jobContext.commandName = some [watching, finding, relabelling] := rfl
  obtain ⟨hstarted, hcalls, _, _, hending, _⟩ := execute_pipeline hr
  exact ⟨hr, hstarted, hcalls, hending⟩

end ResourceInspector.Command
