import ResourceInspector.Proofs.Command.Pipeline
/-!
# Cancellation

An activity is cancelled by a handler, or by somebody else who holds a clone of the token, at any
time. The dispatcher looks at the token before it starts a handler, so a handler that is running
goes on, and none is started after it. That is final for the token (`cancellation_final`): as long
as it stays on the context nothing is started there any more.

It is not final for the context, which may be given another token, by a handler that mutates it or
by whoever keeps it between two dispatches. `cancellation_not_final` is a context on which handlers
are started after a cancellation.

A cancellation from elsewhere is told from one by the running handler in nothing that a dispatch
shows. It is counted as the handler's (`Handler.interrupted`), so that `Runs` describes both.
-/

namespace ResourceInspector.Command

/-! ## Cancelling from elsewhere -/

namespace Handler

/-- The handler as it is when the token it finds may be cancelled from elsewhere while it runs. -/
def interrupted (h : Handler) (elsewhere : Bool) : Handler where
  label := h.label
  kind := h.kind
  validate := h.validate.map fun check ctx =>
    { check ctx with cancels := (check ctx).cancels || elsewhere }
  mutate := h.mutate.map fun change ctx =>
    { change ctx with cancels := (change ctx).cancels || elsewhere }
  execute := h.execute.map fun body ctx =>
    { body ctx with cancels := (body ctx).cancels || elsewhere }

/-- Where nobody cancels the handler is as it was. -/
@[simp] theorem interrupted_false (h : Handler) : h.interrupted false = h := by
  obtain ⟨label, kind, validate, mutate, execute⟩ := h
  cases validate <;> cases mutate <;> cases execute <;> simp [interrupted]

theorem via_interrupted (h : Handler) (elsewhere : Bool) (ctx : Context) :
    ((h.interrupted elsewhere).call ctx).via = (h.call ctx).via := by
  simp [call_via, interface?, interrupted]

/-- Whatever is called, the token it found is cancelled meanwhile. -/
theorem cancels_interrupted (h : Handler) (ctx : Context) (hvia : (h.call ctx).via ≠ none) :
    ((h.interrupted true).call ctx).cancels = true := by
  cases hv : h.validate with
  | some check => simp [call, interrupted, hv, Call.ofReply]
  | none =>
    cases hm : h.mutate with
    | some change => simp [call, interrupted, hv, hm, Call.ofMutation]
    | none =>
      cases he : h.execute with
      | some body => simp [call, interrupted, hv, hm, he, Call.ofReply]
      | none =>
        -- nothing was called
        rw [call_via] at hvia
        exact absurd (by simp [interface?, hv, hm, he]) hvia

end Handler

/-- The handlers, with the token cancelled from elsewhere while some of them run. `elsewhere` tells
which, counted in the order in which they run. -/
def interruptedAt (elsewhere : Nat → Bool) (handlers : List Handler) : List Handler :=
  handlers.mapIdx fun n h => h.interrupted (elsewhere n)

@[simp] theorem length_interruptedAt (elsewhere : Nat → Bool) (handlers : List Handler) :
    (interruptedAt elsewhere handlers).length = handlers.length :=
  List.length_mapIdx

@[simp] theorem interruptedAt_never (handlers : List Handler) :
    interruptedAt (fun _ => false) handlers = handlers := by
  simp [interruptedAt, List.mapIdx_eq_zipIdx_map]

theorem interruptedAt_cons (elsewhere : Nat → Bool) (h : Handler) (handlers : List Handler) :
    interruptedAt elsewhere (h :: handlers) =
      h.interrupted (elsewhere 0) :: interruptedAt (fun n => elsewhere (n + 1)) handlers :=
  List.mapIdx_cons

/-- Behind the handlers of a first group the count goes on. -/
theorem interruptedAt_append (elsewhere : Nat → Bool) (first second : List Handler) :
    interruptedAt elsewhere (first ++ second) =
      interruptedAt elsewhere first ++
        interruptedAt (fun n => elsewhere (n + first.length)) second :=
  List.mapIdx_append

theorem mem_interruptedAt {elsewhere : Nat → Bool} {handlers : List Handler} {h : Handler}
    (hh : h ∈ interruptedAt elsewhere handlers) : ∃ h' ∈ handlers, ∃ b, h = h'.interrupted b := by
  obtain ⟨n, hn, rfl⟩ := List.mem_mapIdx.1 hh
  exact ⟨handlers[n], List.getElem_mem hn, elsewhere n, rfl⟩

/-- Runs the command that a context names, while somebody else may cancel the token on the context
during some of the handlers. -/
def Registry.executeAmid (r : Registry) (elsewhere : Nat → Bool) (ctx : Context) : Run :=
  match r.handlers? ctx.commandName with
  | some handlers =>
    runHandlers (interruptedAt elsewhere (inPhases handlers)) { ctx with result := none }
  | none => ⟨.error (.notFound ctx.commandName), ctx, []⟩

/-- Where nobody interferes this is the dispatch. -/
theorem Registry.executeAmid_never (r : Registry) (ctx : Context) :
    r.executeAmid (fun _ => false) ctx = r.execute ctx := by
  unfold executeAmid execute dispatch
  cases r.handlers? ctx.commandName with
  | none => rfl
  | some handlers => simp only [interruptedAt_never]

/-! ## Steps -/

/-- A call leaves the context cancelled if the token it found is cancelled meanwhile and no other
one takes its place. -/
theorem Handler.Calls.cancelled_of_cancels {h : Handler} {ctx : Context} {call : Call}
    (hcall : h.Calls ctx call) (hcancels : call.cancels = true) (hkept : call.renews = false) :
    call.context.cancelled = true := by
  cases hcall with
  | @validate check =>
    have hcancels : (check ctx).cancels = true := hcancels
    simp [Call.ofReply, hcancels]
  | @mutate change =>
    have hcancels : (change ctx).cancels = true := hcancels
    have hkept : (change ctx).renews = false := hkept
    simp [Call.ofMutation, Context.succeed, hcancels, hkept]
  | @execute body =>
    have hcancels : (body ctx).cancels = true := hcancels
    simp [Call.ofReply, hcancels]
  | nothing => cases hcancels

/-- Recording a result has nothing to do with the token. -/
theorem Step.cancelled_left (s : Step) : s.left.cancelled = s.call.context.cancelled := by
  rw [left, settle_eq]

namespace Follows

variable {ctx : Context} {steps before after : List Step} {s : Step}

/-- On a cancelled context nothing follows. -/
theorem eq_nil_of_cancelled (hf : Follows ctx steps) (hc : ctx.cancelled = true) : steps = [] := by
  cases hf with
  | nil => rfl
  | cons hfalse => exact absurd (hc.symm.trans hfalse) nofun

/-- No handler is started on a cancelled context. -/
theorem cancelled_seen (hf : Follows ctx steps) (hs : s ∈ steps) : s.seen.cancelled = false := by
  obtain ⟨before, after, rfl⟩ := List.append_of_mem hs
  cases hf.append_right with
  | cons hfalse => exact hfalse

/-- Behind a step that leaves the context cancelled there is none. -/
theorem after_eq_nil (hf : Follows ctx (before ++ s :: after)) (hc : s.left.cancelled = true) :
    after = [] := by
  cases hf.append_right with
  | cons _ htail => exact htail.eq_nil_of_cancelled hc

end Follows

/-! ## Dispatches -/

section

variable {r : Registry} {ctx : Context} {handlers : List Handler}

/-- The handlers are put in order first, and then it is counted during which the token is
cancelled. -/
theorem Registry.executeAmid_eq (elsewhere : Nat → Bool)
    (hr : r.handlers? ctx.commandName = some handlers) :
    r.executeAmid elsewhere ctx =
      runHandlers (interruptedAt elsewhere (phases handlers)) { ctx with result := none } := by
  simp only [executeAmid, hr, inPhases_eq_phases]

theorem Registry.runs_executeAmid (elsewhere : Nat → Bool)
    (hr : r.handlers? ctx.commandName = some handlers) :
    Runs (interruptedAt elsewhere (phases handlers)) { ctx with result := none }
      (r.executeAmid elsewhere ctx) := by
  rw [executeAmid_eq elsewhere hr]
  exact runs_runHandlers ..

/-- A command without handlers is not found, cancelled or not, and its context stays as it is. -/
theorem Registry.executeAmid_of_none (elsewhere : Nat → Bool)
    (hr : r.handlers? ctx.commandName = none) :
    r.executeAmid elsewhere ctx = ⟨.error (.notFound ctx.commandName), ctx, []⟩ := by
  simp only [executeAmid, hr]

/-- The steps of a dispatch follow each other, from a context that is cancelled if the one
dispatched on is. A command without handlers has no steps. -/
theorem Registry.follows_executeAmid (r : Registry) (elsewhere : Nat → Bool) (ctx : Context) :
    ∃ start : Context, start.cancelled = ctx.cancelled ∧
      Follows start (r.executeAmid elsewhere ctx).steps ∧
      (r.executeAmid elsewhere ctx).context =
        contextAfter start (r.executeAmid elsewhere ctx).steps := by
  cases hr : r.handlers? ctx.commandName with
  | some handlers =>
    have hrun := Registry.runs_executeAmid elsewhere hr
    exact ⟨{ ctx with result := none }, rfl, hrun.follows, hrun.context_eq⟩
  | none =>
    rw [Registry.executeAmid_of_none elsewhere hr]
    exact ⟨ctx, rfl, .nil ctx, rfl⟩

/-- A run of any handlers on a cancelled context ends before the first. -/
theorem Runs.eq_of_cancelled {run : Run} (hrun : Runs handlers ctx run) (hne : handlers ≠ [])
    (hc : ctx.cancelled = true) : run = ⟨.error (.cancelled ctx.commandName), ctx, []⟩ := by
  cases hrun with
  | done => exact absurd rfl hne
  | cancelled => rfl
  | failed hfalse => exact absurd (hc.symm.trans hfalse) nofun
  | next hfalse => exact absurd (hc.symm.trans hfalse) nofun

/-- A dispatch on a cancelled context ends before the first handler. -/
theorem Registry.executeAmid_of_cancelled (elsewhere : Nat → Bool)
    (hr : r.handlers? ctx.commandName = some handlers) (hne : handlers ≠ [])
    (hc : ctx.cancelled = true) :
    r.executeAmid elsewhere ctx =
      ⟨.error (.cancelled ctx.commandName), { ctx with result := none }, []⟩ := by
  refine (Registry.runs_executeAmid elsewhere hr).eq_of_cancelled ?_ hc
  rw [← List.length_pos_iff, length_interruptedAt, length_phases]
  exact List.length_pos_iff.2 hne

end

namespace Runs

variable {handlers : List Handler} {ctx : Context} {run : Run} {before after : List Step} {s : Step}

/-- A run stops behind the step that leaves the context cancelled. How it ends depends on that step
and on whether it was the last. -/
theorem stopped_of_cancelled (hrun : Runs handlers ctx run)
    (hsplit : run.steps = before ++ s :: after) (hc : s.left.cancelled = true) :
    after = [] ∧ run.context = s.left ∧
      (∀ e, s.call.answer = .error e → run.outcome = .error e) ∧
      (s.Succeeded → run.steps.length < handlers.length →
        run.outcome = .error (.cancelled s.left.commandName)) ∧
      (s.Succeeded → run.steps.length = handlers.length → run.outcome = .ok s.left.result) := by
  have hlast : after = [] := by
    have hfollows := hrun.follows
    rw [hsplit] at hfollows
    exact hfollows.after_eq_nil hc
  subst hlast
  have hcontext : run.context = s.left := by
    rw [hrun.context_eq, hsplit, contextAfter_append]
    rfl
  refine ⟨rfl, hcontext, ?_⟩
  have hmem : s ∈ run.steps := by
    rw [hsplit]
    exact List.mem_append_right _ List.mem_cons_self
  cases hrun.ending with
  | completed hall hok hout =>
    refine ⟨?_, ?_, ?_⟩
    · intro e he
      exact absurd (hok s hmem) (Step.not_succeeded_of_error he)
    · intro _ hlt
      -- there is no handler left
      have hlen := congrArg List.length hall
      rw [List.length_map] at hlen
      omega
    · intro _ _
      rw [hout, hcontext]
  | @failed _ last e hsteps _ he hout =>
    obtain ⟨_, heq⟩ := List.append_inj' (hsplit.symm.trans hsteps) rfl
    obtain rfl := (List.cons.inj heq).1
    refine ⟨?_, ?_, ?_⟩
    · intro e' he'
      rw [hout]
      exact he.symm.trans he'
    · intro hok
      exact absurd hok (Step.not_succeeded_of_error he)
    · intro hok
      exact absurd hok (Step.not_succeeded_of_error he)
  | @cancelled next rest hleft hok _ hout =>
    refine ⟨?_, ?_, ?_⟩
    · intro e he
      exact absurd (hok s hmem) (Step.not_succeeded_of_error he)
    · intro _ _
      rw [hout, hcontext]
    · intro _ heq
      -- one handler was not started
      have hlen := congrArg List.length hleft
      rw [List.length_append, List.length_map, List.length_cons] at hlen
      omega

/-- A cancellation from elsewhere hits the token that the handler running then has found. -/
theorem cancels_of_elsewhere {elsewhere : Nat → Bool} {n : Nat}
    (hrun : Runs (interruptedAt elsewhere handlers) ctx run) (hn : elsewhere n = true)
    (hs : run.steps[n]? = some s) (hvia : s.call.via ≠ none) : s.call.cancels = true := by
  have hhandler : (interruptedAt elsewhere handlers)[n]? = some s.handler := by
    obtain ⟨rest, hrest⟩ := hrun.prefix_handlers
    have hn : n < run.steps.length := (List.getElem?_eq_some_iff.1 hs).1
    rw [← hrest, List.getElem?_append_left (by rwa [List.length_map]), List.getElem?_map, hs]
    rfl
  rw [interruptedAt, List.getElem?_mapIdx] at hhandler
  obtain ⟨h, _, hinterrupted⟩ := Option.map_eq_some_iff.1 hhandler
  have hcall : s.call = (h.interrupted true).call s.seen := by
    rw [← hn, hinterrupted]
    exact hrun.follows.call_eq (List.mem_of_getElem? hs)
  rw [hcall, Handler.via_interrupted] at hvia
  rw [hcall]
  exact h.cancels_interrupted s.seen hvia

end Runs

/-! ## The life of a context -/

/-- Something that is done with a context. -/
inductive Act where
  /-- Its command is run, by any registry and with or without interference. -/
  | dispatch (r : Registry) (elsewhere : Nat → Bool)
  /-- Whoever keeps the context changes what is in it, and may put another token on it. -/
  | amend (change : Context → Context) (renews : Bool)
  /-- Somebody who holds a clone of the token cancels the activity. -/
  | cancel

namespace Act

/-- The steps that an act takes on the context. -/
def steps (ctx : Context) : Act → List Step
  | .dispatch r elsewhere => (r.executeAmid elsewhere ctx).steps
  | .amend .. | .cancel => []

def left (ctx : Context) : Act → Context
  | .dispatch r elsewhere => (r.executeAmid elsewhere ctx).context
  | .amend change renews => ctx.succeed (change ctx) renews
  | .cancel => ctx.cancel

/-- Whoever keeps the context puts another token on it. What handlers do is left out of account. -/
def renews : Act → Bool
  | .amend _ renews => renews
  | .dispatch .. | .cancel => false

end Act

/-- All steps that are taken on a context in the course of its life. -/
def lifeSteps (ctx : Context) : List Act → List Step
  | [] => []
  | act :: rest => act.steps ctx ++ lifeSteps (act.left ctx) rest

def lifeEnd (ctx : Context) (acts : List Act) : Context :=
  acts.foldl Act.left ctx

section

variable {ctx : Context} {acts : List Act}

theorem lifeSteps_append (ctx : Context) (acts later : List Act) :
    lifeSteps ctx (acts ++ later) = lifeSteps ctx acts ++ lifeSteps (lifeEnd ctx acts) later := by
  induction acts generalizing ctx with
  | nil => rfl
  | cons act acts ih =>
    rw [List.cons_append, lifeSteps, lifeSteps, ih, List.append_assoc]
    rfl

/-- An act on a cancelled context takes no steps and, as long as the token stays, leaves it
cancelled. -/
theorem Act.of_cancelled {act : Act} (hkept : act.renews = false) (hc : ctx.cancelled = true) :
    act.steps ctx = [] ∧ (act.left ctx).cancelled = true := by
  cases act with
  | dispatch r elsewhere =>
    obtain ⟨start, hstart, hfollows, hcontext⟩ := r.follows_executeAmid elsewhere ctx
    have hnone := hfollows.eq_nil_of_cancelled (hstart.trans hc)
    refine ⟨hnone, ?_⟩
    show (r.executeAmid elsewhere ctx).context.cancelled = true
    rw [hcontext, hnone]
    exact hstart.trans hc
  | amend change renews =>
    obtain rfl : renews = false := hkept
    exact ⟨rfl, by simp [left, Context.succeed, hc]⟩
  | cancel => exact ⟨rfl, rfl⟩

/-- Nothing is started on a context any more that is cancelled and keeps its token. -/
theorem lifeSteps_of_cancelled (hc : ctx.cancelled = true)
    (hkept : ∀ act ∈ acts, act.renews = false) : lifeSteps ctx acts = [] := by
  induction acts generalizing ctx with
  | nil => rfl
  | cons act acts ih =>
    obtain ⟨hfirst, hrest⟩ := List.forall_mem_cons.1 hkept
    obtain ⟨hnone, hleft⟩ := Act.of_cancelled hfirst hc
    rw [lifeSteps, hnone, ih hleft hrest]
    rfl

/-- The steps of an act are those of a dispatch, and so is the context that it leaves behind
them. -/
theorem Act.follows {act : Act} (hne : act.steps ctx ≠ []) :
    ∃ start, Follows start (act.steps ctx) ∧ act.left ctx = contextAfter start (act.steps ctx) := by
  cases act with
  | dispatch r elsewhere =>
    obtain ⟨start, _, hfollows, hcontext⟩ := r.follows_executeAmid elsewhere ctx
    exact ⟨start, hfollows, hcontext⟩
  | amend change renews => exact absurd rfl hne
  | cancel => exact absurd rfl hne

/-- A step that leaves the context cancelled is the last of its act, which leaves it so. -/
theorem Act.stopped_of_cancelled {act : Act} {before after : List Step} {s : Step}
    (hsplit : act.steps ctx = before ++ s :: after) (hc : s.left.cancelled = true) :
    after = [] ∧ (act.left ctx).cancelled = true := by
  have hne : act.steps ctx ≠ [] := by simp [hsplit]
  obtain ⟨start, hfollows, hleft⟩ := Act.follows hne
  rw [hsplit] at hfollows hleft
  have hlast : after = [] := hfollows.after_eq_nil hc
  refine ⟨hlast, ?_⟩
  rw [hleft, hlast, contextAfter_append]
  exact hc

/-- What holds of the steps of every act holds of all that are taken in the life of a context. -/
theorem forall_mem_lifeSteps {P : Step → Prop}
    (hact : ∀ (act : Act) ctx, ∀ s ∈ act.steps ctx, P s) : ∀ s ∈ lifeSteps ctx acts, P s := by
  induction acts generalizing ctx with
  | nil => exact fun _ hs => absurd hs List.not_mem_nil
  | cons act acts ih => exact List.forall_mem_append.2 ⟨hact act ctx, ih⟩

/-- The steps of an act are calls of their handlers on contexts that are not cancelled. -/
theorem Act.calls {act : Act} {s : Step} (hs : s ∈ act.steps ctx) :
    s.seen.cancelled = false ∧ s.handler.Calls s.seen s.call := by
  obtain ⟨start, hfollows, _⟩ := Act.follows (List.ne_nil_of_mem hs)
  exact ⟨hfollows.cancelled_seen hs, hfollows.calls hs⟩

end

/-- A cancellation is final for the token. No handler is ever started on a context whose token is
cancelled. A handler during which the token is cancelled, by itself or from elsewhere, is the last
of its dispatch unless it puts another token on the context itself, and nothing is started later
either unless whoever keeps the context puts another one there. A dispatch on a cancelled context
says so, drops the result and leaves everything else, if there is a handler for the command at all:
otherwise the command is not found, as on any context. In the dispatch in which the cancellation
falls the handler that was running decides: its failure is that of the dispatch, and its success is
the interruption or, behind the last handler, the success of the dispatch. -/
theorem cancellation_final :
    -- all that is done with a context
    (∀ ctx acts, ∀ s ∈ lifeSteps ctx acts, s.seen.cancelled = false ∧
      (s.call.cancels = true → s.call.renews = false → s.left.cancelled = true)) ∧
    (∀ ctx acts (act : Act) later before s after,
      act.steps (lifeEnd ctx acts) = before ++ s :: after → s.left.cancelled = true → after = [] ∧
        ((∀ next ∈ later, next.renews = false) →
          lifeSteps ctx (acts ++ act :: later) = lifeSteps ctx acts ++ before ++ [s])) ∧
    (∀ ctx acts later, (lifeEnd ctx acts).cancelled = true →
      (∀ next ∈ later, next.renews = false) →
      lifeSteps ctx (acts ++ later) = lifeSteps ctx acts) ∧
    -- one dispatch
    (∀ (r : Registry) (ctx : Context) (handlers : List Handler),
      r.handlers? ctx.commandName = some handlers → handlers ≠ [] → ∀ elsewhere,
      let run := r.executeAmid elsewhere ctx
      -- cancelled before
      (ctx.cancelled = true →
        run = ⟨.error (.cancelled ctx.commandName), { ctx with result := none }, []⟩ ∧
        run.events = []) ∧
      -- cancelled meanwhile
      (∀ n s, elsewhere n = true → run.steps[n]? = some s → s.call.via ≠ none →
        s.call.cancels = true) ∧
      ∀ before s after, run.steps = before ++ s :: after → s.left.cancelled = true →
        after = [] ∧ run.context = s.left ∧
        (∀ e, s.call.answer = .error e → run.outcome = .error e) ∧
        (s.Succeeded → run.steps.length < handlers.length →
          run.outcome = .error (.cancelled s.left.commandName)) ∧
        (s.Succeeded → run.steps.length = handlers.length →
          run.outcome = .ok s.left.result)) ∧
    -- a command without handlers
    (∀ (r : Registry) (ctx : Context), r.handlers? ctx.commandName = none → ∀ elsewhere,
      r.executeAmid elsewhere ctx = ⟨.error (.notFound ctx.commandName), ctx, []⟩) ∧
    -- a dispatch that nobody interferes with
    (∀ (r : Registry) (ctx : Context), r.executeAmid (fun _ => false) ctx = r.execute ctx) := by
  refine ⟨?_, ?_, ?_, ?_, fun r ctx hr elsewhere => Registry.executeAmid_of_none elsewhere hr,
    Registry.executeAmid_never⟩
  · intro ctx acts
    refine forall_mem_lifeSteps fun act ctx s hs => ?_
    obtain ⟨hseen, hcalls⟩ := Act.calls hs
    refine ⟨hseen, fun hcancels hkept => ?_⟩
    rw [Step.cancelled_left]
    exact hcalls.cancelled_of_cancels hcancels hkept
  · intro ctx acts act later before s after hsplit hc
    obtain ⟨rfl, hleft⟩ := Act.stopped_of_cancelled hsplit hc
    refine ⟨rfl, fun hkept => ?_⟩
    rw [lifeSteps_append, lifeSteps, hsplit, lifeSteps_of_cancelled hleft hkept, List.append_nil,
      List.append_assoc]
  · intro ctx acts later hc hkept
    rw [lifeSteps_append, lifeSteps_of_cancelled hc hkept, List.append_nil]
  · intro r ctx handlers hr hne elsewhere run
    have hrun := Registry.runs_executeAmid elsewhere hr
    have hlen : (interruptedAt elsewhere (phases handlers)).length = handlers.length := by
      rw [length_interruptedAt, length_phases]
    refine ⟨?_, ?_, ?_⟩
    · intro hc
      have hstopped := Registry.executeAmid_of_cancelled elsewhere hr hne hc
      exact ⟨hstopped, congrArg Run.events hstopped⟩
    · intro n s
      exact hrun.cancels_of_elsewhere
    · intro before s after hsplit hc
      rw [← hlen]
      exact hrun.stopped_of_cancelled hsplit hc


/-- The job is run, and nobody interferes. -/
def runJob : Act :=
  .dispatch job fun _ => false

/-- The job is cancelled by its second handler and ends under the name that its first handler gave
it. When it is asked for again nothing is started. -/
theorem cancellation_final_job :
    job.handlers? jobContext.commandName = some [watching, finding, relabelling] ∧
      (job.execute jobContext).outcome = .error (.cancelled "other") ∧
      (job.execute jobContext).context.result = some .null ∧
      lifeSteps jobContext
          ([] ++ runJob :: [.amend (fun ctx => { ctx with commandName := "job" }) false, runJob]) =
        runJob.steps jobContext := by
  have hr : job.handlers? jobContext.commandName = some [watching, finding, relabelling] := rfl
  have hsteps : ∃ first second, (job.execute jobContext).steps = [first] ++ [second] ∧
      second.left = { jobContext with
        commandName := "other", result := some .null, cancelled := true } ∧
      second.Succeeded := by
    rw [Registry.execute_eq hr]
    exact ⟨_, _, rfl, rfl, _, rfl⟩
  obtain ⟨first, second, hsplit, hleft, hok⟩ := hsteps
  have hc : second.left.cancelled = true := by rw [hleft]
  obtain ⟨_, hlater, _, hdispatch, _, hsame⟩ := cancellation_final
  have hact : runJob.steps (lifeEnd jobContext []) = [first] ++ [second] := by
    show (job.executeAmid (fun _ => false) jobContext).steps = _
    rw [hsame, hsplit]
  have hrun := (hdispatch job jobContext _ hr nofun fun _ => false).2.2
  rw [hsame] at hrun
  obtain ⟨_, hcontext, _, hstopped, _⟩ := hrun [first] second [] hsplit hc
  have hout := hstopped hok (by rw [hsplit]; exact Nat.lt_succ_self 2)
  rw [hleft] at hcontext hout
  refine ⟨hr, hout, by rw [hcontext], ?_⟩
  rw [(hlater jobContext [] runJob _ _ _ _ hact hc).2 (by simp [Act.renews, runJob])]
  exact hact.symm

/-- Cancels the activity and puts a fresh token on the context. -/
def renewing : Handler :=
  .mutating fun ctx => { answer := .ok none, cancels := true, context := ctx, renews := true }

/-- A job that goes on after it was cancelled. -/
def revived : Registry := ⟨[("job", [renewing, watching])]⟩

/-- Whoever keeps the context puts a fresh token on it. -/
def renewal : Act :=
  .amend (fun ctx => { ctx with cancelled := false }) true

/-- A cancellation is not final for the context. Handlers are started on it again when it has been
given another token, by a handler or by whoever keeps it. Nor is every dispatch on a cancelled
context interrupted: the job, renamed while it ran, is not found under its new name. -/
theorem cancellation_not_final :
    (∃ first second, (revived.execute jobContext).steps = [first, second] ∧
      first.handler = renewing ∧ first.call.cancels = true ∧ second.handler = watching ∧
      (revived.execute jobContext).outcome = .ok none) ∧
    (lifeSteps jobContext [.cancel, runJob] = [] ∧
      (lifeSteps jobContext [.cancel, renewal, runJob]).map Step.handler =
        [relabelling, finding]) ∧
    (job.execute jobContext).context.cancelled = true ∧
    job.execute (job.execute jobContext).context =
      ⟨.error (.notFound "other"), (job.execute jobContext).context, []⟩ := by
  have hr : job.handlers? jobContext.commandName = some [watching, finding, relabelling] := rfl
  refine ⟨?_, ⟨?_, ?_⟩, ?_⟩
  · have hr : revived.handlers? jobContext.commandName = some [renewing, watching] := rfl
    rw [Registry.execute_eq hr]
    exact ⟨_, _, rfl, rfl, rfl, rfl, rfl⟩
  · show lifeSteps jobContext.cancel [runJob] = []
    exact lifeSteps_of_cancelled rfl (by simp [Act.renews, runJob])
  · have hstart : Act.left (Act.left jobContext .cancel) renewal = jobContext := rfl
    have hsteps : runJob.steps jobContext = (job.execute jobContext).steps := by
      rw [← Registry.executeAmid_never]
      rfl
    simp only [lifeSteps, hstart, hsteps, List.append_nil]
    rw [Registry.execute_eq hr]
    rfl
  · rw [Registry.execute_eq hr]
    exact ⟨rfl, rfl⟩

end ResourceInspector.Command
