import ResourceInspector.Proofs.Command.Result
/-!
# What is validated is what is executed

What a command is asked to do (`Context.request`) is up to its mutators. Where each handler offers
no interface but that of its kind, no handler of a later phase can change it: a check, an execution
or an observation leaves the request as it found it, and recording a result does not touch it. The
phases follow each other, so from the first handler that is no mutator on every context of the run
carries one and the same request (`execute_agreement`).
-/

namespace ResourceInspector.Command

/-! ## Requests and interfaces -/

/-- What a command is asked to do: its name, its parameters and the activity it belongs to. -/
def Context.request (ctx : Context) : String × Json.Members × Uuid :=
  (ctx.commandName, ctx.parameters, ctx.activityId)

/-- The interface that the handlers of a kind are meant to be called through. -/
def Kind.interface : Kind → Interface
  | .mutator => .mutate
  | .validator => .validate
  | .internal | .observer => .execute

/-- Every phase but that of the mutators comes after it. -/
theorem Kind.ne_mutator_iff {kind : Kind} :
    kind ≠ .mutator ↔ Kind.mutator.priority < kind.priority := by
  cases kind <;> decide

namespace Handler

/-- The handler can be called through the interface. -/
def Offers (h : Handler) : Interface → Prop
  | .validate => h.validate ≠ none
  | .mutate => h.mutate ≠ none
  | .execute => h.execute ≠ none

/-- The handler offers no interface but that of its kind. -/
def KeepsToKind (h : Handler) : Prop :=
  ∀ i, h.Offers i → i = h.kind.interface

variable {h : Handler} {ctx : Context} {call : Call}

theorem Calls.offers (hc : h.Calls ctx call) {i : Interface} (hvia : call.via = some i) :
    h.Offers i := by
  cases hc with
  | validate hv =>
    obtain rfl := Option.some.inj hvia
    simp [Offers, hv]
  | mutate _ hm =>
    obtain rfl := Option.some.inj hvia
    simp [Offers, hm]
  | execute _ _ he =>
    obtain rfl := Option.some.inj hvia
    simp [Offers, he]
  | nothing => cases hvia

/-- A call that succeeds went through some interface. -/
theorem Calls.via_ne_none (hc : h.Calls ctx call) {value : Option Json}
    (ha : call.answer = .ok value) : call.via ≠ none := by
  cases hc with
  | validate => exact Option.some_ne_none _
  | mutate => exact Option.some_ne_none _
  | execute => exact Option.some_ne_none _
  | nothing => cases ha

/-- A handler that keeps to its kind mutates contexts only if it is a mutator. -/
theorem KeepsToKind.mutate_eq_none (hkeep : h.KeepsToKind) (hk : h.kind ≠ .mutator) :
    h.mutate = none := by
  by_contra hm
  have hown : Interface.mutate = h.kind.interface := hkeep .mutate hm
  cases hkind : h.kind <;> rw [hkind] at hown
  case mutator => exact hk hkind
  all_goals cases hown

end Handler

/-! ## Steps -/

namespace Step

variable {s : Step}

/-- A handler that keeps to its kind and succeeds was called through the interface of its kind. -/
theorem via_of_succeeded (hcall : s.handler.Calls s.seen s.call)
    (hkeep : s.handler.KeepsToKind) (hok : s.Succeeded) :
    s.call.via = some s.handler.kind.interface := by
  obtain ⟨value, ha⟩ := hok
  obtain ⟨i, hvia⟩ := Option.ne_none_iff_exists'.1 (hcall.via_ne_none ha)
  rw [hvia, hkeep i (hcall.offers hvia)]

/-- A call that cannot mutate the context leaves the request alone. -/
theorem request_call (hcall : s.handler.Calls s.seen s.call)
    (hm : s.handler.mutate = none) : s.call.context.request = s.seen.request := by
  rcases hcall.frame with hsame | ⟨change, hchange, _⟩
  · rw [hsame]
    rfl
  · rw [hm] at hchange
    cases hchange

/-- Recording a result leaves the request alone. -/
theorem request_left (s : Step) : s.left.request = s.call.context.request := by
  rw [left, settle_eq]
  rfl

end Step

/-- Steps that each leave the request alone leave it alone together. -/
theorem request_contextAfter {ctx : Context} {steps : List Step} (hf : Follows ctx steps)
    (hsame : ∀ s ∈ steps, s.call.context.request = s.seen.request) :
    (contextAfter ctx steps).request = ctx.request := by
  induction hf with
  | nil => rfl
  | @cons ctx h steps _ _ ih =>
    obtain ⟨hfirst, hrest⟩ := List.forall_mem_cons.1 hsame
    calc
      (contextAfter (settle h.kind (h.call ctx)) steps).request
          = (settle h.kind (h.call ctx)).request := ih hrest
      _ = (h.call ctx).context.request := Step.request_left ⟨h, ctx, h.call ctx⟩
      _ = ctx.request := hfirst

/-! ## The order of phases in a run -/

/-- The phases follow each other in the order of their priority. -/
theorem pairwise_phases (handlers : List Handler) :
    (phases handlers).Pairwise (fun a b => a.kind.priority ≤ b.kind.priority) := by
  rw [← inPhases_eq_phases]
  exact (pairwise_inPhases handlers).imp (by simp [phaseLe])

namespace Runs

variable {handlers : List Handler} {ctx : Context} {run : Run} {before after : List Step} {s : Step}

/-- The handlers that follow a step, started or not, are of its phase or of a later one. -/
theorem priority_le (hrun : Runs (phases handlers) ctx run)
    (hsplit : run.steps = before ++ s :: after) :
    ∃ rest, phases handlers = before.map Step.handler ++ s.handler :: rest ∧
      (∀ t ∈ after, t.handler ∈ rest) ∧
      ∀ h ∈ rest, s.handler.kind.priority ≤ h.kind.priority := by
  obtain ⟨notStarted, hphases⟩ := hrun.prefix_handlers
  have hall : phases handlers =
      before.map Step.handler ++ s.handler :: (after.map Step.handler ++ notStarted) := by
    simp [← hphases, hsplit]
  have hsorted := pairwise_phases handlers
  rw [hall, List.pairwise_append] at hsorted
  refine ⟨_, hall, ?_, fun h hh => List.rel_of_pairwise_cons hsorted.2.1 hh⟩
  intro t ht
  exact List.mem_append_left _ (List.mem_map_of_mem ht)

/-- When a handler is started, all handlers of the earlier phases have been. -/
theorem ofKind_before (hrun : Runs (phases handlers) ctx run)
    (hsplit : run.steps = before ++ s :: after) {kind : Kind}
    (hlt : kind.priority < s.handler.kind.priority) :
    ofKind kind (before.map Step.handler) = ofKind kind handlers := by
  obtain ⟨rest, hall, _, hle⟩ := hrun.priority_le hsplit
  have hnone : ofKind kind (s.handler :: rest) = [] := by
    apply ofKind_eq_nil_of_forall_ne
    intro h hh hk
    have hpriority : s.handler.kind.priority ≤ h.kind.priority := by
      rcases List.mem_cons.1 hh with rfl | hh
      · exact Nat.le_refl _
      · exact hle h hh
    rw [hk] at hpriority
    omega
  calc
    ofKind kind (before.map Step.handler)
        = ofKind kind (before.map Step.handler ++ s.handler :: rest) := by
      rw [ofKind_append, hnone, List.append_nil]
    _ = ofKind kind handlers := by rw [← hall, ofKind_phases]

/-- A handler is started only when all before it succeeded. -/
theorem succeeded_before (hrun : Runs handlers ctx run)
    (hsplit : run.steps = before ++ s :: after) : ∀ t ∈ before, t.Succeeded := by
  induction hrun generalizing before with
  | done => simp at hsplit
  | cancelled => simp at hsplit
  | failed =>
    cases before with
    | nil => simp
    | cons => simp at hsplit
  | @next h rest ctx value run _ ha _ ih =>
    cases before with
    | nil => simp
    | cons first before =>
      obtain ⟨rfl, htail⟩ := List.cons.inj hsplit
      exact List.forall_mem_cons.2 ⟨⟨value, ha⟩, ih htail⟩

end Runs

/-! ## Agreement -/

/-- All handlers of a kind were started, each as often as it is registered and in that order, and
each, called through the interface of its kind with the given request, succeeded. -/
def AllPassed (kind : Kind) (handlers : List Handler) (request : String × Json.Members × Uuid)
    (steps : List Step) : Prop :=
  (steps.filter (·.handler.kind = kind)).map Step.handler = handlers.filter (·.kind = kind) ∧
    ∀ s ∈ steps, s.handler.kind = kind →
      s.call.via = some kind.interface ∧ s.seen.request = request ∧ s.Succeeded

section

variable {handlers : List Handler} {ctx : Context} {run : Run} {before after : List Step} {s : Step}
variable (hrun : Runs (phases handlers) ctx run) (hkeep : ∀ h ∈ handlers, h.KeepsToKind)
include hrun

/-- Behind a handler that is no mutator there is no mutator. -/
theorem Runs.ne_mutator_after (hsplit : run.steps = before ++ s :: after)
    (hs : s.handler.kind ≠ .mutator) : ∀ t ∈ s :: after, t.handler.kind ≠ .mutator := by
  intro t ht
  rcases List.mem_cons.1 ht with rfl | ht
  · exact hs
  · obtain ⟨rest, _, hafter, hle⟩ := hrun.priority_le hsplit
    have hlater : s.handler.kind.priority ≤ t.handler.kind.priority :=
      hle t.handler (hafter t ht)
    exact Kind.ne_mutator_iff.2 (Nat.lt_of_lt_of_le (Kind.ne_mutator_iff.1 hs) hlater)

include hkeep

theorem Runs.keepsToKind (hs : s ∈ run.steps) : s.handler.KeepsToKind :=
  hkeep s.handler (mem_phases.1 (hrun.handler_mem hs))

/-- A handler that is no mutator leaves the request as it found it. -/
theorem Runs.request_call (hs : s ∈ run.steps) (hk : s.handler.kind ≠ .mutator) :
    s.call.context.request = s.seen.request :=
  Step.request_call (hrun.follows.calls hs) ((hrun.keepsToKind hkeep hs).mutate_eq_none hk)

/-- Whatever is shown to a handler that is no mutator is the request that the run ends with. -/
theorem Runs.request_seen (hs : s ∈ run.steps) (hk : s.handler.kind ≠ .mutator) :
    s.seen.request = run.context.request := by
  obtain ⟨before, after, hsplit⟩ := List.append_of_mem hs
  have hfollows : Follows ctx (before ++ s :: after) := hsplit ▸ hrun.follows
  have hsame : ∀ t ∈ s :: after, t.call.context.request = t.seen.request := by
    intro t ht
    have hmem : t ∈ run.steps := hsplit ▸ List.mem_append_right _ ht
    exact hrun.request_call hkeep hmem (hrun.ne_mutator_after hsplit hk t ht)
  calc
    s.seen.request = (contextAfter ctx before).request := by rw [hfollows.seen_eq]
    _ = (contextAfter (contextAfter ctx before) (s :: after)).request :=
      (request_contextAfter hfollows.append_right hsame).symm
    _ = run.context.request := by rw [← contextAfter_append, ← hsplit, ← hrun.context_eq]

/-- When a handler is started, the handlers of an earlier phase other than that of the mutators
have all succeeded on the request that the run ends with. -/
theorem Runs.allPassed_before (hsplit : run.steps = before ++ s :: after) {kind : Kind}
    (hk : kind ≠ .mutator) (hlt : kind.priority < s.handler.kind.priority) :
    AllPassed kind handlers run.context.request before := by
  constructor
  · have hall : ofKind kind (before.map Step.handler) = ofKind kind handlers :=
      hrun.ofKind_before hsplit hlt
    rwa [ofKind, List.filter_map] at hall
  · intro t ht htk
    have hmem : t ∈ run.steps := hsplit ▸ List.mem_append_left _ ht
    have hok : t.Succeeded := hrun.succeeded_before hsplit t ht
    have hvia := Step.via_of_succeeded (hrun.follows.calls hmem) (hrun.keepsToKind hkeep hmem) hok
    rw [htk] at hvia
    exact ⟨hvia, hrun.request_seen hkeep hmem (htk ▸ hk), hok⟩

end

/-- Where each handler offers no interface but that of its kind, the mutators settle what a command
is asked to do. From the first other handler on the request stays as it is, and it is the request
that the run ends with. When an internal handler is started, all validators have accepted that
request, and when an observer is, all internal handlers have succeeded on it besides. -/
theorem execute_agreement {r : Registry} {ctx : Context} {handlers : List Handler}
    (hr : r.handlers? ctx.commandName = some handlers)
    (hkeep : ∀ h ∈ handlers, h.KeepsToKind) :
    let run := r.execute ctx
    ∀ before s after, run.steps = before ++ s :: after → s.handler.kind ≠ .mutator →
      -- what this handler and all after it are shown, and what they leave
      (∀ t ∈ s :: after, t.handler.kind ≠ .mutator ∧
        t.seen.request = run.context.request ∧ t.call.context.request = run.context.request) ∧
      -- what went before it
      (s.handler.kind = .internal → AllPassed .validator handlers run.context.request before) ∧
      (s.handler.kind = .observer → AllPassed .validator handlers run.context.request before ∧
        AllPassed .internal handlers run.context.request before) := by
  intro run before s after hsplit hs
  have hrun : Runs (phases handlers) { ctx with result := none } run := Registry.runs_execute hr
  refine ⟨?_, ?_, ?_⟩
  · intro t ht
    have hmem : t ∈ run.steps := hsplit ▸ List.mem_append_right _ ht
    have hk : t.handler.kind ≠ .mutator := hrun.ne_mutator_after hsplit hs t ht
    have hseen := hrun.request_seen hkeep hmem hk
    exact ⟨hk, hseen, (hrun.request_call hkeep hmem hk).trans hseen⟩
  · intro hinternal
    exact hrun.allPassed_before hkeep hsplit (by decide) (by rw [hinternal]; decide)
  · intro hobserver
    exact ⟨hrun.allPassed_before hkeep hsplit (by decide) (by rw [hobserver]; decide),
      hrun.allPassed_before hkeep hsplit (by decide) (by rw [hobserver]; decide)⟩

/-- Gives the resource and the command another name. -/
def redirecting : Handler :=
  .scripted "redirecting" .mutator [.mutate] [.set "resource" (.string "v1/nodes"), .rename "other"]

/-- Asks for a resource to be given. -/
def checking : Handler :=
  .scripted "checking" .validator [.validate] [.require "resource"]

/-- Answers with the resource. -/
def answering : Handler :=
  .scripted "answering" .internal [.execute] [.answerParam "resource"]

/-- A command whose only mutator is registered last. -/
def inspection : Registry := ⟨[("inspect", [watching, answering, checking, redirecting])]⟩

/-- Asks for another resource than the one that is inspected in the end. -/
def inspectionContext : Context where
  commandName := "inspect"
  parameters := [("resource", .string "v1/pods")]
  activityId := .nil

/-- A script decides nothing about the interface, so only the ones that are offered count. -/
theorem Handler.keepsToKind_scripted {label : String} {kind : Kind} {interfaces : List Interface}
    {script : List Instruction} (hown : ∀ i ∈ interfaces, i = kind.interface) :
    (Handler.scripted label kind interfaces script).KeepsToKind := by
  intro i hi
  apply hown
  by_contra hnot
  cases i <;> exact hi (if_neg hnot)

theorem keepsToKind_inspection :
    ∀ h ∈ [watching, answering, checking, redirecting], h.KeepsToKind := by
  simp only [List.forall_mem_cons, List.not_mem_nil, false_imp_iff, implies_true, and_true]
  exact ⟨Handler.keepsToKind_scripted (by decide), Handler.keepsToKind_scripted (by decide),
    Handler.keepsToKind_scripted (by decide), Handler.keepsToKind_scripted (by decide)⟩

/-- The observer is shown the resource that was checked and answered. -/
theorem execute_agreement_inspection :
    inspection.handlers? inspectionContext.commandName =
        some [watching, answering, checking, redirecting] ∧
      (∀ h ∈ [watching, answering, checking, redirecting], h.KeepsToKind) ∧
      ∃ before s, (inspection.execute inspectionContext).steps = before ++ [s] ∧
        s.handler.kind = .observer ∧ s.seen.parameters = [("resource", .string "v1/nodes")] ∧
        AllPassed .validator [watching, answering, checking, redirecting]
          (inspection.execute inspectionContext).context.request before ∧
        AllPassed .internal [watching, answering, checking, redirecting]
          (inspection.execute inspectionContext).context.request before := by
  have hr : inspection.handlers? inspectionContext.commandName =
      some [watching, answering, checking, redirecting] := rfl
  have hsteps : ∃ first second third last,
      (inspection.execute inspectionContext).steps = [first, second, third] ++ [last] ∧
        last.handler.kind = .observer ∧
        last.seen.parameters = [("resource", .string "v1/nodes")] := by
    rw [Registry.execute_eq hr]
    exact ⟨_, _, _, _, rfl, rfl, rfl⟩
  obtain ⟨first, second, third, last, hsplit, hkind, hparameters⟩ := hsteps
  obtain ⟨_, _, hobserver⟩ := execute_agreement hr keepsToKind_inspection _ last [] hsplit
    (by rw [hkind]; decide)
  exact ⟨hr, keepsToKind_inspection, _, last, hsplit, hkind, hparameters, hobserver hkind⟩

end ResourceInspector.Command
