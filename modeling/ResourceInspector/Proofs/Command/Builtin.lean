import ResourceInspector.Proofs.Command.Provenance
import ResourceInspector.Proofs.Command.Reading
/-!
# What the builtin handlers have in common

Three properties of a handler that a run inherits from the handlers it is made of, and which of the
builtin handlers have them.

* `Leaves`: the context stays as it is. All have it but the one that `gvr` starts with.
* `IgnoresActivity`: apart from the log nothing depends on the activity. All have it.
* `Finds`: there is no success without a value. Each builtin command has such a handler, and so no
  builtin command succeeds without a result (`Registry.exists_of_outcome_builtin`).
-/

namespace ResourceInspector.Command

variable {revision : Option String}

/-! ## Leaving the context -/

/-- A handler that leaves the context as it finds it. -/
def Handler.Leaves (h : Handler) : Prop :=
  ∀ ctx, (h.call ctx).context = ctx

/-- An execution has no say in the context. It could only cancel. -/
theorem Handler.leaves_executing {kind : Kind} {body : Context → Reply}
    (hquiet : ∀ ctx, (body ctx).cancels = false) : (Handler.executing kind body).Leaves := by
  intro ctx
  show { ctx with cancelled := ctx.cancelled || (body ctx).cancels } = ctx
  rw [hquiet, Bool.or_false]

theorem Builtin.leaves_can : can.Leaves := by
  apply Handler.leaves_executing
  intro ctx
  split <;> rfl

/-- No handler that comes with the program touches the context, those of `gvr` apart. -/
theorem Registry.leaves_of_mem_builtin {name : String} {h : Handler} (hname : name ≠ "gvr")
    (hh : h ∈ ((builtin revision).handlers? name).getD []) : h.Leaves := by
  refine forall_mem_handlers? (P := fun name h => name ≠ "gvr" → h.Leaves) ?_ hh hname
  rw [builtin_entries]
  simp only [List.forall_mem_cons, List.not_mem_nil, false_imp_iff, implies_true, and_true]
  exact ⟨fun _ => Handler.leaves_executing fun _ => rfl,
    ⟨fun _ => Builtin.leaves_can, fun _ => Handler.leaves_executing fun _ => rfl⟩,
    by simp, fun _ => Handler.leaves_executing fun _ => rfl,
    fun _ => Handler.leaves_executing fun _ => rfl⟩

/-- A run of handlers that leave the context has only a result to add to it. -/
theorem Runs.context_of_leaves {handlers : List Handler} {ctx : Context} {run : Run}
    (hrun : Runs handlers ctx run) (hleave : ∀ h ∈ handlers, h.Leaves) :
    run.context = { ctx with result := run.context.result } := by
  induction hrun with
  | done => rfl
  | cancelled => rfl
  | @failed h _ ctx =>
    have hsame : (h.call ctx).context = ctx := hleave h List.mem_cons_self ctx
    dsimp only
    rw [hsame]
  | @next h rest ctx _ run _ _ _ ih =>
    have hsame : (h.call ctx).context = ctx := hleave h List.mem_cons_self ctx
    calc
      run.context = { settle h.kind (h.call ctx) with result := run.context.result } :=
        ih (List.forall_mem_cons.1 hleave).2
      _ = { ctx with result := run.context.result } := by rw [settle_eq, hsame]

/-! ## Ignoring the activity -/

/-- The context as it would be in another activity. -/
def Context.inActivity (ctx : Context) (id : Uuid) : Context :=
  { ctx with activityId := id }

/-- A handler to which the activity makes no difference, what it reports apart. -/
def Handler.IgnoresActivity (h : Handler) : Prop :=
  ∀ ctx id, (h.call (ctx.inActivity id)).answer = (h.call ctx).answer ∧
    (h.call (ctx.inActivity id)).context = (h.call ctx).context.inActivity id

theorem Handler.ignoresActivity_of_reply {h : Handler} {via : Interface} {body : Context → Reply}
    (hcall : ∀ ctx, h.call ctx = .ofReply via ctx (body ctx))
    (hanswer : ∀ ctx id, (body (Context.inActivity ctx id)).answer = (body ctx).answer)
    (hcancels : ∀ ctx id, (body (Context.inActivity ctx id)).cancels = (body ctx).cancels) :
    h.IgnoresActivity := by
  intro ctx id
  rw [hcall, hcall]
  refine ⟨hanswer ctx id, ?_⟩
  simp only [Call.ofReply, hcancels]
  rfl

/-- Which path the parameters give, if any, does not depend on the activity. -/
theorem Builtin.ignoresActivity_joinGroupVersion : joinGroupVersion.IgnoresActivity := by
  intro ctx id
  rcases gives_or_declines ctx.parameters with ⟨path, after, h⟩ | ⟨e, h⟩
  · have h' : Gives (ctx.inActivity id).parameters path after := h
    rw [joinGroupVersion_call_of_gives h, joinGroupVersion_call_of_gives h']
    exact ⟨rfl, rfl⟩
  · have h' : Declines (ctx.inActivity id).parameters e := h
    rw [joinGroupVersion_call_of_declines h, joinGroupVersion_call_of_declines h']
    exact ⟨rfl, rfl⟩

/-- No handler that comes with the program answers by the activity. -/
theorem Registry.ignoresActivity_of_mem_builtin {name : String} {h : Handler}
    (hh : h ∈ ((builtin revision).handlers? name).getD []) : h.IgnoresActivity := by
  refine forall_mem_handlers? (P := fun _ h => h.IgnoresActivity) ?_ hh
  rw [builtin_entries]
  simp only [List.forall_mem_cons, List.not_mem_nil, false_imp_iff, implies_true, and_true]
  refine ⟨?_, ⟨?_, ?_⟩, ⟨Builtin.ignoresActivity_joinGroupVersion, ?_, ?_⟩, ?_, ?_⟩
  all_goals
    exact Handler.ignoresActivity_of_reply (fun _ => rfl) (fun _ _ => rfl) (fun _ _ => rfl)

/-- Recording a result is the same in every activity. -/
theorem settle_inActivity {kind : Kind} {call call' : Call} {id : Uuid}
    (hvia : call'.via = call.via) (hanswer : call'.answer = call.answer)
    (hcontext : call'.context = call.context.inActivity id) :
    settle kind call' = (settle kind call).inActivity id := by
  have hvalue : call'.value = call.value := by rw [Call.value, Call.value, hvia, hanswer]
  have hresult : call'.context.result = call.context.result := by
    rw [hcontext]
    rfl
  unfold settle
  rw [hvalue, hresult, hcontext]
  split <;> rfl

/-- What a command answers does not depend on the activity, if none of its handlers does. -/
theorem runHandlers_inActivity {handlers : List Handler} (hall : ∀ h ∈ handlers, h.IgnoresActivity)
    (ctx : Context) (id : Uuid) :
    (runHandlers handlers (ctx.inActivity id)).outcome = (runHandlers handlers ctx).outcome := by
  induction handlers generalizing ctx with
  | nil => rfl
  | cons h rest ih =>
    obtain ⟨hh, hrest⟩ := List.forall_mem_cons.1 hall
    obtain ⟨hanswer, hcontext⟩ := hh ctx id
    cases hc : ctx.cancelled with
    | true =>
      have hc' : (ctx.inActivity id).cancelled = true := hc
      simp only [runHandlers, hc, hc', if_true]
      rfl
    | false =>
      have hc' : (ctx.inActivity id).cancelled = false := hc
      cases ha : (h.call ctx).answer with
      | error e =>
        rw [runHandlers_of_error hc ha, runHandlers_of_error hc' (hanswer.trans ha)]
      | ok value =>
        have hvia : (h.call (ctx.inActivity id)).via = (h.call ctx).via := by
          rw [h.call_via, h.call_via]
        rw [runHandlers_of_ok hc ha, runHandlers_of_ok hc' (hanswer.trans ha),
          settle_inActivity hvia hanswer hcontext]
        exact ih hrest _

/-- A builtin command answers the same in every activity. -/
theorem Registry.outcome_inActivity (ctx : Context) (id : Uuid) :
    ((builtin revision).execute (ctx.inActivity id)).outcome =
      ((builtin revision).execute ctx).outcome := by
  cases hr : (builtin revision).handlers? ctx.commandName with
  | none =>
    have hr' : (builtin revision).handlers? (ctx.inActivity id).commandName = none := hr
    simp only [execute, hr, hr']
    rfl
  | some handlers =>
    have hr' : (builtin revision).handlers? (ctx.inActivity id).commandName = some handlers := hr
    have hall : ∀ h ∈ phases handlers, h.IgnoresActivity :=
      forall_mem_phases hr fun _ => ignoresActivity_of_mem_builtin
    rw [execute_eq hr, execute_eq hr']
    exact runHandlers_inActivity hall { ctx with result := none } id

/-! ## Finding a value -/

/-- An internal handler that has a value for the command whenever it succeeds. -/
structure Handler.Finds (h : Handler) : Prop where
  kind_eq : h.kind = .internal
  exists_value : ∀ ctx result, (h.call ctx).answer = .ok result → ∃ v, (h.call ctx).value = some v

/-- An execution finds a value if its answer has one whenever it is no failure. -/
theorem Handler.finds_executing {body : Context → Reply}
    (hbody : ∀ ctx result, (body ctx).answer = .ok result → ∃ v, result = some v) :
    (Handler.executing .internal body).Finds := by
  refine ⟨rfl, ?_⟩
  intro ctx result ha
  have hanswer : (body ctx).answer = .ok result := ha
  rcases hbody ctx result hanswer with ⟨v, rfl⟩
  refine ⟨v, ?_⟩
  show (Call.ofReply .execute ctx (body ctx)).value = some v
  simp only [Call.value, Call.ofReply, hanswer]

/-- A run that succeeds has a result if one of its handlers finds it. -/
theorem Runs.exists_of_finds {handlers : List Handler} {ctx : Context} {run : Run}
    {result : Option Json} (hrun : Runs handlers ctx run) (hstart : ctx.result = none)
    (hkeep : ∀ h ∈ handlers, h.KeepsResult) (hfinds : ∃ h ∈ handlers, h.Finds)
    (hok : run.outcome = .ok result) : ∃ v, result = some v := by
  rcases hfinds with ⟨h, hh, hfinds⟩
  rcases hrun.outcome_ok_iff.1 ⟨result, hok⟩ with ⟨hall, hsucceeded⟩
  rw [← hall] at hh
  rcases List.mem_map.1 hh with ⟨s, hs, rfl⟩
  rcases hsucceeded s hs with ⟨value, ha⟩
  rw [hrun.follows.call_eq hs] at ha
  rcases hfinds.exists_value s.seen value ha with ⟨v, hv⟩
  have hfound : s.found? = some v := by
    rw [Step.found?_eq_ite, if_pos hfinds.kind_eq, hrun.follows.call_eq hs, hv]
  rw [hrun.value_eq hok, hrun.result_eq hstart hkeep]
  apply Option.isSome_iff_exists.1
  exact List.findSome?_isSome_iff.2 ⟨s, hs, by rw [hfound]; rfl⟩

/-- What a computation comes to is shown as a value. -/
theorem Handler.finds_executing_map {α : Type} (read : Context → Except Failure α)
    (shown : α → Json) :
    (Handler.executing .internal fun ctx =>
      { answer := (read ctx).map fun a => some (shown a) }).Finds := by
  apply Handler.finds_executing
  intro ctx result ha
  rcases map_eq_ok_iff.1 ha with ⟨a, _, rfl⟩
  exact ⟨_, rfl⟩

theorem Builtin.finds_can : can.Finds := by
  apply Handler.finds_executing
  intro ctx result ha
  cases hq : question ctx with
  | ok pair =>
    simp only [hq] at ha
    cases ha
    exact ⟨_, rfl⟩
  | error e =>
    simp only [hq] at ha
    cases ha

theorem Registry.exists_finds_builtin {name : String} {handlers : List Handler}
    (hr : (builtin revision).handlers? name = some handlers) : ∃ h ∈ handlers, h.Finds := by
  have hall : ∀ entry ∈ (builtin revision).entries, ∃ h ∈ entry.2, h.Finds := by
    rw [builtin_entries]
    simp only [List.forall_mem_cons, List.not_mem_nil, false_imp_iff, implies_true, and_true]
    have hactions : Builtin.actions.Finds :=
      Handler.finds_executing fun _ _ ha => ⟨_, (Except.ok.inj ha).symm⟩
    have hversion : (Builtin.version revision).Finds :=
      Handler.finds_executing fun _ _ ha => ⟨_, (Except.ok.inj ha).symm⟩
    exact ⟨⟨Builtin.actions, by simp, hactions⟩, ⟨Builtin.can, by simp, Builtin.finds_can⟩,
      ⟨Builtin.describe, by simp, Handler.finds_executing_map _ _⟩,
      ⟨Builtin.sort, by simp, Handler.finds_executing_map _ _⟩,
      ⟨Builtin.version revision, by simp, hversion⟩⟩
  exact hall (name, handlers) (mem_entries hr)

/-- A builtin command that succeeds has a result. -/
theorem Registry.exists_of_outcome_builtin {ctx : Context} {result : Option Json}
    (hok : ((builtin revision).execute ctx).outcome = .ok result) : ∃ v, result = some v := by
  cases hr : (builtin revision).handlers? ctx.commandName with
  | none =>
    simp only [execute, hr] at hok
    cases hok
  | some handlers =>
    have hkeep : ∀ h ∈ phases handlers, h.KeepsResult :=
      forall_mem_phases hr fun _ => keepsResult_of_mem_builtin
    have hfinds : ∃ h ∈ phases handlers, h.Finds := by
      simpa only [mem_phases] using exists_finds_builtin hr
    exact (runs_execute hr).exists_of_finds rfl hkeep hfinds hok

end ResourceInspector.Command
