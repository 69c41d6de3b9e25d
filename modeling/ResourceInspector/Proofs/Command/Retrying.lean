import ResourceInspector.Proofs.Command.Builtin
import ResourceInspector.Proofs.Command.Cancellation
/-!
# Running a command again

A command that was run can be run again on the context that it left, and comes to the same end
(`execute_again`). All commands but `gvr` leave the context as they find it, except for the result,
which the next run drops, so that the second run is the first one over again. `gvr` joins two of its
parameters into one. The joined path is then a resource on its own, and what is read from it is the
same.
-/

namespace ResourceInspector.Command

variable {revision : Option String}

/-! ## Commands that leave the context -/

namespace Registry

/-- A command that has only a result to add to the context goes the same way again. -/
theorem execute_context {r : Registry} {ctx : Context}
    (hsame : (r.execute ctx).context = { ctx with result := (r.execute ctx).context.result }) :
    r.execute (r.execute ctx).context = r.execute ctx := by
  cases hr : r.handlers? ctx.commandName with
  | none =>
    have hnone : r.execute ctx = ⟨.error (.notFound ctx.commandName), ctx, []⟩ := by
      simp only [execute, hr]
    rw [hnone]
    exact hnone
  | some handlers =>
    rw [hsame]
    generalize (r.execute ctx).context.result = result
    have hr' : r.handlers? { ctx with result := result }.commandName = some handlers := hr
    -- the result that was added is dropped at the start
    rw [execute_eq hr', execute_eq hr]

/-- A run of a builtin command has only a result to add to the context, unless it is one of `gvr`
that comes to a path. -/
theorem context_eq_or_gives (ctx : Context) :
    ((builtin revision).execute ctx).context =
        { ctx with result := ((builtin revision).execute ctx).context.result } ∨
      ctx.commandName = "gvr" ∧ ctx.cancelled = false ∧
        ∃ path after, Gives ctx.parameters path after := by
  cases hr : (builtin revision).handlers? ctx.commandName with
  | none =>
    left
    simp only [execute, hr]
  | some handlers =>
    by_cases hname : ctx.commandName = "gvr"
    · rcases Bool.eq_false_or_eq_true ctx.cancelled with hc | hc
      · left
        have hne : handlers ≠ [] := by
          rw [hname] at hr
          rintro rfl
          cases hr
        rw [← executeAmid_never, executeAmid_of_cancelled _ hr hne hc]
      · rcases gives_or_declines ctx.parameters with hgives | ⟨e, hdeclines⟩
        · exact Or.inr ⟨hname, hc, hgives⟩
        · left
          have hrun : GvrRun { ctx with result := none } ((builtin revision).execute ctx) :=
            gvrRun_execute hname hc
          have hparameters := (hrun.of_not_gives fun _ _ => hdeclines.not_gives).2
          rw [hrun.context_eq, hparameters]
    · left
      have hleave : ∀ h ∈ phases handlers, h.Leaves :=
        forall_mem_phases hr fun _ => leaves_of_mem_builtin hname
      exact (runs_execute hr).context_of_leaves hleave

end Registry

/-! ## Reading a path again -/

/-- A path that was given is given again by what the parameters were replaced by. -/
theorem Gives.again {parameters after : Json.Members} {path : String}
    (h : Gives parameters path after) : Gives after path after :=
  .whole h.find?_groupVersion h.find?_resource

theorem Answers.unique {read : Except Identifier.Malformed Identifier} {path : String}
    {answer answer' : Answer} (h : Answers read path answer) (h' : Answers read path answer') :
    answer = answer' := by
  cases read with
  | ok id => rw [(h.described id).2 rfl, (h'.described id).2 rfl]
  | error e => rw [(h.malformed e).2 rfl, (h'.malformed e).2 rfl]

/-- Two runs of `gvr` that come to the same path, the second on the context that the first left. -/
theorem execute_gvr_again {ctx : Context} {path : String} {after : Json.Members}
    (hname : ctx.commandName = "gvr") (hc : ctx.cancelled = false)
    (h : Gives ctx.parameters path after) :
    let run := (Registry.builtin revision).execute ctx
    let again := (Registry.builtin revision).execute run.context
    again.outcome = run.outcome ∧ again.context = run.context := by
  intro run again
  have hrun : GvrRun { ctx with result := none } run := gvrRun_execute hname hc
  rcases hrun.of_gives h with ⟨hanswer, hafter⟩
  have hcontext := hrun.context_eq
  have hname' : run.context.commandName = "gvr" := by
    rw [hcontext]
    exact hname
  have hc' : run.context.cancelled = false := by
    rw [hcontext]
    exact hc
  have hrun' : GvrRun { run.context with result := none } again := gvrRun_execute hname' hc'
  have hgives : Gives run.context.parameters path after := by
    rw [hafter]
    exact h.again
  rcases hrun'.of_gives hgives with ⟨hanswer', hafter'⟩
  have hout : again.outcome = run.outcome := hanswer'.unique hanswer
  refine ⟨hout, ?_⟩
  calc
    again.context =
        { run.context with parameters := after, result := again.outcome.toOption.join } := by
      rw [hrun'.context_eq, hafter']
    _ = { ctx with parameters := after, result := run.outcome.toOption.join } := by
      rw [hcontext, hout]
    _ = run.context := by rw [hcontext, hafter]

/-- Running a builtin command again, on the context that it left, gives the same answer and leaves
the same context, whatever the command was asked and whether it succeeded or not. No run renames the
command, moves it to another activity, cancels the activity or takes a cancellation back, and all
that ever happens to the parameters is that `gvr` joins the group and version into the resource. -/
theorem execute_again (ctx : Context) :
    let run := (Registry.builtin revision).execute ctx
    let again := (Registry.builtin revision).execute run.context
    again.outcome = run.outcome ∧ again.context = run.context ∧
    -- what a run does to the context, the result apart
    run.context.commandName = ctx.commandName ∧ run.context.activityId = ctx.activityId ∧
    run.context.cancelled = ctx.cancelled ∧
    (run.context.parameters = ctx.parameters ∨
      ctx.commandName = "gvr" ∧ ∃ gv r,
        ctx.parameters.find? "groupVersion" = some (.string gv) ∧
        ctx.parameters.find? "resource" = some (.string r) ∧
        run.context.parameters =
          Json.Members.insert "resource" (.string (Path.join [gv, r]))
            (ctx.parameters.erase "groupVersion")) := by
  intro run again
  rcases Registry.context_eq_or_gives ctx with hsame | ⟨hname, hc, path, after, hgives⟩
  · have hagain : again = run := Registry.execute_context hsame
    have hcontext : run.context = { ctx with result := run.context.result } := hsame
    refine ⟨by rw [hagain], by rw [hagain], ?_⟩
    rw [hcontext]
    exact ⟨rfl, rfl, rfl, Or.inl rfl⟩
  · have hrun : GvrRun { ctx with result := none } run := gvrRun_execute hname hc
    rcases execute_gvr_again hname hc hgives with ⟨hout, hcontext⟩
    refine ⟨hout, hcontext, ?_⟩
    have hafter : run.context.parameters = after := (hrun.of_gives hgives).2
    rw [hafter, hrun.context_eq]
    refine ⟨rfl, rfl, rfl, ?_⟩
    cases hgives with
    | whole => exact Or.inl rfl
    | joined hgv hr => exact Or.inr ⟨hname, _, _, hgv, hr, rfl⟩

end ResourceInspector.Command
