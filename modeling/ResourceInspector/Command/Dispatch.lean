import ResourceInspector.Command.Handler
/-!
# Dispatch

A command runs its handlers phase by phase, and inside a phase in the order they were registered.
The first value that an internal handler finds becomes the result, which later handlers see. The run
stops at the first handler that fails and before any handler once the activity is cancelled.
-/

namespace ResourceInspector.Command

/-- A handler that was started: the context it found and the call that was made. -/
structure Step where
  handler : Handler
  seen : Context
  call : Call

namespace Step

/-- The event that reports the start of a handler. -/
def startEvent (s : Step) : Log.Event where
  level := .debug
  target := "kscope_runtime::command"
  message := "running command handler"
  fields :=
    [("command", .shown s.seen.commandName),
     ("activity_id", .shown s.seen.activityId.toText),
     ("handler_type", .quoted s.handler.kind.name)]

/-- All events of a started handler, in order. -/
def events (s : Step) : List Log.Event :=
  s.startEvent :: s.call.events

end Step

/-- A run of a command: how it ended, the context it left and the handlers it started. -/
structure Run where
  outcome : Answer
  context : Context
  steps : List Step

def Run.events (r : Run) : List Log.Event :=
  r.steps.flatMap Step.events

/-- The context after a call that succeeded. A value that an internal handler found is kept unless
there is a result already. -/
def settle (kind : Kind) (call : Call) : Context :=
  if kind = .internal ∧ call.context.result.isNone then
    { call.context with result := call.value }
  else call.context

/-- Runs handlers one after the other. -/
def runHandlers : List Handler → Context → Run
  | [], ctx => ⟨.ok ctx.result, ctx, []⟩
  | h :: rest, ctx =>
    if ctx.cancelled then ⟨.error (.cancelled ctx.commandName), ctx, []⟩
    else
      let call := h.call ctx
      let step : Step := ⟨h, ctx, call⟩
      match call.answer with
      | .error e => ⟨.error e, call.context, [step]⟩
      | .ok _ =>
        let run := runHandlers rest (settle h.kind call)
        { run with steps := step :: run.steps }

/-- The order of phases, as a test for not coming after. -/
def phaseLe (a b : Handler) : Bool :=
  a.kind.priority ≤ b.kind.priority

/-- The handlers phase by phase, in the order given inside a phase. -/
def inPhases (handlers : List Handler) : List Handler :=
  handlers.mergeSort phaseLe

/-- Runs the handlers of a command. A result left over from an earlier run is dropped first. -/
def dispatch (handlers : List Handler) (ctx : Context) : Run :=
  runHandlers (inPhases handlers) { ctx with result := none }

end ResourceInspector.Command
