import ResourceInspector.Command.Registry
import ResourceInspector.CommandLine.Invocation
import ResourceInspector.Log.Filter
import ResourceInspector.Log.Line
import ResourceInspector.Report.Basic
import ResourceInspector.Settings
/-!
# The program

A run of the program as a function: from the command line and the files there are to an exit code
and what is written. Results are written to the standard output, and everything else, log lines
among it, to the standard error.
-/

namespace ResourceInspector.Program

open ResourceInspector.CommandLine (Invocation)
open ResourceInspector.Command (Failure Registry)

structure Outcome where
  exitCode : Nat := 0
  /-- The text written to the standard output. -/
  output : String := ""
  /-- The messages written to the standard error, with a line break after each. -/
  messages : List String := []
deriving Repr, DecidableEq

/-! ## Logging -/

/-- The filter used where no other can be read. -/
def fallbackLevel : String := "info"

def filterWarning (level : String) (cause : Log.FilterError) : String :=
  "Invalid log level " ++ Text.quote level ++ " (" ++ cause.message ++ "), using "
    ++ Text.quote fallbackLevel

/-- The filter of a text, and a warning if it is not the one that was asked for. -/
def filterOf (level : String) : Log.Filter × List String :=
  match Log.Filter.parse level with
  | .ok filter => (filter, [])
  | .error cause => (.ofDirectives [.ofWord fallbackLevel], [filterWarning level cause])

/-- The event that a command is about to run. -/
def startEvent (ctx : Command.Context) : Log.Event where
  level := .debug
  target := "kscope"
  message := "executing command"
  fields :=
    [("command", .shown ctx.commandName), ("activity_id", .shown ctx.activityId.toText)]

def failureEvent (ctx : Command.Context) (failure : Failure) : Log.Event where
  level := .error
  target := "kscope"
  message := "command failed"
  fields := [("command", .shown ctx.commandName), ("error", .shown failure.summary)]

/-! ## Running -/

/-- Runs what was asked for. What the command line says goes before the settings. -/
def perform (invocation : Invocation) (settings : Settings) (activityId : Uuid)
    (revision : Option String) : Outcome :=
  let (filter, warnings) := filterOf (invocation.logLevel.getD settings.logLevel)
  let logged := fun events => (events.filter filter.admits).map Log.Event.line
  let ctx := invocation.request.context activityId
  let run := (Registry.builtin revision).execute ctx
  let messages := warnings ++ logged (startEvent ctx :: run.events)
  match run.outcome with
  | .ok result =>
    let format := invocation.output.getD settings.output
    let pretty := invocation.pretty || settings.pretty
    { output := ((result.map (Report.render · format pretty ++ "\n")).getD "")
      messages := messages }
  | .error failure =>
    { exitCode := 1
      messages := messages ++ logged [failureEvent run.context failure]
        ++ ["Error executing command: " ++ failure.message] }

/-- Runs the program, as it was built from a revision. `environment` is the path of the
configuration file that the environment names. -/
def run (files : Settings.Files) (environment : Option String) (activityId : Uuid)
    (args : List String) (revision : Option String := Command.Builtin.revision) : Outcome :=
  match Invocation.parse args with
  | .error (.help topic) => { output := CommandLine.grammar.help topic }
  | .error cause => { exitCode := 2, messages := ["error: " ++ cause.message] }
  | .ok invocation =>
    match Settings.load files invocation.config environment with
    | .error cause => { exitCode := 1, messages := ["Error: " ++ cause.message] }
    | .ok settings => perform invocation settings activityId revision

end ResourceInspector.Program
