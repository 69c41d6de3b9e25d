import ResourceInspector.Program
import ResourceInspector.Proofs.Command.Builtin
/-!
# The output and the exit code

A run of the program writes its result to the standard output and everything else to the standard
error. `run_output` says which result that is and when there is none. It is made of the answer of
the command and of nothing else (`perform_eq_shown`), so that the log filter and the activity have
no part in it, and a configuration file that is given is the only one that is read
(`Settings.load_given`).
-/

namespace ResourceInspector

/-- A file that is given is read, and no other. -/
theorem Settings.load_given {files files' : Settings.Files} {path : String}
    (hfile : files' path = files path) (environment environment' : Option String) :
    Settings.load files' (some path) environment' =
      Settings.load files (some path) environment := by
  show Settings.ofFile files' path = Settings.ofFile files path
  rw [Settings.ofFile, Settings.ofFile, hfile]

namespace Program

open ResourceInspector.CommandLine (Invocation)
open ResourceInspector.Command (Registry)

variable {revision : Option String}

/-! ## Running what was asked for -/

/-- The exit code and the output that an answer comes to. -/
def shown (format : Report.Format) (pretty : Bool) : Command.Answer → Nat × String
  | .ok (some value) => (0, Report.render value format pretty ++ "\n")
  | .ok none => (0, "")
  | .error _ => (1, "")

/-- The answer of the command is all that the exit code and the output are made of. The format is
that of the command line, or else that of the settings. -/
theorem perform_eq_shown (invocation : Invocation) (settings : Settings) (activityId : Uuid)
    (revision : Option String) :
    ((perform invocation settings activityId revision).exitCode,
        (perform invocation settings activityId revision).output) =
      shown (invocation.output.getD settings.output) (invocation.pretty || settings.pretty)
        ((Registry.builtin revision).execute (invocation.request.context activityId)).outcome := by
  unfold perform
  dsimp only
  cases ((Registry.builtin revision).execute (invocation.request.context activityId)).outcome with
  | ok result => cases result <;> rfl
  | error failure => rfl

/-- What is asked for comes out the same under any log filter and in any activity. -/
theorem perform_output_congr (invocation : Invocation) (settings : Settings)
    (level : Option String) (activityId activityId' : Uuid) :
    (perform { invocation with logLevel := level } settings activityId' revision).exitCode =
        (perform invocation settings activityId revision).exitCode ∧
      (perform { invocation with logLevel := level } settings activityId' revision).output =
        (perform invocation settings activityId revision).output := by
  have hsame :
      ((Registry.builtin revision).execute (invocation.request.context activityId')).outcome =
        ((Registry.builtin revision).execute (invocation.request.context activityId)).outcome :=
    Registry.outcome_inActivity (invocation.request.context activityId) activityId'
  have hshown := perform_eq_shown invocation settings activityId revision
  have hshown' :=
    perform_eq_shown { invocation with logLevel := level } settings activityId' revision
  rw [hsame] at hshown'
  exact Prod.ext_iff.1 (hshown'.trans hshown.symm)

/-! ## Runs of the program -/

section

variable {args : List String} {invocation : Invocation} {environment : Option String}
variable {files : Settings.Files} {activityId : Uuid}

theorem run_of_load_error (hparse : Invocation.parse args = .ok invocation)
    {cause : Settings.LoadError}
    (hload : Settings.load files invocation.config environment = .error cause) :
    run files environment activityId args revision =
      { exitCode := 1, messages := ["Error: " ++ cause.message] } := by
  simp only [run, hparse, hload]

theorem run_of_load_ok (hparse : Invocation.parse args = .ok invocation) {settings : Settings}
    (hload : Settings.load files invocation.config environment = .ok settings) :
    run files environment activityId args revision =
      perform invocation settings activityId revision := by
  simp only [run, hparse, hload]

end

/-- What a run of the program leaves, for arguments that are accepted. Without settings nothing is
run. Otherwise the command decides: if it succeeds it has a value, which is written in the format
that was asked for and followed by a line break, and if it fails nothing is written to the standard
output. That does not depend on the log filter, be it one that can be read or not, nor on the
activity. A configuration file that is given leaves no say to the environment. -/
theorem run_output {args : List String} {invocation : Invocation}
    (hparse : Invocation.parse args = .ok invocation) (files : Settings.Files)
    (environment : Option String) (activityId : Uuid) :
    let outcome := run files environment activityId args revision
    let execution := (Registry.builtin revision).execute (invocation.request.context activityId)
    -- the settings cannot be loaded
    (∀ cause, Settings.load files invocation.config environment = .error cause →
      outcome = { exitCode := 1, output := "", messages := ["Error: " ++ cause.message] }) ∧
    -- the command is run
    (∀ settings, Settings.load files invocation.config environment = .ok settings →
      (∀ result, execution.outcome = .ok result → ∃ value, result = some value ∧
        outcome.exitCode = 0 ∧
        outcome.output =
          Report.render value (invocation.output.getD settings.output)
            (invocation.pretty || settings.pretty) ++ "\n") ∧
      (∀ failure, execution.outcome = .error failure →
        outcome.exitCode = 1 ∧ outcome.output = "")) ∧
    -- the same arguments with another log filter, or with none
    (∀ args' level activityId',
      Invocation.parse args' = .ok { invocation with logLevel := level } →
      (run files environment activityId' args' revision).exitCode = outcome.exitCode ∧
        (run files environment activityId' args' revision).output = outcome.output) ∧
    -- other files, and another one that the environment names, beside the one that is given
    (∀ path files' environment', invocation.config = some path → files' path = files path →
      run files' environment' activityId args revision = outcome) := by
  intro outcome execution
  refine ⟨?_, ?_, ?_, ?_⟩
  · intro cause hload
    exact run_of_load_error hparse hload
  · intro settings hload
    have hrun : outcome = perform invocation settings activityId revision :=
      run_of_load_ok hparse hload
    have hshown : (outcome.exitCode, outcome.output) =
        shown (invocation.output.getD settings.output) (invocation.pretty || settings.pretty)
          execution.outcome := by
      rw [hrun]
      exact perform_eq_shown invocation settings activityId revision
    constructor
    · intro result hok
      rcases Registry.exists_of_outcome_builtin hok with ⟨value, rfl⟩
      rw [hok] at hshown
      exact ⟨value, rfl, Prod.ext_iff.1 hshown⟩
    · intro failure hfailed
      rw [hfailed] at hshown
      exact Prod.ext_iff.1 hshown
  · intro args' level activityId' hparse'
    cases hload : Settings.load files invocation.config environment with
    | error cause =>
      have hrun : outcome = _ := run_of_load_error hparse hload
      rw [hrun, run_of_load_error hparse' hload]
      exact ⟨rfl, rfl⟩
    | ok settings =>
      have hrun : outcome = _ := run_of_load_ok hparse hload
      rw [hrun, run_of_load_ok hparse' hload]
      exact perform_output_congr ..
  · intro path files' environment' hpath hfile
    have hload : Settings.load files' invocation.config environment' =
        Settings.load files invocation.config environment := by
      rw [hpath]
      exact Settings.load_given hfile environment environment'
    simp only [outcome, run, hparse, hload]

/-- Asks for a decision in JSON, with a filter and a configuration file given. -/
def decisionArgs (level : String) : List String :=
  ["--log-level", level, "-o", "json", "--config", "kscope.yaml", "can", "view", "--verb",
    "get,list"]

/-- What is asked for by that. -/
def decisionInvocation (level : String) : Invocation where
  output := some .json
  logLevel := some level
  config := some "kscope.yaml"
  request := .can "view" ["get", "list"]

/-- There is one file, which asks for another format and for indentation. -/
def settingsFile : Settings.Files := fun path =>
  if path = "kscope.yaml" then some "output: yaml\npretty: true\n" else none

/-- The format is that of the command line and the indentation that of the file. A filter that
cannot be read makes no difference, and neither does a file that the environment names and that is
not there. -/
theorem run_output_decision :
    Invocation.parse (decisionArgs "a=b=c") = .ok (decisionInvocation "a=b=c") ∧
      Invocation.parse (decisionArgs "off") = .ok (decisionInvocation "off") ∧
      (run settingsFile none .nil (decisionArgs "a=b=c")).output =
        "\x7b\n  \"action\": \"view\",\n  \"allowed\": true,\n  \"verbs\": [\n"
          ++ "    \"get\",\n    \"list\"\n  ]\n\x7d\n" ∧
      (run settingsFile none .nil (decisionArgs "a=b=c")).exitCode = 0 ∧
      (run settingsFile none .nil (decisionArgs "off")).output =
        (run settingsFile none .nil (decisionArgs "a=b=c")).output ∧
      run settingsFile (some "missing.yaml") .nil (decisionArgs "a=b=c") =
        run settingsFile none .nil (decisionArgs "a=b=c") := by
  have hparse : Invocation.parse (decisionArgs "a=b=c") = .ok (decisionInvocation "a=b=c") := by
    decide +kernel
  have hparse' : Invocation.parse (decisionArgs "off") = .ok (decisionInvocation "off") := by
    decide +kernel
  have hload : Settings.load settingsFile (decisionInvocation "a=b=c").config none =
      .ok { output := .yaml, pretty := true } := by
    decide +kernel
  have hok : (Registry.builtin.execute
      ((decisionInvocation "a=b=c").request.context .nil)).outcome =
        .ok (some (Command.Builtin.decision "view" ["get", "list"])) := by
    have hr : Registry.builtin.handlers? "can" =
        some [Command.Builtin.can, Command.Builtin.audit] := rfl
    rw [Registry.execute_eq hr]
    rfl
  rcases run_output hparse settingsFile none .nil with ⟨_, hrun, hlevel, hgiven⟩
  rcases (hrun _ hload).1 _ hok with ⟨value, hvalue, hcode, houtput⟩
  obtain rfl := Option.some.inj hvalue
  refine ⟨hparse, hparse', ?_, hcode, (hlevel _ (some "off") .nil hparse').2, ?_⟩
  · rw [houtput]
    decide +kernel
  · exact hgiven "kscope.yaml" settingsFile _ rfl rfl

end Program

end ResourceInspector
