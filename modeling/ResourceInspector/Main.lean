import ResourceInspector.Program
/-!
# The command line

The program itself: it gives `Program.run` the arguments, the configuration file and an activity of
its own, and writes what comes of it.
-/

namespace ResourceInspector.Program

/-- The text of a file, if it can be read. -/
def readText (path : String) : IO (Option String) := do
  try
    return some (← IO.FS.readFile path)
  catch _ =>
    return none

/-- An identifier that no other activity has. -/
def newActivity : IO Uuid := do
  let bytes ← IO.getRandomBytes 32
  return .ofRandom fun i => ⟨(bytes.get! i.val).toNat % 16, Nat.mod_lt _ (by decide)⟩

/-- Runs the program on the real files and the real environment. -/
def start (args : List String) : IO UInt32 := do
  let environment ← IO.getEnv "KSCOPE_CONFIG"
  let given := (CommandLine.Invocation.parse args).toOption.bind (·.config)
  let text ← match given.or environment with
    | some path => readText path
    | none => pure none
  let outcome := run (fun _ => text) environment (← newActivity) args
  (← IO.getStdout).putStr outcome.output
  outcome.messages.forM fun message => IO.eprintln message
  return outcome.exitCode.toUInt32

end ResourceInspector.Program

def main (args : List String) : IO UInt32 :=
  ResourceInspector.Program.start args
