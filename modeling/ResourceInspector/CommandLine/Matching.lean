import ResourceInspector.CommandLine.Grammar
import ResourceInspector.Text.Fields
/-!
# Matching arguments

Arguments are taken from left to right. An option without its value waits for the arguments that
follow, and what it has gathered is settled when another option or argument comes up. Behind `--`
every argument is positional.
-/

namespace ResourceInspector.CommandLine

inductive Taker where
  | option (o : Opt)
  | positional (p : Positional)

/-- The values given so far, under the long names of options and the names of positional
arguments. -/
structure Matches where
  options : List (String × List String) := []
  positionals : List (String × List String) := []
deriving Repr, DecidableEq

namespace Matches

def isEmpty (m : Matches) : Bool :=
  m.options.isEmpty && m.positionals.isEmpty

def has (m : Matches) (long : String) : Bool :=
  (m.options.lookup long).isSome

def value? (m : Matches) (long : String) : Option String :=
  (m.options.lookup long).bind List.head?

def values (m : Matches) (long : String) : List String :=
  (m.options.filter (·.1 = long)).flatMap (·.2)

def arguments (m : Matches) (name : String) : List String :=
  (m.positionals.filter (·.1 = name)).flatMap (·.2)

end Matches

/-- What accepts the next argument, if it does not look like an option. -/
inductive Expecting where
  /-- An argument or a subcommand. -/
  | anything
  /-- A value of the option that waits. -/
  | value
  /-- One more of the arguments that are left. -/
  | more
deriving Repr, DecidableEq

/-- How far matching has come. -/
structure State where
  settled : Matches := {}
  /-- What waits for values, with those gathered so far. -/
  pending : Option (Taker × List String) := none
  expecting : Expecting := .anything
  /-- The positional arguments that are still open. -/
  remaining : List Positional

namespace State

/-- Records values for an option. -/
def settleOption (m : Matches) (o : Opt) (values : List String) : Except UsageError Matches :=
  match o.arity with
  | .none =>
    if m.has o.long then .error .repeated
    else .ok { m with options := m.options ++ [(o.long, [])] }
  | .one =>
    if values.isEmpty then .error .invalidValue
    else if m.has o.long then .error .repeated
    else if !values.all o.accepts then .error .invalidValue
    else .ok { m with options := m.options ++ [(o.long, values)] }
  | .many =>
    .ok { m with options := m.options ++ [(o.long, values.flatMap (Text.fields ','))] }

/-- Settles what waits. -/
def settle (s : State) : Except UsageError State :=
  match s.pending with
  | none => .ok s
  | some (.option o, values) => do
    return { s with settled := ← settleOption s.settled o values, pending := none }
  | some (.positional p, values) =>
    let positionals := s.settled.positionals ++ [(p.name, values)]
    .ok { s with settled := { s.settled with positionals := positionals }, pending := none }

/-- Records an option together with its values, after what waits. -/
def record (s : State) (o : Opt) (values : List String) : Except UsageError State := do
  let s ← s.settle
  return { s with settled := ← settleOption s.settled o values, expecting := .anything }

/-- Lets an option wait for its values. -/
def await (s : State) (o : Opt) : Except UsageError State := do
  let s ← s.settle
  return { s with pending := some (.option o, []), expecting := .value }

/-- Gives a value to the option that waits. An option of one value then waits no longer for more. -/
def give (s : State) (value : String) : State :=
  match s.pending with
  | some (.option o, values) =>
    { s with
      pending := some (.option o, values ++ [value])
      expecting := if o.arity = .many then .value else .anything }
  | _ => s

/-- Takes a positional argument. `excess` is the error where none is open. -/
def argument (s : State) (value : String) (excess : UsageError) : Except UsageError State :=
  match s.remaining with
  | [] => .error excess
  | p :: rest => do
    match s.pending with
    | some (.positional q, values) =>
      if q.many then
        return { s with pending := some (.positional q, values ++ [value]), expecting := .more }
    | _ => pure ()
    let s ← s.settle
    if p.many then
      return { s with pending := some (.positional p, [value]), expecting := .more }
    else
      return { s with
        pending := some (.positional p, [value]), expecting := .anything, remaining := rest }

end State

/-- What can be matched at a place: the options, and the subcommands. -/
structure Level where
  topic : Topic
  options : List Opt
  subcommands : List String := []

namespace Level

/-- The options with the one for help. -/
def allOptions (level : Level) : List Opt :=
  level.options ++ [helpOption]

def long? (level : Level) (name : String) : Option Opt :=
  level.allOptions.find? (·.long = name)

def short? (level : Level) (letter : Char) : Option Opt :=
  level.allOptions.find? (·.short = some letter)

/-- An argument that no positional one is open for. Where there are subcommands it should have been
one, unless it comes behind `--` and is one. -/
def excess (level : Level) (trailing : Bool) (arg : String) : UsageError :=
  if level.subcommands.isEmpty || (trailing && level.subcommands.contains arg) then .unknownArgument
  else .invalidSubcommand

/-- Takes a flag. Asking for help ends the matching. -/
def flag (level : Level) (s : State) (o : Opt) : Except UsageError State :=
  if o.long = helpOption.long then do
    let _ ← s.settle
    throw (.help level.topic)
  else s.record o []

/-- The name and the value of a long option, which `=` parts. -/
def splitLong (body : List Char) : String × Option String :=
  let name := String.ofList (body.takeWhile (· ≠ '='))
  match body.dropWhile (· ≠ '=') with
  | _ :: value => (name, some (String.ofList value))
  | [] => (name, none)

/-- Takes a long option. -/
def long (level : Level) (s : State) (body : List Char) : Except UsageError State :=
  let (name, value) := splitLong body
  match level.long? name with
  | none => .error .unknownArgument
  | some o =>
    match o.arity, value with
    | .none, some _ => .error .tooManyValues
    | .none, none => level.flag s o
    | _, some value => s.record o [value]
    | _, none => s.await o

/-- Takes letters behind one hyphen. An option that takes values has the letters that follow for
one, without the `=` that may stand between. -/
def cluster (level : Level) (s : State) : List Char → Except UsageError State
  | [] => .ok s
  | letter :: rest =>
    match level.short? letter with
    | none => .error .unknownArgument
    | some o =>
      if o.arity = .none then do
        let s ← level.flag s o
        level.cluster s rest
      else
        match rest with
        | [] => s.await o
        | '=' :: value => s.record o [String.ofList value]
        | value => s.record o [String.ofList value]

def trailing (level : Level) : List String → State → Except UsageError State
  | [], s => .ok s
  | arg :: rest, s => do
    level.trailing rest (← s.argument arg (level.excess true arg))

/-- Takes arguments up to a subcommand, which comes with the arguments behind it. -/
def scan (level : Level) :
    List String → State → Except UsageError (State × Option (String × List String))
  | [], s => .ok (s, none)
  | arg :: rest, s =>
    if s.expecting = .anything ∧ level.subcommands.contains arg then .ok (s, some (arg, rest))
    else
      match arg.toList with
      | ['-', '-'] => (level.trailing rest s).map fun s => (s, none)
      | '-' :: '-' :: body => do level.scan rest (← level.long s body)
      | '-' :: letter :: letters => do level.scan rest (← level.cluster s (letter :: letters))
      | _ =>
        if s.expecting = .value then level.scan rest (s.give arg)
        else do level.scan rest (← s.argument arg (level.excess false arg))

end Level

namespace Command

/-- Matches the arguments of a command. All its positional arguments have to be given. -/
def parse (c : Command) (args : List String) : Except UsageError Matches := do
  let level : Level := { topic := .command c.name, options := c.options }
  let (s, _) ← level.scan args { remaining := c.positionals }
  let s ← s.settle
  if c.positionals.all fun p => (s.settled.positionals.lookup p.name).isSome then return s.settled
  else throw .missingArgument

end Command

namespace Grammar

def command? (g : Grammar) (name : String) : Option Command :=
  g.commands.find? (·.name = name)

/-- What `help` is asked about. Only commands of the program have help to print, and they have no
commands of their own. -/
def helpTopic (g : Grammar) (names : List String) : Except UsageError Topic :=
  match names with
  | [] => .ok .program
  | [name] =>
    if name = helpCommand.name then .ok .help
    else if (g.command? name).isSome then .ok (.command name)
    else .error .invalidSubcommand
  | _ => .error .invalidSubcommand

/-- Matches a whole command line: the options of the program, the name of a command, and what
belongs to the command. The command is matched before the last option in front of it is settled. -/
def parse (g : Grammar) (args : List String) : Except UsageError (Matches × String × Matches) := do
  let level : Level :=
    { topic := .program
      options := g.options
      subcommands := g.commands.map (·.name) ++ [helpCommand.name] }
  let (s, sub) ← level.scan args { remaining := [] }
  match sub with
  | none =>
    let s ← s.settle
    throw (if s.settled.isEmpty then .nothingGiven else .missingSubcommand)
  | some (name, rest) =>
    if name = helpCommand.name then
      throw (.help (← g.helpTopic rest))
    match g.command? name with
    | none => throw .invalidSubcommand
    | some c =>
      let own ← c.parse rest
      let s ← s.settle
      return (s.settled, name, own)

end Grammar

end ResourceInspector.CommandLine
