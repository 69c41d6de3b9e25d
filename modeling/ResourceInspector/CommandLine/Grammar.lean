/-!
# Command-line grammars

What a program accepts on its command line: options, subcommands with options of their own, and
positional arguments.
-/

namespace ResourceInspector.CommandLine

inductive Arity where
  /-- None: the option is a flag. -/
  | none
  /-- Exactly one. -/
  | one
  /-- Any number, cut at commas, and more of them each time the option is repeated. -/
  | many
deriving Repr, DecidableEq

structure Opt where
  long : String
  short : Option Char := none
  arity : Arity := .none
  /-- The name that help gives the value. -/
  valueName : String := ""
  /-- The values there are to choose from, if not every text is one. -/
  choices : List String := []
  /-- Whether the empty text is a value. -/
  allowsEmpty : Bool := true
  help : String

/-- Whether a text is a value of an option. -/
def Opt.accepts (o : Opt) (value : String) : Bool :=
  (o.choices.isEmpty || o.choices.contains value) && (o.allowsEmpty || value ≠ "")

/-- A positional argument, all of which have to be given. -/
structure Positional where
  name : String
  /-- Whether it takes all arguments that are left. -/
  many : Bool := false
  help : String

structure Command where
  name : String
  about : String := ""
  options : List Opt := []
  positionals : List Positional := []

/-- A program: its options, one of its commands, and the options and arguments of that. -/
structure Grammar where
  name : String
  about : String
  options : List Opt
  commands : List Command

def helpOption : Opt where
  long := "help"
  short := some 'h'
  help := "Print help"

def helpCommand : Command where
  name := "help"
  about := "Print this message or the help of the given subcommand(s)"

/-- What help is asked about: the program, one of its commands, or the command that prints help. -/
inductive Topic where
  | program
  | command (name : String)
  | help
deriving Repr, DecidableEq

inductive UsageError where
  | help (topic : Topic)
  | nothingGiven
  | missingSubcommand
  | invalidSubcommand
  | unknownArgument
  | missingArgument
  | invalidValue
  | tooManyValues
  | repeated
deriving Repr, DecidableEq

namespace UsageError

def kind : UsageError → String
  | .help _ => "DisplayHelp"
  | .nothingGiven => "DisplayHelpOnMissingArgumentOrSubcommand"
  | .missingSubcommand => "MissingSubcommand"
  | .invalidSubcommand => "InvalidSubcommand"
  | .unknownArgument => "UnknownArgument"
  | .missingArgument => "MissingRequiredArgument"
  | .invalidValue => "InvalidValue"
  | .tooManyValues => "TooManyValues"
  | .repeated => "ArgumentConflict"

/-- What is told to the user. -/
def message : UsageError → String
  | .help _ => "help was asked for"
  | .nothingGiven => "no arguments were given"
  | .missingSubcommand => "a subcommand is required"
  | .invalidSubcommand => "there is no such subcommand"
  | .unknownArgument => "there is no such argument"
  | .missingArgument => "a required argument was not given"
  | .invalidValue => "an option has no value that it accepts"
  | .tooManyValues => "a value was given to an option that takes none"
  | .repeated => "an option was given twice"

end UsageError

end ResourceInspector.CommandLine
