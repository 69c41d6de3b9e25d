import ResourceInspector.CommandLine.Grammar
/-!
# Help texts

What a grammar says about itself: what a command is for, how it is called, and a line for each of
its commands, arguments and options.
-/

namespace ResourceInspector.CommandLine

/-- Lines of two columns, the second of which starts in the same place on all of them. -/
def columns (rows : List (String × String)) : String :=
  let width := (rows.map (·.1.length)).foldl max 0
  String.join (rows.map fun (left, right) =>
    let gap := String.ofList (List.replicate (width - left.length) ' ')
    "  " ++ left ++ gap ++ "  " ++ right ++ "\n")

/-- A titled list of rows, or nothing where there are none. -/
def paragraph (title : String) (rows : List (String × String)) : List String :=
  if rows.isEmpty then [] else [title ++ ":\n" ++ columns rows]

def Opt.usage (o : Opt) : String :=
  let name := match o.short with
    | some letter => "-" ++ letter.toString ++ ", --" ++ o.long
    | none => "    --" ++ o.long
  match o.arity with
  | .none => name
  | .one => name ++ " <" ++ o.valueName ++ ">"
  | .many => name ++ " [<" ++ o.valueName ++ ">...]"

def Opt.row (o : Opt) : String × String :=
  let values := ", ".intercalate o.choices
  (o.usage, o.help ++ if o.choices.isEmpty then "" else " [possible values: " ++ values ++ "]")

def Positional.usage (p : Positional) : String :=
  "<" ++ p.name ++ ">" ++ if p.many then "..." else ""

/-- The paragraphs of a help text, with a blank line between them. -/
def helpText (about usage : String) (paragraphs : List String) : String :=
  let head := if about.isEmpty then [] else [about ++ "\n"]
  "\n".intercalate (head ++ ["Usage: " ++ usage ++ "\n"] ++ paragraphs)

def Command.help (c : Command) (program : String) : String :=
  let options := if c.options.isEmpty then [] else ["[OPTIONS]"]
  helpText c.about
    (" ".intercalate ([program, c.name] ++ options ++ c.positionals.map (·.usage)))
    (paragraph "Arguments" (c.positionals.map fun p => (p.usage, p.help))
      ++ paragraph "Options" ((c.options ++ [helpOption]).map Opt.row))

def Grammar.programHelp (g : Grammar) : String :=
  helpText g.about (g.name ++ " [OPTIONS] <COMMAND>")
    (paragraph "Commands" ((g.commands ++ [helpCommand]).map fun c => (c.name, c.about))
      ++ paragraph "Options" ((g.options ++ [helpOption]).map Opt.row))

def Grammar.helpHelp (g : Grammar) : String :=
  helpText helpCommand.about (g.name ++ " help [COMMAND]...")
    (paragraph "Arguments" [("[COMMAND]...", "Print help for the subcommand(s)")])

/-- The help on a topic. -/
def Grammar.help (g : Grammar) : Topic → String
  | .program => g.programHelp
  | .help => g.helpHelp
  | .command name =>
    match g.commands.find? (·.name = name) with
    | some c => c.help g.name
    | none => ""

end ResourceInspector.CommandLine
