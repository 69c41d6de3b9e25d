import ResourceInspector.CommandLine.Invocation
import ResourceInspector.Proofs.CommandLine.Matching
import ResourceInspector.Proofs.Text.Fields
/-!
# Command lines of the program

A command line names a command, with the arguments of the command behind it and a format for the
output in front of it. What it asks for is what the command makes of its own arguments
(`parse_commandLine`). From that follows what is asked for by texts that are given as they are
(`parse_sort`, `parse_gvr`), and by verbs that are given in groups (`parse_can`).
-/

namespace ResourceInspector

namespace CommandLine

/-- The options that ask for a format, if one is asked for. -/
def formatArguments : Option Report.Format → List String
  | some format => ["-o", format.name]
  | none => []

/-- The command line that runs a command and asks for a format. -/
def commandLine (format : Option Report.Format) (command : String) (args : List String) :
    List String :=
  formatArguments format ++ command :: args

variable {format : Option Report.Format} {c : Command} {own : Matches} {args : List String}

/-! ## In front of the command -/

/-- The format is recorded when the command has been matched. -/
theorem scan_formatArguments (format : Option Report.Format) (rest : List String) :
    ∃ s t, grammar.level.scan (formatArguments format ++ rest) { remaining := [] } =
        grammar.level.scan rest s ∧
      s.expecting = .anything ∧ s.settle = .ok t ∧
      t.settled = { options := (format.map fun f => ("output", [f.name])).toList } := by
  cases format with
  | none => exact ⟨_, _, rfl, rfl, rfl, rfl⟩
  | some f => cases f <;> exact ⟨_, _, rfl, rfl, rfl, rfl⟩

theorem command?_of_mem (hc : c ∈ commands) : grammar.command? c.name = some c := by
  simp only [commands, List.mem_cons, List.not_mem_nil, or_false] at hc
  rcases hc with rfl | rfl | rfl | rfl | rfl <;> rfl

theorem mem_subcommands (hc : c ∈ commands) : c.name ∈ grammar.level.subcommands :=
  List.mem_append_left _ (List.mem_map_of_mem hc)

theorem name_ne_help (hc : c ∈ commands) : c.name ≠ helpCommand.name := by
  have hall : ∀ c ∈ commands, c.name ≠ helpCommand.name := by decide
  exact hall c hc

/-- The options of each command are known by their names. -/
theorem offers_of_mem {o : Opt} (hc : c ∈ commands) (ho : o ∈ c.options) : c.level.Offers o := by
  simp only [commands, List.mem_cons, List.not_mem_nil, or_false] at hc
  rcases hc with rfl | rfl | rfl | rfl | rfl <;>
    simp only [List.mem_cons, List.not_mem_nil, or_false] at ho <;> subst ho <;>
    exact ⟨rfl, by decide, by decide⟩

/-- A command line asks for what the command makes of the arguments behind its name. -/
theorem parse_commandLine (hc : c ∈ commands) (hown : c.parse args = .ok own) :
    Invocation.parse (commandLine format c.name args) =
      .ok { output := format, request := .ofMatches c.name own } := by
  rcases scan_formatArguments format (c.name :: args) with
    ⟨s, t, hscan, hexpecting, hsettle, hsettled⟩
  have hsub : grammar.level.scan (c.name :: args) s = .ok (s, some (c.name, args)) :=
    Level.scan_subcommand hexpecting (mem_subcommands hc)
  have hparse : grammar.parse (commandLine format c.name args) = .ok (t.settled, c.name, own) :=
    Grammar.parse_of_scan (hscan.trans hsub) (name_ne_help hc) (command?_of_mem hc) hown hsettle
  rw [Invocation.parse, hparse, hsettled]
  cases format with
  | none => rfl
  | some f => cases f <;> rfl

/-! ## Texts as they are -/

/-- Behind `--` everything is a resource, also what looks like an option. -/
theorem parse_sort {texts : List String} (hne : texts ≠ []) :
    Invocation.parse (commandLine format "sort" ("--" :: texts)) =
      .ok { output := format, request := .sort texts } := by
  obtain ⟨c, hc, hname, p, hp, hpname, hmany⟩ : ∃ c ∈ commands, c.name = "sort" ∧
      ∃ p, c.positionals = [p] ∧ p.name = "RESOURCES" ∧ p.many = true :=
    ⟨_, .tail _ (.head _), rfl, _, rfl, rfl, rfl⟩
  rw [← hname, parse_commandLine hc (Command.parse_trailing hp hmany hne), hname, hpname]
  simp [Request.ofMatches, Matches.arguments]

/-- A group and version that is joined to its option by `=` may look like anything, and so may a
resource behind `--`. -/
theorem parse_gvr (gv r : String) :
    Invocation.parse (commandLine format "gvr" ["--group-version=" ++ gv, "--", r]) =
      .ok { output := format, request := .gvr r (some gv) } := by
  obtain ⟨c, hc, hname, p, hp, hpname, o, ho, holong, hone, haccepts⟩ :
      ∃ c ∈ commands, c.name = "gvr" ∧ ∃ p, c.positionals = [p] ∧ p.name = "RESOURCE" ∧
        ∃ o ∈ c.options, o.long = "group-version" ∧ o.arity = .one ∧
          ∀ value, o.accepts value = true :=
    ⟨_, .head _, rfl, _, rfl, rfl, _, .head _, rfl, rfl, fun _ => rfl⟩
  have hoption : "--group-version=" = "--" ++ o.long ++ "=" := by
    rw [holong]
    rfl
  have hown : c.parse ["--" ++ o.long ++ "=" ++ gv, "--", r] = _ :=
    Command.parse_assigned hp (offers_of_mem hc ho) hone (haccepts gv)
  rw [← hname, hoption, parse_commandLine hc hown, hname, holong, hpname]
  rfl

/-! ## Texts in groups -/

/-- Verbs cut into occurrences of the option for verbs, and those of an occurrence into groups. -/
structure Grouping (verbs : List String) where
  occurrences : List (List (List String))
  group_ne_nil : ∀ groups ∈ occurrences, ∀ group ∈ groups, group ≠ []
  flatten_eq : occurrences.flatten.flatten = verbs

/-- A joined text is plain if its parts are. -/
theorem plain_joinFields {parts : List String} (hne : parts ≠ [])
    (hplain : ∀ part ∈ parts, Plain part) : Plain (Text.joinFields ',' parts) := by
  obtain ⟨part, parts, rfl⟩ := List.exists_cons_of_ne_nil hne
  have hpart : Plain part := hplain part List.mem_cons_self
  by_cases hempty : part = ""
  · -- the text is empty, or starts with a comma
    by_cases hrest : parts = []
    · rw [hrest, Text.joinFields_singleton]
      exact hpart
    · rw [Text.joinFields_cons ',' part hrest, hempty]
      simp [Plain]
  · unfold Plain
    rwa [Text.head?_joinFields ',' hempty]

namespace Grouping

variable {verbs : List String}

/-- The texts that the groups of each occurrence are given as. The verbs of a group are joined with
commas. -/
def texts (g : Grouping verbs) : List (List String) :=
  g.occurrences.map fun groups => groups.map (Text.joinFields ',')

/-- The arguments that grant the verbs. -/
def arguments (g : Grouping verbs) : List String :=
  g.texts.flatMap fun groups => "--verb" :: groups

theorem mem_verbs (g : Grouping verbs) {groups : List (List String)} {group : List String}
    {verb : String} (hgroups : groups ∈ g.occurrences) (hgroup : group ∈ groups)
    (hverb : verb ∈ group) : verb ∈ verbs := by
  rw [← g.flatten_eq]
  exact List.mem_flatten_of_mem (List.mem_flatten_of_mem hgroups hgroup) hverb

/-- Verbs that do not start with a hyphen are joined to texts that do not start with one. -/
theorem plain_texts (g : Grouping verbs) (hplain : ∀ verb ∈ verbs, Plain verb) :
    ∀ given ∈ g.texts, ∀ text ∈ given, Plain text := by
  intro given hgiven text htext
  rcases List.mem_map.1 hgiven with ⟨groups, hgroups, rfl⟩
  rcases List.mem_map.1 htext with ⟨group, hgroup, rfl⟩
  exact plain_joinFields (g.group_ne_nil groups hgroups group hgroup) fun verb hverb =>
    hplain verb (g.mem_verbs hgroups hgroup hverb)

/-- The commas in the texts are those that groups were joined with. -/
theorem flatMap_fields_texts (g : Grouping verbs) (hcommas : ∀ verb ∈ verbs, ',' ∉ verb.toList) :
    g.texts.flatMap (fun given => given.flatMap (Text.fields ',')) = verbs := by
  have hgroup : ∀ groups ∈ g.occurrences, ∀ group ∈ groups,
      Text.fields ',' (Text.joinFields ',' group) = group := by
    intro groups hgroups group hgroup
    exact Text.fields_joinFields (g.group_ne_nil groups hgroups group hgroup) fun verb hverb =>
      hcommas verb (g.mem_verbs hgroups hgroup hverb)
  have hgroups : ∀ groups ∈ g.occurrences,
      (groups.map (Text.joinFields ',')).flatMap (Text.fields ',') = groups.flatten := by
    intro groups hmem
    rw [List.flatMap_map, List.flatMap_congr (hgroup groups hmem), List.flatMap_id']
  calc
    g.texts.flatMap (fun given => given.flatMap (Text.fields ',')) =
        g.occurrences.flatMap List.flatten := by
      rw [texts, List.flatMap_map, List.flatMap_congr hgroups]
    _ = g.occurrences.flatten.flatten := by rw [List.flatten_flatten, List.flatMap_def]
    _ = verbs := g.flatten_eq

end Grouping

/-- The values of an option are those of all its occurrences. -/
theorem Matches.values_map {α : Type} (long : String) (occs : List α) (given : α → List String)
    (positionals : List (String × List String)) :
    Matches.values
        { options := occs.map fun occ => (long, given occ), positionals := positionals } long =
      occs.flatMap given := by
  simp [values, List.filter_map, Function.comp_def, List.flatMap_map]

/-- The grouping of the verbs is gone once they are parsed. -/
theorem parse_can {action : String} {verbs : List String} (haction : Plain action)
    (hplain : ∀ verb ∈ verbs, Plain verb) (hcommas : ∀ verb ∈ verbs, ',' ∉ verb.toList)
    (g : Grouping verbs) :
    Invocation.parse (commandLine format "can" (action :: g.arguments)) =
      .ok { output := format, request := .can action verbs } := by
  obtain ⟨c, hc, hname, p, hp, hpname, hsingle, o, ho, holong, hmany⟩ :
      ∃ c ∈ commands, c.name = "can" ∧ ∃ p, c.positionals = [p] ∧ p.name = "ACTION" ∧
        p.many = false ∧ ∃ o ∈ c.options, o.long = "verb" ∧ o.arity = .many :=
    ⟨_, .tail _ (.tail _ (.head _)), rfl, _, rfl, rfl, rfl, _, .head _, rfl, rfl⟩
  have harguments : g.arguments = Level.occurrences o g.texts := by
    rw [Level.occurrences, holong]
    rfl
  have hown : c.parse (action :: Level.occurrences o g.texts) = _ :=
    Command.parse_occurrences hp hsingle (offers_of_mem hc ho) hmany haction (g.plain_texts hplain)
  rw [harguments, ← hname, parse_commandLine hc hown, hname, hpname, holong]
  simp only [Request.ofMatches, Matches.values_map, g.flatMap_fields_texts hcommas]
  rfl

end CommandLine

end ResourceInspector
