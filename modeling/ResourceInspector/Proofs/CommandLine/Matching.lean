import Mathlib.Data.List.Basic
import ResourceInspector.CommandLine.Matching
/-!
# Matching arguments by their kind

What matching does with one argument depends on how the argument starts and on what is expected
where it stands. From there three forms of a command line follow, for any command that has one
positional argument: the arguments behind `--` (`Command.parse_trailing`), an option with its value
behind `=` (`Command.parse_assigned`), and an option that is repeated with any number of values each
time (`Command.parse_occurrences`). In all three the arguments are taken as they are.
-/

namespace ResourceInspector.CommandLine

/-- An argument that does not start with a hyphen. -/
def Plain (arg : String) : Prop :=
  arg.toList.head? ≠ some '-'

instance (arg : String) : Decidable (Plain arg) :=
  inferInstanceAs (Decidable (_ ≠ _))

/-! ## States -/

namespace State

variable {s : State} {o : Opt} {p : Positional} {values : List String} {value : String}
variable {excess : UsageError}

theorem settle_of_none (h : s.pending = none) : s.settle = .ok s := by
  rw [settle, h]

theorem settle_of_positional (h : s.pending = some (.positional p, values)) :
    s.settle = .ok { s with
      settled := { s.settled with positionals := s.settled.positionals ++ [(p.name, values)] }
      pending := none } := by
  rw [settle, h]

/-- An option of many values adds its values to those that it had before. -/
theorem settle_of_many (h : s.pending = some (.option o, values)) (hmany : o.arity = .many) :
    s.settle = .ok { s with
      settled := { s.settled with
        options := s.settled.options ++ [(o.long, values.flatMap (Text.fields ','))] }
      pending := none } := by
  rw [settle, h]
  simp only [settleOption, hmany]
  rfl

/-- An option of one value is recorded once, with any value that it accepts. -/
theorem record_of_one (hpending : s.pending = none) (hone : o.arity = .one)
    (hnew : s.settled.has o.long = false) (haccepts : o.accepts value = true) :
    s.record o [value] = .ok { s with
      settled := { s.settled with options := s.settled.options ++ [(o.long, [value])] }
      expecting := .anything } := by
  rw [record, settle_of_none hpending]
  simp [settleOption, hone, hnew, haccepts, bind, Except.bind, pure, Except.pure]

/-- An argument opens the next positional argument, which waits for more if it takes them. -/
theorem argument_of_none {behind : List Positional} (hpending : s.pending = none)
    (hremaining : s.remaining = p :: behind) :
    s.argument value excess = .ok { s with
      pending := some (.positional p, [value])
      expecting := if p.many then .more else .anything
      remaining := if p.many then s.remaining else behind } := by
  rw [argument, hremaining]
  simp only [hpending, settle_of_none hpending]
  cases p.many <;> simp [bind, Except.bind, pure, Except.pure, hremaining]

theorem argument_of_many (hpending : s.pending = some (.positional p, values))
    (hmany : p.many = true) (hremaining : s.remaining ≠ []) :
    s.argument value excess = .ok { s with
      pending := some (.positional p, values ++ [value]), expecting := .more } := by
  obtain ⟨q, behind, hopen⟩ := List.exists_cons_of_ne_nil hremaining
  rw [argument, hopen]
  simp [hpending, hmany]
  rfl

end State

namespace Level

variable {level : Level} {s t : State} {o : Opt} {p : Positional}
variable {name value arg : String} {args rest values given : List String} {m : Matches}

/-! ## Long options -/

/-- An option that is known by its long name. -/
structure Offers (level : Level) (o : Opt) : Prop where
  long?_eq : level.long? o.long = some o
  long_ne_empty : o.long ≠ ""
  equals_not_mem : '=' ∉ o.long.toList

/-- The name of a long option goes up to the first `=`. -/
theorem splitLong_append (hname : '=' ∉ name.toList) (tail : List Char)
    (htail : ∀ c ∈ tail.head?, c = '=') :
    splitLong (name.toList ++ tail) =
      (name, tail.head?.map fun _ => String.ofList tail.tail) := by
  have hall : ∀ c ∈ name.toList, decide (c ≠ '=') = true := by
    intro c hc
    apply decide_eq_true
    rintro rfl
    exact hname hc
  unfold splitLong
  rw [List.takeWhile_append_of_pos hall, List.dropWhile_append_of_pos hall]
  cases tail with
  | nil => simp
  | cons c tail =>
    obtain rfl := htail c rfl
    simp

theorem long_of_name (ho : level.Offers o) (harity : o.arity ≠ .none) :
    level.long s o.long.toList = s.await o := by
  have hsplit : splitLong o.long.toList = (o.long, none) := by
    simpa using splitLong_append ho.equals_not_mem [] nofun
  rw [long, hsplit]
  simp only [ho.long?_eq]

/-- What stands behind `=` is the value of the option, and it waits for no more. -/
theorem long_of_value (ho : level.Offers o) (harity : o.arity ≠ .none) :
    level.long s (o.long.toList ++ '=' :: value.toList) = s.record o [value] := by
  have hsplit : splitLong (o.long.toList ++ '=' :: value.toList) = (o.long, some value) := by
    rw [splitLong_append ho.equals_not_mem _ (by simp)]
    simp
  rw [long, hsplit]
  simp only [ho.long?_eq]

/-! ## One argument -/

/-- The name of a command ends the arguments in front of it. -/
theorem scan_subcommand (hexpecting : s.expecting = .anything) (hname : name ∈ level.subcommands) :
    level.scan (name :: rest) s = .ok (s, some (name, rest)) := by
  have hsub : s.expecting = .anything ∧ level.subcommands.contains name = true :=
    ⟨hexpecting, by simpa using hname⟩
  rw [scan, if_pos hsub]

theorem not_subcommand (hsub : s.expecting = .anything → arg ∉ level.subcommands) :
    ¬(s.expecting = .anything ∧ level.subcommands.contains arg = true) := by
  rintro ⟨hany, hmem⟩
  exact hsub hany (by simpa using hmem)

/-- A plain argument is a value for the option that waits, and an argument where none does. -/
theorem scan_plain (hplain : Plain arg) (hsub : s.expecting = .anything → arg ∉ level.subcommands) :
    level.scan (arg :: rest) s =
      if s.expecting = .value then level.scan rest (s.give arg)
      else s.argument arg (level.excess false arg) >>= level.scan rest := by
  unfold Plain at hplain
  rw [scan, if_neg (not_subcommand hsub)]
  split
  · next h => simp [h] at hplain
  · next h => simp [h] at hplain
  · next h => simp [h] at hplain
  · rfl

/-- An argument that starts with two hyphens and goes on is an option. -/
theorem scan_long {body : List Char} (harg : arg.toList = '-' :: '-' :: body) (hbody : body ≠ [])
    (hsub : arg ∉ level.subcommands) :
    level.scan (arg :: rest) s = level.long s body >>= level.scan rest := by
  rw [scan, if_neg (not_subcommand fun _ => hsub), harg]
  cases body with
  | nil => exact absurd rfl hbody
  | cons => rfl

/-- An option without a value of its own waits for those behind it. -/
theorem scan_name (ho : level.Offers o) (harity : o.arity ≠ .none)
    (hsub : "--" ++ o.long ∉ level.subcommands) :
    level.scan (("--" ++ o.long) :: rest) s = s.await o >>= level.scan rest := by
  have harg : ("--" ++ o.long).toList = '-' :: '-' :: o.long.toList := by simp
  rw [scan_long harg (by simpa using ho.long_ne_empty) hsub, long_of_name ho harity]

theorem scan_assigned (ho : level.Offers o) (harity : o.arity ≠ .none)
    (hsub : "--" ++ o.long ++ "=" ++ value ∉ level.subcommands) :
    level.scan (("--" ++ o.long ++ "=" ++ value) :: rest) s =
      s.record o [value] >>= level.scan rest := by
  have harg : ("--" ++ o.long ++ "=" ++ value).toList =
      '-' :: '-' :: (o.long.toList ++ '=' :: value.toList) := by
    simp
  rw [scan_long harg (by simp) hsub, long_of_value ho harity]

/-- Behind two hyphens there are positional arguments only. -/
theorem scan_hyphens (hsub : "--" ∉ level.subcommands) :
    level.scan ("--" :: rest) s = (level.trailing rest s).map fun s => (s, none) := by
  rw [scan, if_neg (not_subcommand fun _ => hsub)]
  rfl

/-! ## Matching to the end -/

/-- All arguments are matched, and the values are these when what waits at the end is settled. -/
def Settles (level : Level) (args : List String) (s : State) (m : Matches) : Prop :=
  ∃ last final, level.scan args s = .ok (last, none) ∧ last.settle = .ok final ∧ final.settled = m

/-- Arguments that lead to the same state as others settle as these do. -/
theorem Settles.of_scan_eq {args' : List String} (h : level.Settles args' t m)
    (hscan : level.scan args s = level.scan args' t) : level.Settles args s m := by
  unfold Settles at h ⊢
  rwa [hscan]

/-! ## Arguments behind two hyphens -/

/-- A positional argument that takes many goes on to take all that is left. -/
theorem trailing_more (hmany : p.many = true) (hremaining : s.remaining ≠ [])
    (hpending : s.pending = some (.positional p, values)) :
    ∃ t, level.trailing args s = .ok t ∧ t.settled = s.settled ∧
      t.pending = some (.positional p, values ++ args) := by
  induction args generalizing s values with
  | nil => exact ⟨s, rfl, rfl, by simpa using hpending⟩
  | cons arg args ih =>
    rw [trailing, State.argument_of_many hpending hmany hremaining]
    rcases ih (s := { s with pending := some (.positional p, values ++ [arg]), expecting := .more })
      hremaining rfl with ⟨t, ht, hsettled, hgathered⟩
    refine ⟨t, ht, hsettled, ?_⟩
    rw [hgathered, List.append_assoc, List.singleton_append]

/-- The positional argument that is open takes one argument, or all of them if it takes many. -/
theorem trailing_open (hremaining : s.remaining = [p]) (hpending : s.pending = none)
    (hcount : args ≠ [] ∧ (p.many = true ∨ ∃ arg, args = [arg])) :
    ∃ t, level.trailing args s = .ok t ∧ t.settled = s.settled ∧
      t.pending = some (.positional p, args) := by
  obtain ⟨arg, args, rfl⟩ := List.exists_cons_of_ne_nil hcount.1
  rcases hcount.2 with hmany | ⟨_, hone⟩
  · rw [trailing, State.argument_of_none hpending hremaining, hmany]
    have hopen : ({ s with pending := some (.positional p, [arg]), expecting := .more } :
        State).pending = some (.positional p, [arg]) := rfl
    exact trailing_more hmany (by simp [hremaining]) hopen
  · obtain rfl := (List.cons.inj hone).2
    rw [trailing, State.argument_of_none hpending hremaining]
    exact ⟨_, rfl, rfl, rfl⟩

/-- All arguments behind `--` are values of the one positional argument that is open. -/
theorem settles_hyphens (hsub : "--" ∉ level.subcommands) (hremaining : s.remaining = [p])
    (hpending : s.pending = none) (hcount : args ≠ [] ∧ (p.many = true ∨ ∃ arg, args = [arg])) :
    level.Settles ("--" :: args) s
      { s.settled with positionals := s.settled.positionals ++ [(p.name, args)] } := by
  rcases trailing_open hremaining hpending hcount with ⟨t, ht, hsettled, hgathered⟩
  refine ⟨t, _, ?_, State.settle_of_positional hgathered, ?_⟩
  · rw [scan_hyphens hsub, ht]
    rfl
  · rw [hsettled]

/-! ## Options of many values -/

/-- Plain arguments are values of the option that waits. -/
theorem scan_values (hmany : o.arity = .many) (hexpecting : s.expecting = .value)
    (hpending : s.pending = some (.option o, given)) (hplain : ∀ v ∈ values, Plain v) :
    level.scan (values ++ rest) s =
      level.scan rest { s with pending := some (.option o, given ++ values) } := by
  induction values generalizing s given with
  | nil =>
    rw [List.append_nil, ← hpending]
    rfl
  | cons v values ih =>
    rcases List.forall_mem_cons.1 hplain with ⟨hv, hplain⟩
    have hgive : s.give v = { s with pending := some (.option o, given ++ [v]) } := by
      rw [State.give, hpending]
      simp [hmany, hexpecting]
    rw [List.cons_append, scan_plain hv (by simp [hexpecting]), if_pos hexpecting, hgive,
      ih (s := { s with pending := some (.option o, given ++ [v]) }) hexpecting rfl hplain,
      List.append_assoc, List.singleton_append]

/-- When an option of many values comes up, what waited is settled, and the option has the plain
arguments behind it for values. -/
theorem scan_occurrence (ho : level.Offers o) (hmany : o.arity = .many)
    (hsub : level.subcommands = []) (hplain : ∀ v ∈ given, Plain v) (hsettle : s.settle = .ok t) :
    level.scan (("--" ++ o.long) :: (given ++ rest)) s =
      level.scan rest { t with pending := some (.option o, given), expecting := .value } := by
  have hawait : s.await o =
      .ok { t with pending := some (.option o, []), expecting := .value } := by
    rw [State.await, hsettle]
    rfl
  rw [scan_name ho (by simp [hmany]) (by simp [hsub]), hawait]
  show level.scan (given ++ rest)
    { t with pending := some (.option o, []), expecting := .value } = _
  have hopen : ({ t with pending := some (.option o, []), expecting := .value } : State).pending =
      some (.option o, []) := rfl
  rw [scan_values hmany rfl hopen hplain, List.nil_append]

/-- An option that comes up again and again, each time with values behind it. -/
def occurrences (o : Opt) (values : List (List String)) : List String :=
  values.flatMap fun given => ("--" ++ o.long) :: given

/-- Each occurrence is settled with its own values when the next one comes up, and the last one at
the end. -/
theorem settles_occurrences {occs : List (List String)} (ho : level.Offers o)
    (hmany : o.arity = .many) (hsub : level.subcommands = [])
    (hplain : ∀ given ∈ occs, ∀ v ∈ given, Plain v) (hsettle : s.settle = .ok t) :
    level.Settles (occurrences o occs) s { t.settled with
      options := t.settled.options ++
        occs.map (fun given => (o.long, given.flatMap (Text.fields ','))) } := by
  induction occs generalizing s t with
  | nil => exact ⟨s, t, rfl, hsettle, by simp⟩
  | cons given occs ih =>
    rcases List.forall_mem_cons.1 hplain with ⟨hgiven, hplain⟩
    have hnext := State.settle_of_many
      (s := { t with pending := some (.option o, given), expecting := .value }) rfl hmany
    have hrest := ih hplain hnext
    simp only [List.append_assoc, List.singleton_append] at hrest
    exact hrest.of_scan_eq (scan_occurrence ho hmany hsub hgiven hsettle)

end Level

/-! ## Commands of one positional argument -/

namespace Command

/-- Where the arguments of a command are matched. -/
def level (c : Command) : Level where
  topic := .command c.name
  options := c.options

variable {c : Command} {o : Opt} {p : Positional} {args : List String} {arg value : String}

theorem parse_of_settles {m : Matches}
    (h : c.level.Settles args { remaining := c.positionals } m)
    (hgiven : ∀ p ∈ c.positionals, (m.positionals.lookup p.name).isSome) :
    c.parse args = .ok m := by
  rcases h with ⟨s, t, hscan, hsettle, rfl⟩
  have hall : (c.positionals.all fun p => (t.settled.positionals.lookup p.name).isSome) = true :=
    List.all_eq_true.2 hgiven
  rw [parse]
  show (c.level.scan args { remaining := c.positionals } >>= _) = _
  rw [hscan]
  show (s.settle >>= _) = _
  rw [hsettle]
  show (if _ then _ else _) = _
  rw [if_pos hall]
  rfl

/-- The arguments behind two hyphens are taken as they are, whatever they look like. -/
theorem parse_trailing (hp : c.positionals = [p]) (hmany : p.many = true) (hne : args ≠ []) :
    c.parse ("--" :: args) = .ok { positionals := [(p.name, args)] } := by
  have hsettles := c.level.settles_hyphens (s := { remaining := c.positionals }) List.not_mem_nil
    hp rfl ⟨hne, Or.inl hmany⟩
  exact parse_of_settles hsettles (by simp [hp])

/-- So is the value behind the first `=` of an option, and one argument behind two hyphens. -/
theorem parse_assigned (hp : c.positionals = [p]) (ho : c.level.Offers o) (hone : o.arity = .one)
    (haccepts : o.accepts value = true) :
    c.parse ["--" ++ o.long ++ "=" ++ value, "--", arg] =
      .ok { options := [(o.long, [value])], positionals := [(p.name, [arg])] } := by
  have hrecord := State.record_of_one (s := { remaining := c.positionals }) rfl hone rfl haccepts
  have hsettles := c.level.settles_hyphens
    (s := { settled := { options := [(o.long, [value])] }, remaining := c.positionals })
    List.not_mem_nil hp rfl ⟨List.cons_ne_nil arg [], Or.inr ⟨arg, rfl⟩⟩
  refine parse_of_settles (hsettles.of_scan_eq ?_) (by simp [hp])
  rw [Level.scan_assigned ho (by simp [hone]) List.not_mem_nil, hrecord]
  rfl

/-- The values of all occurrences of an option come in their order, cut at commas. -/
theorem parse_occurrences {occs : List (List String)} (hp : c.positionals = [p])
    (hsingle : p.many = false) (ho : c.level.Offers o) (hmany : o.arity = .many)
    (harg : Plain arg) (hplain : ∀ given ∈ occs, ∀ v ∈ given, Plain v) :
    c.parse (arg :: Level.occurrences o occs) =
      .ok {
        options := occs.map (fun given => (o.long, given.flatMap (Text.fields ',')))
        positionals := [(p.name, [arg])] } := by
  have hopen : ({ remaining := c.positionals } : State).argument arg (c.level.excess false arg) =
      .ok { pending := some (.positional p, [arg]), remaining := [] } := by
    rw [State.argument_of_none rfl hp, hsingle]
    rfl
  have hsettles := c.level.settles_occurrences ho hmany rfl hplain
    (State.settle_of_positional (s := { pending := some (.positional p, [arg]), remaining := [] })
      rfl)
  refine parse_of_settles (hsettles.of_scan_eq ?_) (by simp [hp])
  rw [Level.scan_plain harg fun _ => List.not_mem_nil, if_neg nofun, hopen]
  rfl

end Command

/-! ## Programs -/

namespace Grammar

/-- Where the arguments in front of a command are matched. -/
def level (g : Grammar) : Level where
  topic := .program
  options := g.options
  subcommands := g.commands.map (·.name) ++ [helpCommand.name]

theorem parse_of_scan {g : Grammar} {args rest : List String} {s t : State} {c : Command}
    {name : String} {own : Matches}
    (hscan : g.level.scan args { remaining := [] } = .ok (s, some (name, rest)))
    (hhelp : name ≠ helpCommand.name) (hc : g.command? name = some c)
    (hown : c.parse rest = .ok own) (hsettle : s.settle = .ok t) :
    g.parse args = .ok (t.settled, name, own) := by
  rw [parse]
  show (g.level.scan args { remaining := [] } >>= _) = _
  rw [hscan]
  simp only [bind, Except.bind, if_neg hhelp, hc, hown, hsettle]
  rfl

end Grammar

end ResourceInspector.CommandLine
