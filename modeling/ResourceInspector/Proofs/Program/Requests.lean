import ResourceInspector.Proofs.Command.Decision
import ResourceInspector.Proofs.Command.Reading
import ResourceInspector.Proofs.Command.Sorting
import ResourceInspector.Proofs.CommandLine.Invocation
import ResourceInspector.Proofs.Program.Output
/-!
# From arguments to answers

A run takes its arguments through four stages: they are matched, what was matched becomes the
parameters of a context, a command answers on the context, and the answer is written out. Each stage
has its lemmas elsewhere, and here they are put together. No stage takes a resource for anything but
a text, whatever the text looks like (`resources_verbatim`), and how verbs were grouped is lost with
the first of the stages (`can_grouped`).
-/

namespace ResourceInspector.Program

open ResourceInspector.Command (Registry)
open ResourceInspector.CommandLine (Grouping Invocation Plain Request commandLine)

variable {revision : Option String}

/-! ## Runs of a request -/

section

variable {args : List String} {format : Option Report.Format} {request : Request}
variable {files : Settings.Files} {environment : Option String} {settings : Settings}
variable {activityId : Uuid} {value : Json} {failure : Command.Failure}

theorem run_eq_shown (activityId : Uuid) (revision : Option String)
    (hparse : Invocation.parse args = .ok { output := format, request := request })
    (hload : Settings.load files none environment = .ok settings) :
    ((run files environment activityId args revision).exitCode,
        (run files environment activityId args revision).output) =
      shown (format.getD settings.output) settings.pretty
        ((Registry.builtin revision).execute (request.context activityId)).outcome := by
  rw [run_of_load_ok hparse hload]
  exact perform_eq_shown { output := format, request := request } settings activityId revision

/-- A request that succeeds has its value written in the format of the command line, or else in that
of the settings. -/
theorem run_of_ok (hparse : Invocation.parse args = .ok { output := format, request := request })
    (hload : Settings.load files none environment = .ok settings)
    (hok : ((Registry.builtin revision).execute (request.context activityId)).outcome =
      .ok (some value)) :
    (run files environment activityId args revision).exitCode = 0 ∧
      (run files environment activityId args revision).output =
        Report.render value (format.getD settings.output) settings.pretty ++ "\n" := by
  have hshown := run_eq_shown activityId revision hparse hload
  rw [hok] at hshown
  exact Prod.ext_iff.1 hshown

/-- A request that fails has nothing written. -/
theorem run_of_error (hparse : Invocation.parse args = .ok { output := format, request := request })
    (hload : Settings.load files none environment = .ok settings)
    (hfailed : ((Registry.builtin revision).execute (request.context activityId)).outcome =
      .error failure) :
    (run files environment activityId args revision).exitCode = 1 ∧
      (run files environment activityId args revision).output = "" := by
  have hshown := run_eq_shown activityId revision hparse hload
  rw [hfailed] at hshown
  exact Prod.ext_iff.1 hshown

end

/-! ## Resources -/

/-- `sort` arranges its resources if all of them can be read, and fails otherwise. -/
theorem outcome_sort (texts : List String) (activityId : Uuid) (revision : Option String) :
    ((∀ text ∈ texts, ∃ id, Identifier.parse text = .ok id) →
      ∃ sorted, Identifier.Arranged texts sorted ∧
        ((Registry.builtin revision).execute ((Request.sort texts).context activityId)).outcome =
          .ok (some (.strings sorted))) ∧
    ((∃ text ∈ texts, ∃ e, Identifier.parse text = .error e) →
      ∃ failure,
        ((Registry.builtin revision).execute ((Request.sort texts).context activityId)).outcome =
          .error failure) := by
  generalize hctx : (Request.sort texts).context activityId = ctx
  have hname : ctx.commandName = "sort" := hctx ▸ rfl
  have hc : ctx.cancelled = false := hctx ▸ rfl
  have hfound : ctx.parameters.find? "resources" = some (.strings texts) := hctx ▸ rfl
  have htexts : ctx.stringsParam "resources" = .ok texts :=
    Command.Context.stringsParam_eq_ok_iff.2 ⟨_, hfound, .many texts⟩
  rw [(Command.execute_sort_eq hname hc).1]
  constructor
  · intro hread
    rcases Command.Builtin.exists_sortedResources htexts hread with ⟨sorted, hsorted, harranged⟩
    exact ⟨sorted, harranged, by rw [hsorted]; rfl⟩
  · intro hsome
    rcases Command.Builtin.exists_first_malformed htexts hsome with ⟨_, _, _, _, _, _, _, hfailed⟩
    exact ⟨_, by rw [hfailed]; rfl⟩

/-- `gvr` answers what reading the resource under the group and version gives. -/
theorem outcome_gvr (gv r : String) (activityId : Uuid) (revision : Option String) :
    Command.Answers (Identifier.parseUnder gv r) (Path.join [gv, r])
      ((Registry.builtin revision).execute
        ((Request.gvr r (some gv)).context activityId)).outcome := by
  generalize hctx : (Request.gvr r (some gv)).context activityId = ctx
  have hname : ctx.commandName = "gvr" := hctx ▸ rfl
  have hc : ctx.cancelled = false := hctx ▸ rfl
  have hgives : Command.Gives ctx.parameters (Path.join [gv, r]) _ :=
    .joined (hctx ▸ rfl) (hctx ▸ rfl)
  exact ((Command.gvrRun_execute hname hc).of_gives hgives).1

/-- Resources reach the commands as they are, also where they look like options or lists or are
empty. What is written and whether the run succeeds is then up to the resources alone, as long as
there is no configuration. -/
theorem resources_verbatim {texts : List String} (hne : texts ≠ []) (gv r : String)
    (format : Option Report.Format) (files : Settings.Files) (activityId : Uuid) :
    let sorting := commandLine format "sort" ("--" :: texts)
    let reading := commandLine format "gvr" ["--group-version=" ++ gv, "--", r]
    -- the contexts
    (Invocation.parse sorting).map (·.request.context activityId) =
      .ok {
        commandName := "sort"
        parameters := [("resources", .strings texts)]
        activityId := activityId } ∧
    (Invocation.parse reading).map (·.request.context activityId) =
      .ok {
        commandName := "gvr"
        parameters := [("groupVersion", .string gv), ("resource", .string r)]
        activityId := activityId } ∧
    -- sorting
    ((∀ text ∈ texts, ∃ id, Identifier.parse text = .ok id) →
      ∃ sorted, Identifier.Arranged texts sorted ∧
        (∀ other, Identifier.Arranged texts other → other = sorted) ∧
        (run files none activityId sorting revision).exitCode = 0 ∧
        (run files none activityId sorting revision).output =
          Report.render (.strings sorted) (format.getD .standard) false ++ "\n" ∧
        (format = some .json →
          (run files none activityId sorting revision).output =
            (Json.strings sorted).compact ++ "\n")) ∧
    ((∃ text ∈ texts, ∃ e, Identifier.parse text = .error e) →
      (run files none activityId sorting revision).exitCode = 1 ∧
        (run files none activityId sorting revision).output = "") ∧
    -- reading
    ((run files none activityId reading revision).exitCode = 0 ↔
      ∃ id, Identifier.parseUnder gv r = .ok id) ∧
    (∀ id, Identifier.parseUnder gv r = .ok id →
      (run files none activityId reading revision).output =
        Report.render (Command.Builtin.description id) (format.getD .standard) false ++ "\n") ∧
    (∀ e, Identifier.parseUnder gv r = .error e →
      (run files none activityId reading revision).exitCode = 1 ∧
        (run files none activityId reading revision).output = "") := by
  intro sorting reading
  have hsorting : Invocation.parse sorting = .ok { output := format, request := .sort texts } :=
    CommandLine.parse_sort hne
  have hreading : Invocation.parse reading =
      .ok { output := format, request := .gvr r (some gv) } :=
    CommandLine.parse_gvr gv r
  have hload : Settings.load files none none = .ok {} := rfl
  rcases outcome_sort texts activityId revision with ⟨hsorted, hrefused⟩
  have hanswers := outcome_gvr gv r activityId revision
  have hdescribed : ∀ id, Identifier.parseUnder gv r = .ok id →
      (run files none activityId reading revision).exitCode = 0 ∧
      (run files none activityId reading revision).output =
        Report.render (Command.Builtin.description id) (format.getD .standard) false ++ "\n" :=
    fun id hid => run_of_ok hreading hload ((hanswers.described id).2 hid)
  have hmalformed : ∀ e, Identifier.parseUnder gv r = .error e →
      (run files none activityId reading revision).exitCode = 1 ∧
        (run files none activityId reading revision).output = "" :=
    fun e he => run_of_error hreading hload ((hanswers.malformed e).2 he)
  refine ⟨?_, ?_, ?_, ?_, ?_, fun id hid => (hdescribed id hid).2, hmalformed⟩
  · rw [hsorting]
    rfl
  · rw [hreading]
    rfl
  · intro hread
    rcases hsorted hread with ⟨sorted, harranged, hok⟩
    rcases run_of_ok hsorting hload hok with ⟨hcode, houtput⟩
    refine ⟨sorted, harranged, fun other hother => hother.unique harranged hread, hcode, houtput,
      ?_⟩
    rintro rfl
    exact houtput
  · intro hsome
    rcases hrefused hsome with ⟨failure, hfailed⟩
    exact run_of_error hsorting hload hfailed
  · constructor
    · intro hcode
      cases hparse : Identifier.parseUnder gv r with
      | ok id => exact ⟨id, rfl⟩
      | error e =>
        rw [(hmalformed e hparse).1] at hcode
        cases hcode
    · rintro ⟨id, hid⟩
      exact (hdescribed id hid).1

/-- Resources that look like options, are empty, or have commas, equals signs and blanks in them. -/
def oddResources : List String :=
  ["b10/v1/--pretty", "-o", "", "--help", "b2/v1/a,b=c d"]

/-- They come back as they are, those without a group in front. -/
theorem resources_verbatim_odd :
    oddResources ≠ [] ∧
      (∀ text ∈ oddResources, ∃ id, Identifier.parse text = .ok id) ∧
      (run (fun _ => none) none .nil ("-o" :: "json" :: "sort" :: "--" :: oddResources)).output =
        "[\"-o\",\"\",\"--help\",\"b2/v1/a,b=c d\",\"b10/v1/--pretty\"]\n" ∧
      (run (fun _ => none) none .nil
        ["-o", "json", "gvr", "--group-version=a=b/-v", "--", "--help"]).exitCode = 0 ∧
      (run (fun _ => none) none .nil
        ["-o", "json", "gvr", "--group-version=a=b/-v", "--", "-x/y"]).exitCode = 1 := by
  have hread : ∀ text ∈ oddResources, ∃ id, Identifier.parse text = .ok id := by
    unfold oddResources
    simp only [List.forall_mem_cons]
    exact ⟨⟨_, by rfl⟩, ⟨_, by rfl⟩, ⟨_, by rfl⟩, ⟨_, by rfl⟩, ⟨_, by rfl⟩, by simp⟩
  have hne : oddResources ≠ [] := by decide
  have harranged : Identifier.Arranged oddResources
      ["-o", "", "--help", "b2/v1/a,b=c d", "b10/v1/--pretty"] := by
    decide +kernel
  rcases resources_verbatim hne "a=b/-v" "--help" (some .json) (fun _ => none) .nil with
    ⟨_, _, hsorted, _, hcode, _⟩
  rcases resources_verbatim hne "a=b/-v" "-x/y" (some .json) (fun _ => none) .nil with
    ⟨_, _, _, _, _, _, hrefused⟩
  rcases hsorted hread with ⟨sorted, _, hunique, _, _, houtput⟩
  refine ⟨hne, hread, ?_, hcode.2 ⟨_, by rfl⟩, (hrefused _ (by rfl)).1⟩
  rw [← hunique _ harranged] at houtput
  exact (houtput rfl).trans (by decide +kernel)

/-! ## Verbs -/

/-- `can` answers the verdict on its action. -/
theorem exists_verdict (action : String) (verbs : List String) (activityId : Uuid)
    (revision : Option String) :
    ∃ allowed, (allowed = true ↔ Access.Permits verbs action) ∧
      ((Registry.builtin revision).execute
        ((Request.can action verbs).context activityId)).outcome =
          .ok (some (Command.verdict action verbs allowed)) := by
  have hasks : Command.Asks ((Request.can action verbs).context activityId).parameters action
      verbs :=
    ⟨rfl, .given (.many verbs)⟩
  exact ⟨_, Access.allows_iff, Command.outcome_can rfl rfl hasks⟩

/-- However verbs are grouped on the command line, the same is asked for, and the same run is made
of it. -/
theorem can_grouped {action : String} {verbs : List String} (haction : Plain action)
    (hplain : ∀ verb ∈ verbs, Plain verb) (hcommas : ∀ verb ∈ verbs, ',' ∉ verb.toList)
    (grouping : Grouping verbs) (format : Option Report.Format) (activityId : Uuid) :
    let args := fun grouping : Grouping verbs =>
      commandLine format "can" (action :: grouping.arguments)
    -- the context
    (Invocation.parse (args grouping)).map (·.request.context activityId) =
      .ok {
        commandName := "can"
        parameters := [("action", .string action), ("verbs", .strings verbs)]
        activityId := activityId } ∧
    -- the verdict
    (∃ allowed, (allowed = true ↔ Access.Permits verbs action) ∧
      ∀ files environment settings, Settings.load files none environment = .ok settings →
        (run files environment activityId (args grouping) revision).exitCode = 0 ∧
        (run files environment activityId (args grouping) revision).output =
          Report.render (Command.verdict action verbs allowed) (format.getD settings.output)
            settings.pretty ++ "\n") ∧
    -- other groups
    ∀ other : Grouping verbs,
      Invocation.parse (args other) = Invocation.parse (args grouping) ∧
        ∀ files environment, run files environment activityId (args other) revision =
          run files environment activityId (args grouping) revision := by
  intro args
  have hparse : ∀ grouping, Invocation.parse (args grouping) =
      .ok { output := format, request := .can action verbs } :=
    CommandLine.parse_can haction hplain hcommas
  refine ⟨?_, ?_, ?_⟩
  · rw [hparse]
    rfl
  · rcases exists_verdict action verbs activityId revision with ⟨allowed, hallowed, hok⟩
    exact ⟨allowed, hallowed, fun files environment settings hload =>
      run_of_ok (hparse grouping) hload hok⟩
  · intro other
    refine ⟨by rw [hparse, hparse], fun files environment => ?_⟩
    simp only [run, hparse]

/-- Three verbs, one of them twice, each on its own. -/
def apart : Grouping ["get", "list", "get", "watch"] where
  occurrences := [[["get"]], [["list"]], [["get"]], [["watch"]]]
  group_ne_nil := by decide
  flatten_eq := rfl

/-- The same verbs in one occurrence of two groups, and in another of one group. -/
def together : Grouping ["get", "list", "get", "watch"] where
  occurrences := [[["get", "list"], ["get"]], [["watch"]]]
  group_ne_nil := by decide
  flatten_eq := rfl

/-- The two ways to give the verbs do not differ, and a verb that is given twice stays twice. -/
theorem can_grouped_view :
    Plain "view" ∧ (∀ verb ∈ ["get", "list", "get", "watch"], Plain verb) ∧
      (∀ verb ∈ ["get", "list", "get", "watch"], ',' ∉ verb.toList) ∧
      (run (fun _ => none) none .nil
        ["-o", "json", "can", "view", "--verb", "get,list", "get", "--verb", "watch"]).output =
        "\x7b\"action\":\"view\",\"allowed\":true,"
          ++ "\"verbs\":[\"get\",\"list\",\"get\",\"watch\"]\x7d\n" ∧
      run (fun _ => none) none .nil
          ["-o", "json", "can", "view", "--verb", "get", "--verb", "list", "--verb", "get",
            "--verb", "watch"] =
        run (fun _ => none) none .nil
          ["-o", "json", "can", "view", "--verb", "get,list", "get", "--verb", "watch"] := by
  have haction : Plain "view" := by decide
  have hplain : ∀ verb ∈ ["get", "list", "get", "watch"], Plain verb := by decide
  have hcommas : ∀ verb ∈ ["get", "list", "get", "watch"], ',' ∉ verb.toList := by decide
  rcases can_grouped haction hplain hcommas together (some .json) .nil with
    ⟨_, ⟨allowed, hallowed, hrun⟩, hother⟩
  obtain rfl : allowed = true := hallowed.2 (Access.allows_iff.1 (by decide))
  refine ⟨haction, hplain, hcommas, ?_, (hother apart).2 _ _⟩
  exact (hrun _ none {} rfl).2.trans (by decide +kernel)

end ResourceInspector.Program
