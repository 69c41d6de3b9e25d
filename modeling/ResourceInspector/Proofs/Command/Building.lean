import ResourceInspector.Proofs.Command.Pipeline
import ResourceInspector.Proofs.Command.Registration
import ResourceInspector.Proofs.Text.Bytes
/-!
# What a registry is built of

A registry that was built from the program's own commands and any calls from outside has nothing
else in it: its names, and the handlers that each command is dispatched to, can be read off the
calls. `build_registrations` says how. Two invariants of the entries carry it, both kept by every
handler that is added: the names are in order (`Ordered`), and no name stands without handlers
(`Filled`).
-/

namespace ResourceInspector.Command.Registry

variable {revision : Option String}

/-! ## Names without handlers -/

/-- No name stands without handlers. -/
def Filled (entries : List (String × List Handler)) : Prop :=
  ∀ entry ∈ entries, entry.2 ≠ []

/-- To add a handler leaves no name without handlers. -/
theorem filled_addTo (name : String) (h : Handler) {entries : List (String × List Handler)}
    (hf : Filled entries) : Filled (addTo name h entries) := by
  induction entries with
  | nil => simp [addTo, Filled]
  | cons first rest ih =>
    obtain ⟨n, hs⟩ := first
    obtain ⟨hfirst, hrest⟩ := List.forall_mem_cons.1 hf
    unfold addTo
    split
    · exact List.forall_mem_cons.2 ⟨List.cons_ne_nil _ _, hf⟩
    · split
      · exact List.forall_mem_cons.2 ⟨by simp, hrest⟩
      · exact List.forall_mem_cons.2 ⟨hfirst, ih hrest⟩

section

variable {r : Registry} {name : String}

/-- The names are those that have handlers. -/
theorem mem_names_iff (hf : Filled r.entries) :
    name ∈ r.names ↔ (r.handlers? name).getD [] ≠ [] := by
  unfold names
  cases hr : r.handlers? name with
  | none =>
    have hnot : name ∉ r.entries.map (·.1) := by
      intro hmem
      obtain ⟨entry, hentry, rfl⟩ := List.mem_map.1 hmem
      simpa using List.lookup_eq_none_iff.1 hr entry hentry
    exact iff_of_false hnot (not_not.2 rfl)
  | some hs =>
    have hmem := mem_entries hr
    exact ⟨fun _ => hf _ hmem, fun _ => List.mem_map_of_mem hmem⟩

/-- What is found under a name is told by the handlers it has. -/
theorem handlers?_eq (hf : Filled r.entries) {handlers : List Handler}
    (hall : (r.handlers? name).getD [] = handlers) :
    r.handlers? name = if handlers = [] then none else some handlers := by
  cases hr : r.handlers? name with
  | none => simp [← hall, hr]
  | some hs =>
    have hne : hs ≠ [] := hf (name, hs) (mem_entries hr)
    simp [← hall, hr, hne]

end

/-! ## Sequences of calls -/

/-- What every registration keeps, a sequence of registrations keeps. -/
theorem registerAll_induction {P : List (String × List Handler) → Prop}
    (hadd : ∀ name h entries, P entries → P (addTo name h entries)) {r : Registry}
    (hr : P r.entries) (calls : List (String × Handler)) : P (r.registerAll calls).entries := by
  induction calls generalizing r with
  | nil => exact hr
  | cons call calls ih =>
    apply ih
    rw [registerOne_eq]
    split
    · exact hr
    · exact hadd _ _ _ hr

theorem filled_builtin (revision : Option String) : Filled (builtin revision).entries := by
  rw [builtin_entries]
  simp [Filled]

/-- In a registry that is built every name has a handler. A call that is refused leaves no name. -/
theorem filled_build (calls : List (String × Handler)) : Filled (build revision calls).entries :=
  registerAll_induction (fun name h _ => filled_addTo name h) (filled_builtin revision) calls

/-- In a registry that is built the names are in order, and each of them stands once. -/
theorem ordered_build (calls : List (String × Handler)) : Ordered (build revision calls).entries :=
  registerAll_induction (fun name h _ => ordered_addTo name h) (ordered_builtin revision) calls

theorem build_append_singleton (calls : List (String × Handler)) (call : String × Handler) :
    build revision (calls ++ [call]) = (build revision calls).registerOne call :=
  List.foldl_append ..

/-- Calls that are refused can be left out. -/
theorem registerAll_filter (r : Registry) (calls : List (String × Handler)) :
    r.registerAll calls = r.registerAll (calls.filter (·.2.kind ≠ .internal)) := by
  induction calls generalizing r with
  | nil => rfl
  | cons call calls ih =>
    have hfirst : r.registerAll (call :: calls) = (r.registerOne call).registerAll calls := rfl
    by_cases hk : call.2.kind = .internal
    · rw [List.filter_cons_of_neg (by simpa using hk), hfirst, registerOne_eq, if_pos hk, ih]
    · rw [List.filter_cons_of_pos (by simpa using hk), hfirst, ih]
      rfl

/-- Calls that are refused may as well not be made. -/
theorem build_filter (calls : List (String × Handler)) :
    build revision calls = build revision (calls.filter (·.2.kind ≠ .internal)) := by
  unfold build
  exact registerAll_filter (builtin revision) calls

theorem accepted_ne_nil_iff {calls : List (String × Handler)} {name : String} :
    accepted calls name ≠ [] ↔ ∃ h, (name, h) ∈ calls ∧ h.kind ≠ .internal := by
  constructor
  · intro hne
    obtain ⟨h, hh⟩ := List.exists_mem_of_ne_nil _ hne
    exact ⟨h, mem_accepted.1 hh⟩
  · rintro ⟨h, hh⟩
    exact List.ne_nil_of_mem (mem_accepted.2 hh)

/-- Calls under other names play no part. -/
theorem accepted_filter (calls : List (String × Handler)) (name : String) :
    accepted (calls.filter (·.1 = name)) name = accepted calls name := by
  unfold accepted
  rw [List.filter_filter]
  congr 1
  apply List.filter_congr
  intro call _
  by_cases hn : call.1 = name <;> simp [hn]

/-! ## Dispatching -/

/-- The handlers of a command in the order in which they are dispatched: kind by kind, and of one
kind first those that come with the program and then those accepted, as they were registered. -/
def lineup (revision : Option String) (calls : List (String × Handler)) (name : String) :
    List Handler :=
  [Kind.mutator, .validator, .internal, .observer].flatMap fun kind =>
    ofKind kind (((builtin revision).handlers? name).getD []) ++ ofKind kind (accepted calls name)

/-- Own handlers and accepted ones, put in order together, are put in order kind by kind. -/
theorem phases_eq_lineup (calls : List (String × Handler)) (name : String) :
    phases (((builtin revision).handlers? name).getD [] ++ accepted calls name) =
      lineup revision calls name := by
  simp [phases, lineup]

theorem lineup_eq_nil_iff {calls : List (String × Handler)} {name : String} :
    lineup revision calls name = [] ↔
      ((builtin revision).handlers? name).getD [] ++ accepted calls name = [] := by
  rw [← phases_eq_lineup, List.eq_nil_iff_forall_not_mem, List.eq_nil_iff_forall_not_mem]
  simp only [mem_phases]

/-- A command is dispatched to its handlers and to no others. -/
theorem execute_build (calls : List (String × Handler)) (ctx : Context) :
    (build revision calls).execute ctx =
      if lineup revision calls ctx.commandName = [] then
        ⟨.error (.notFound ctx.commandName), ctx, []⟩
      else runHandlers (lineup revision calls ctx.commandName) { ctx with result := none } := by
  have hall := getD_handlers?_registerAll (ordered_builtin revision) calls ctx.commandName
  have hfound := handlers?_eq (filled_build calls) hall
  split
  · next hnil =>
    rw [if_pos (lineup_eq_nil_iff.1 hnil)] at hfound
    simp only [execute, hfound]
  · next hne =>
    rw [if_neg (mt lineup_eq_nil_iff.2 hne)] at hfound
    rw [execute_eq hfound, phases_eq_lineup]

/-- What a registry is after any sequence of calls from outside. A call is refused just when its
handler is internal, and the registry is the same as if no refused call had been made. The names are
those of the program's own commands and of the accepted calls, each once and in the order of their
bytes. A command is dispatched kind by kind to the program's own handlers and then to those accepted
under its name, in the order of the calls, and calls under other names make no difference to it. -/
theorem build_registrations (calls : List (String × Handler)) :
    -- one more call
    (∀ name h, (build revision calls).register name h =
      if h.kind = .internal then .error (.reserved name)
      else .ok (build revision (calls ++ [(name, h)]))) ∧
    build revision calls = build revision (calls.filter (·.2.kind ≠ .internal)) ∧
    -- names
    (build revision calls).names.Pairwise (fun a b => Text.bytes a < Text.bytes b) ∧
    (∀ name, name ∈ (build revision calls).names ↔
      name ∈ ["actions", "can", "gvr", "sort", "version"] ∨
        ∃ h, (name, h) ∈ calls ∧ h.kind ≠ .internal) ∧
    -- dispatches
    (∀ ctx, (build revision calls).execute ctx =
      if lineup revision calls ctx.commandName = [] then
        ⟨.error (.notFound ctx.commandName), ctx, []⟩
      else runHandlers (lineup revision calls ctx.commandName) { ctx with result := none }) ∧
    ∀ ctx, (build revision calls).execute ctx =
      (build revision (calls.filter (·.1 = ctx.commandName))).execute ctx := by
  refine ⟨?_, build_filter calls, ?_, ?_, execute_build calls, ?_⟩
  · intro name h
    rw [build_append_singleton, registerOne_eq]
    unfold register
    split <;> rfl
  · have hnames : (build revision calls).names.Pairwise (· < ·) :=
      List.pairwise_map.2 (ordered_build calls)
    exact hnames.imp Text.lt_iff_bytes_lt.1
  · intro name
    have hall := getD_handlers?_registerAll (ordered_builtin revision) calls name
    have hown : name ∈ (builtin revision).names ↔
        ((builtin revision).handlers? name).getD [] ≠ [] :=
      mem_names_iff (filled_builtin revision)
    rw [mem_names_iff (filled_build calls), build, hall, ← accepted_ne_nil_iff]
    rw [ne_eq, List.append_eq_nil_iff, not_and_or, ← ne_eq, ← ne_eq, ← hown]
    rfl
  · intro ctx
    have hlineup : lineup revision (calls.filter (·.1 = ctx.commandName)) ctx.commandName =
        lineup revision calls ctx.commandName := by
      unfold lineup
      rw [accepted_filter]
    rw [execute_build, execute_build, hlineup]

end ResourceInspector.Command.Registry
