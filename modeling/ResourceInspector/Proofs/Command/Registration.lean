import Mathlib.Data.String.Basic
import ResourceInspector.Command.Registry
import ResourceInspector.Proofs.Command.Phases
/-!
# Registration

What a registry has for a name after any sequence of registrations from outside: the handlers it
came with, and behind them those that were accepted under that name, in the order of the calls. A
call that is refused adds nothing.
-/

namespace ResourceInspector.Command.Registry

/-- The names of the entries are in order, each once. -/
def Ordered (entries : List (String × List Handler)) : Prop :=
  entries.Pairwise (fun a b => a.1 < b.1)

/-! ## Adding a handler -/

theorem lookup_addTo_of_ne {name other : String} (h : Handler) (hne : other ≠ name)
    (entries : List (String × List Handler)) :
    (addTo name h entries).lookup other = entries.lookup other := by
  have hbeq : (other == name) = false := by simpa using hne
  induction entries with
  | nil => simp [addTo, List.lookup_cons, hbeq]
  | cons entry rest ih =>
    obtain ⟨n, hs⟩ := entry
    unfold addTo
    split
    · rw [List.lookup_cons, hbeq]
    · split
      · next hn => simp only [List.lookup_cons, hn, hbeq]
      · simp only [List.lookup_cons, ih]

/-- A name below all names of the entries is not among them. -/
theorem lookup_eq_none_of_lt {name : String} {entries : List (String × List Handler)}
    (hlt : ∀ entry ∈ entries, name < entry.1) : entries.lookup name = none := by
  rw [List.lookup_eq_none_iff]
  intro entry hentry
  simpa using (hlt entry hentry).ne

/-- The handler comes behind those that the name already has. -/
theorem lookup_addTo_self (name : String) (h : Handler) {entries : List (String × List Handler)}
    (ho : Ordered entries) :
    (addTo name h entries).lookup name = some ((entries.lookup name).getD [] ++ [h]) := by
  induction entries with
  | nil => simp [addTo]
  | cons entry rest ih =>
    obtain ⟨n, hs⟩ := entry
    obtain ⟨hfirst, hrest⟩ := List.pairwise_cons.1 ho
    unfold addTo
    split
    · next hlt =>
      -- the name comes before all others, so it had no handlers
      have hnone : ((n, hs) :: rest).lookup name = none := by
        apply lookup_eq_none_of_lt
        intro entry hentry
        rcases List.mem_cons.1 hentry with rfl | hentry
        · exact hlt
        · exact hlt.trans (hfirst entry hentry)
      simp [hnone]
    · split
      · next hn => simp [hn]
      · next hn =>
        have hne : (name == n) = false := by simpa using Ne.symm hn
        simp only [List.lookup_cons, hne]
        exact ih hrest

theorem mem_addTo {name : String} {h : Handler} {entries : List (String × List Handler)}
    {entry : String × List Handler} (hentry : entry ∈ addTo name h entries) :
    entry.1 = name ∨ ∃ old ∈ entries, old.1 = entry.1 := by
  induction entries with
  | nil =>
    have heq : entry = (name, [h]) := by simpa [addTo] using hentry
    rw [heq]
    exact Or.inl rfl
  | cons first rest ih =>
    obtain ⟨n, hs⟩ := first
    unfold addTo at hentry
    split at hentry
    · rcases List.mem_cons.1 hentry with rfl | hold
      · exact Or.inl rfl
      · exact Or.inr ⟨entry, hold, rfl⟩
    · split at hentry
      · next hn =>
        rcases List.mem_cons.1 hentry with rfl | hold
        · exact Or.inl hn
        · exact Or.inr ⟨entry, List.mem_cons_of_mem _ hold, rfl⟩
      · rcases List.mem_cons.1 hentry with rfl | hold
        · exact Or.inr ⟨_, List.mem_cons_self, rfl⟩
        · rcases ih hold with hname | ⟨old, hmem, hname⟩
          · exact Or.inl hname
          · exact Or.inr ⟨old, List.mem_cons_of_mem _ hmem, hname⟩

/-- A new name is put where it belongs, so the names stay in order. -/
theorem ordered_addTo (name : String) (h : Handler) {entries : List (String × List Handler)}
    (ho : Ordered entries) : Ordered (addTo name h entries) := by
  induction entries with
  | nil => simp [addTo, Ordered]
  | cons entry rest ih =>
    obtain ⟨n, hs⟩ := entry
    obtain ⟨hfirst, hrest⟩ := List.pairwise_cons.1 ho
    unfold addTo
    split
    · next hlt =>
      refine List.pairwise_cons.2 ⟨?_, ho⟩
      intro entry hentry
      rcases List.mem_cons.1 hentry with rfl | hentry
      · exact hlt
      · exact hlt.trans (hfirst entry hentry)
    · split
      · exact List.pairwise_cons.2 ⟨hfirst, hrest⟩
      · next hnlt hne =>
        refine List.pairwise_cons.2 ⟨?_, ih hrest⟩
        intro entry hentry
        rcases mem_addTo hentry with hname | ⟨old, hold, hname⟩
        · rw [hname]
          exact lt_of_le_of_ne (not_lt.1 hnlt) hne
        · rw [← hname]
          exact hfirst old hold

/-- Adding a handler puts it behind those of its name and touches no other name. -/
theorem getD_handlers?_add {r : Registry} (ho : Ordered r.entries) (name : String) (h : Handler)
    (other : String) :
    ((r.add name h).handlers? other).getD [] =
      (r.handlers? other).getD [] ++ if name = other then [h] else [] := by
  unfold add handlers?
  by_cases hn : name = other
  · subst hn
    simp [lookup_addTo_self name h ho]
  · simp [hn, lookup_addTo_of_ne h (Ne.symm hn)]

/-! ## Registering from outside -/

variable {revision : Option String}

/-- One registration from outside. A refusal is reported to the caller and leaves the registry as it
is. -/
def registerOne (r : Registry) (call : String × Handler) : Registry :=
  match r.register call.1 call.2 with
  | .ok r' => r'
  | .error _ => r

/-- The registry after a sequence of registrations, those among them that are refused included. -/
def registerAll (r : Registry) (calls : List (String × Handler)) : Registry :=
  calls.foldl registerOne r

/-- The builtin commands with further handlers registered. -/
def build (revision : Option String) (calls : List (String × Handler)) : Registry :=
  (builtin revision).registerAll calls

/-- The handlers accepted for a command, in the order of the calls. -/
def accepted (calls : List (String × Handler)) (name : String) : List Handler :=
  (calls.filter fun call => call.1 = name ∧ call.2.kind ≠ .internal).map (·.2)

theorem mem_accepted {calls : List (String × Handler)} {name : String} {h : Handler} :
    h ∈ accepted calls name ↔ (name, h) ∈ calls ∧ h.kind ≠ .internal := by
  simp [accepted]

/-- A refusal leaves the registry as it is. -/
theorem registerOne_eq (r : Registry) (call : String × Handler) :
    r.registerOne call = if call.2.kind = .internal then r else r.add call.1 call.2 := by
  unfold registerOne register
  by_cases hk : call.2.kind = .internal <;> simp [hk]

theorem ordered_registerOne {r : Registry} (ho : Ordered r.entries) (call : String × Handler) :
    Ordered (r.registerOne call).entries := by
  rw [registerOne_eq]
  split
  · exact ho
  · exact ordered_addTo _ _ ho

/-- However the calls for several names are mixed, each name has its own handlers first and then the
accepted ones, in the order of the calls. -/
theorem getD_handlers?_registerAll {r : Registry} (ho : Ordered r.entries)
    (calls : List (String × Handler)) (name : String) :
    ((r.registerAll calls).handlers? name).getD [] =
      (r.handlers? name).getD [] ++ accepted calls name := by
  induction calls generalizing r with
  | nil => simp [registerAll, accepted]
  | cons call calls ih =>
    have hone : ((r.registerOne call).handlers? name).getD [] =
        (r.handlers? name).getD [] ++ accepted [call] name := by
      rw [registerOne_eq]
      by_cases hk : call.2.kind = .internal
      · simp [hk, accepted]
      · by_cases hn : call.1 = name <;> simp [hk, hn, accepted, getD_handlers?_add ho]
    calc
      ((r.registerAll (call :: calls)).handlers? name).getD []
          = ((r.registerOne call).handlers? name).getD [] ++ accepted calls name :=
        ih (ordered_registerOne ho call)
      _ = (r.handlers? name).getD [] ++ accepted [call] name ++ accepted calls name := by rw [hone]
      _ = (r.handlers? name).getD [] ++ accepted (call :: calls) name := by
        simp only [List.append_assoc, accepted, ← List.map_append, ← List.filter_append]
        rfl

/-- What is found under a name stands in the entries. -/
theorem mem_entries {r : Registry} {name : String} {handlers : List Handler}
    (hr : r.handlers? name = some handlers) : (name, handlers) ∈ r.entries := by
  obtain ⟨before, after, hsplit, _⟩ := List.lookup_eq_some_iff.1 hr
  simp [hsplit]

/-- What holds of every handler in the entries holds of those that are found under a name. -/
theorem forall_mem_handlers? {r : Registry} {P : String → Handler → Prop}
    (hall : ∀ entry ∈ r.entries, ∀ h ∈ entry.2, P entry.1 h) {name : String} {h : Handler}
    (hh : h ∈ (r.handlers? name).getD []) : P name h := by
  cases hown : r.handlers? name with
  | none => simp [hown] at hh
  | some own =>
    rw [hown, Option.getD_some] at hh
    exact hall (name, own) (mem_entries hown) h hh

/-- What holds of the handlers that are found under a name holds of all that are dispatched. -/
theorem forall_mem_phases {r : Registry} {P : Handler → Prop} {name : String}
    {handlers : List Handler} (hr : r.handlers? name = some handlers)
    (hall : ∀ h ∈ (r.handlers? name).getD [], P h) : ∀ h ∈ phases handlers, P h := by
  intro h hh
  apply hall
  rw [hr]
  exact mem_phases.1 hh

/-- The commands that come with the program. -/
theorem builtin_entries :
    (builtin revision).entries =
      [("actions", [Builtin.actions]), ("can", [Builtin.can, Builtin.audit]),
       ("gvr", [Builtin.joinGroupVersion, Builtin.checkResource, Builtin.describe]),
       ("sort", [Builtin.sort]), ("version", [Builtin.version revision])] := rfl

theorem ordered_builtin (revision : Option String) : Ordered (builtin revision).entries := by
  rw [builtin_entries]
  unfold Ordered
  simp only [List.pairwise_cons, List.forall_mem_cons]
  decide

/-- The handlers of a command: the builtin ones, then the accepted ones. -/
theorem eq_of_handlers?_build {calls : List (String × Handler)} {name : String}
    {handlers : List Handler} (hr : (build revision calls).handlers? name = some handlers) :
    handlers = ((builtin revision).handlers? name).getD [] ++ accepted calls name := by
  rw [← getD_handlers?_registerAll (ordered_builtin revision), ← build, hr]
  rfl

/-- A builtin command keeps its handlers, in front of all others. -/
theorem handlers?_build_of_builtin {name : String} {own : List Handler}
    (calls : List (String × Handler)) (hown : (builtin revision).handlers? name = some own)
    (hne : own ≠ []) :
    (build revision calls).handlers? name = some (own ++ accepted calls name) := by
  cases hr : (build revision calls).handlers? name with
  | none =>
    have h := getD_handlers?_registerAll (ordered_builtin revision) calls name
    rw [← build, hr, hown] at h
    exact absurd (List.append_eq_nil_iff.1 h.symm).1 hne
  | some handlers => rw [eq_of_handlers?_build hr, hown, Option.getD_some]

end ResourceInspector.Command.Registry
