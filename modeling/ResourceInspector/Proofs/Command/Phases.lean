import ResourceInspector.Command.Dispatch
import ResourceInspector.Proofs.StableSort
/-!
# The order of a pipeline

The handlers of a command, put in order, are its mutators, then its validators, then its internal
handlers, then its observers, each group in the order of registration (`inPhases_eq_phases`). The
four groups say what a stable sort by priority does without mentioning a sort.
-/

namespace ResourceInspector.Command

/-- The handlers of one kind, in the order they were registered. -/
def ofKind (kind : Kind) (handlers : List Handler) : List Handler :=
  handlers.filter (·.kind = kind)

/-- The handlers kind by kind. -/
def phases (handlers : List Handler) : List Handler :=
  ofKind .mutator handlers ++ ofKind .validator handlers ++ ofKind .internal handlers
    ++ ofKind .observer handlers

/-! ## Handlers of one kind -/

/-- A handler is among those of a kind if it was registered and is of that kind. -/
@[simp] theorem mem_ofKind {kind : Kind} {handlers : List Handler} {h : Handler} :
    h ∈ ofKind kind handlers ↔ h ∈ handlers ∧ h.kind = kind := by
  simp [ofKind]

/-- The handlers of one kind, from two lists: first come those of the first one. -/
@[simp] theorem ofKind_append (kind : Kind) (hs hs' : List Handler) :
    ofKind kind (hs ++ hs') = ofKind kind hs ++ ofKind kind hs' :=
  List.filter_append ..

theorem ofKind_cons_of_eq {kind : Kind} {h : Handler} (hs : List Handler) (hk : h.kind = kind) :
    ofKind kind (h :: hs) = h :: ofKind kind hs := by
  simp [ofKind, hk]

theorem ofKind_cons_of_ne {kind : Kind} {h : Handler} (hs : List Handler) (hk : h.kind ≠ kind) :
    ofKind kind (h :: hs) = ofKind kind hs := by
  simp [ofKind, hk]

/-- A phase that no handler declares is empty. -/
theorem ofKind_eq_nil_of_forall_ne {kind : Kind} {handlers : List Handler}
    (h : ∀ x ∈ handlers, x.kind ≠ kind) : ofKind kind handlers = [] := by
  simpa [ofKind] using h

/-- Every handler has its place in one of the phases. -/
theorem mem_phases {handlers : List Handler} {h : Handler} :
    h ∈ phases handlers ↔ h ∈ handlers := by
  cases hk : h.kind <;> simp [phases, hk]

/-! ## Sorting by priority -/

theorem phaseLe_trans (a b c : Handler) (hab : phaseLe a b) (hbc : phaseLe b c) :
    phaseLe a c := by
  simp only [phaseLe, decide_eq_true_eq] at *
  omega

theorem phaseLe_total (a b : Handler) : (phaseLe a b || phaseLe b a) = true := by
  simp only [phaseLe, Bool.or_eq_true, decide_eq_true_eq]
  omega

/-- Sorting keeps the handlers of one kind and their order among each other. -/
theorem ofKind_inPhases (kind : Kind) (handlers : List Handler) :
    ofKind kind (inPhases handlers) = ofKind kind handlers := by
  apply StableSort.filter_mergeSort phaseLe_trans phaseLe_total
  intro a b ha hb
  have ha : a.kind = kind := of_decide_eq_true ha
  have hb : b.kind = kind := of_decide_eq_true hb
  simp [phaseLe, ha, hb]

/-- After sorting no handler comes before one of an earlier phase. -/
theorem pairwise_inPhases (handlers : List Handler) :
    (inPhases handlers).Pairwise (fun a b => phaseLe a b) :=
  List.pairwise_mergeSort phaseLe_trans phaseLe_total handlers

/-- A list in order of priority is its own four phases, one after the other. -/
theorem phases_eq_of_pairwise {handlers : List Handler}
    (hsorted : handlers.Pairwise (fun a b => phaseLe a b)) : phases handlers = handlers := by
  induction handlers with
  | nil => rfl
  | cons h rest ih =>
    have hle : ∀ x ∈ rest, h.kind.priority ≤ x.kind.priority := by
      intro x hx
      simpa [phaseLe] using List.rel_of_pairwise_cons hsorted hx
    -- a phase before that of the first handler has no handler left
    have hnone : ∀ kind : Kind, kind.priority < h.kind.priority → ofKind kind rest = [] := by
      intro kind hlt
      apply ofKind_eq_nil_of_forall_ne
      intro x hx hk
      have hpriority : h.kind.priority ≤ x.kind.priority := hle x hx
      rw [hk] at hpriority
      omega
    have hrest : phases rest = rest := ih hsorted.tail
    simp only [phases] at hrest ⊢
    cases hk : h.kind <;> rw [hk] at hnone
    case mutator =>
      simpa [ofKind_cons_of_eq, ofKind_cons_of_ne, hk] using hrest
    case validator =>
      simpa [ofKind_cons_of_eq, ofKind_cons_of_ne, hk, hnone .mutator (by decide)] using hrest
    case internal =>
      simpa [ofKind_cons_of_eq, ofKind_cons_of_ne, hk, hnone .mutator (by decide),
        hnone .validator (by decide)] using hrest
    case observer =>
      simpa [ofKind_cons_of_eq, ofKind_cons_of_ne, hk, hnone .mutator (by decide),
        hnone .validator (by decide), hnone .internal (by decide)] using hrest

/-- The order in which handlers run: kind by kind, and inside a kind as registered. -/
theorem inPhases_eq_phases (handlers : List Handler) : inPhases handlers = phases handlers := by
  calc
    inPhases handlers = phases (inPhases handlers) :=
      (phases_eq_of_pairwise (pairwise_inPhases handlers)).symm
    _ = phases handlers := by simp only [phases, ofKind_inPhases]

/-- No handler is lost, and none is added. -/
@[simp] theorem length_phases (handlers : List Handler) :
    (phases handlers).length = handlers.length := by
  rw [← inPhases_eq_phases, inPhases, List.length_mergeSort]

/-- Inside a phase the handlers stand as they were registered. -/
theorem ofKind_phases (kind : Kind) (handlers : List Handler) :
    ofKind kind (phases handlers) = ofKind kind handlers := by
  rw [← inPhases_eq_phases, ofKind_inPhases]

end ResourceInspector.Command
