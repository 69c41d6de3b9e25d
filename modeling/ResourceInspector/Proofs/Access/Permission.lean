import ResourceInspector.Access.Basic
/-!
# Permission

What it means that granted verbs permit an action, said of the table, and that this is what
`allows` decides and `events` reports.
-/

namespace ResourceInspector.Access

/-- One of the granted verbs is among those that the table has for the action. -/
def Permits (granted : List String) (action : String) : Prop :=
  ∃ verbs, (action, verbs) ∈ actionVerbs ∧ ∃ verb ∈ granted, verb ∈ verbs

/-- The event that an action is not in the table. -/
def mappingFailed (action : String) : Log.Event where
  level := .error
  target := "kscope_sdk::access"
  message := "verb mapping failed"
  fields := [("error", .shown ("no standard verb for " ++ Text.quote action))]

theorem verbsFor_eq_ok_iff {action : String} {verbs : List String} :
    verbsFor action = .ok verbs ↔ (action, verbs) ∈ actionVerbs := by
  constructor
  · intro h
    unfold verbsFor at h
    split at h
    · next hlookup =>
      obtain rfl := Except.ok.inj h
      obtain ⟨before, after, hsplit, _⟩ := List.lookup_eq_some_iff.1 hlookup
      simp [hsplit]
    · cases h
  · intro h
    simp only [actionVerbs, List.mem_cons, Prod.mk.injEq, List.not_mem_nil, or_false] at h
    rcases h with ⟨rfl, rfl⟩ | ⟨rfl, rfl⟩ | ⟨rfl, rfl⟩ | ⟨rfl, rfl⟩ <;> rfl

/-- The actions of the table are those that have verbs. -/
theorem mem_actions_iff {action : String} :
    action ∈ actions ↔ ∃ verbs, verbsFor action = .ok verbs := by
  simp [verbsFor_eq_ok_iff, actions]

/-- The table is searched for the action, and its verbs for one that was granted. -/
theorem allows_iff {granted : List String} {action : String} :
    allows granted action = true ↔ Permits granted action := by
  unfold allows Permits
  simp only [← verbsFor_eq_ok_iff]
  cases verbsFor action <;> simp

/-- An action that is not in the table is reported once, and any other is not reported. -/
theorem events_eq (action : String) :
    events action = if action ∈ actions then [] else [mappingFailed action] := by
  unfold events
  cases hverbs : verbsFor action with
  | ok verbs => rw [if_pos (mem_actions_iff.2 ⟨verbs, hverbs⟩)]
  | error e =>
    have hmem : action ∉ actions := by
      rw [mem_actions_iff, hverbs]
      rintro ⟨verbs, h⟩
      cases h
    have he : e = ⟨action⟩ := by
      unfold verbsFor at hverbs
      split at hverbs
      · cases hverbs
      · exact (Except.error.inj hverbs).symm
    rw [if_neg hmem, he]
    rfl

end ResourceInspector.Access
