import ResourceInspector.Encoding.Context
import ResourceInspector.Proofs.Encoding.Record
import ResourceInspector.Proofs.Except
import ResourceInspector.Proofs.Uuid
/-!
# Contexts read back

What a context is read back as from its own JSON form (`restored`). Two things are lost on the way.
The form does not tell whether the context was cancelled, and it tells a result of null from no
result, but the reader does not.
-/

namespace ResourceInspector.Command.Context

variable (ctx : Context)

/-- What a context is read back as. It is not cancelled, and a result of null is none. -/
def restored : Context :=
  { ctx with result := if ctx.result = some .null then none else ctx.result, cancelled := false }

/-- A context that was read back once is read back as it is. -/
theorem restored_restored : ctx.restored.restored = ctx.restored := by
  unfold restored
  split <;> simp [*]

/-! ## The members of a context -/

/-- The members for the fields of a context, in the order of the fields. Where there is no result
the last of them is null. -/
def members : List (String × Json) :=
  [("command_name", .string ctx.commandName), ("parameters", .object ctx.parameters),
   ("activity_id", .string ctx.activityId.toText), ("result", ctx.result.getD .null)]

/-- What the members of these names restore of a context. -/
def only (names : List String) : Context where
  commandName := if "command_name" ∈ names then ctx.commandName else ""
  parameters := if "parameters" ∈ names then ctx.parameters else []
  activityId := if "activity_id" ∈ names then ctx.activityId else .nil
  result := if "result" ∈ names then ctx.restored.result else none

/-- The last member is left out where there is no result. -/
theorem toJson_eq :
    ctx.toJson = Json.ofMembers (ctx.members.take (if ctx.result = none then 3 else 4)) := by
  unfold toJson members
  cases ctx.result <;> rfl

/-- A result of null is read back as none, and every other one as itself. -/
theorem resultOfJson_getD : resultOfJson (ctx.result.getD .null) = .ok ctx.restored.result := by
  unfold restored
  cases ctx.result with
  | none => rfl
  | some value => cases value <;> rfl

theorem uuid_toText (id : Uuid) : Encoding.uuid (.string id.toText) = .ok id :=
  mapError_eq_ok_iff.2 id.parse_toText

theorem fills_only : layout.Fills ctx.members ctx.only where
  names := rfl
  nil := rfl
  put := by
    intro field hfield value hvalue ns
    simp only [layout, List.mem_cons, List.not_mem_nil, or_false] at hfield
    -- each field meets the one member of its name
    rcases hfield with rfl | rfl | rfl | rfl <;> simp [members] at hvalue <;> subst hvalue <;>
      simp [only, Except.map, Encoding.string, Encoding.members, uuid_toText, resultOfJson_getD]
  congr := by
    intro ns ns' h
    simp [Encoding.Layout.names, layout] at h
    simp [only, h]

/-- What is written of a context is read as that context, but for a null result and the token. -/
theorem ofJson_toJson : ofJson ctx.toJson = .ok ctx.restored := by
  rw [toJson_eq, ofJson, ctx.fills_only.decode_ofMembers fun _ => List.mem_of_mem_take]
  · cases h : ctx.result <;> simp [only, members, restored, h]
  · cases h : ctx.result <;> simp [layout, members]

/-- A context is read back from what it is written as, except for a result of null, which is then
none, and for the cancellation. What was read back once is read back as it is. -/
theorem toJson_round_trip (ctx : Context) :
    ∃ read, ofJson ctx.toJson = .ok read ∧
      read.commandName = ctx.commandName ∧ read.parameters = ctx.parameters ∧
      read.activityId = ctx.activityId ∧ read.cancelled = false ∧
      (read.result = ctx.result ↔ ctx.result ≠ some .null) ∧
      (ctx.result = some .null → read.result = none) ∧
      ofJson read.toJson = .ok read := by
  refine ⟨ctx.restored, ctx.ofJson_toJson, rfl, rfl, rfl, rfl, ?_, ?_, ?_⟩
  · unfold restored
    split <;> simp [*]
  · intro hnull
    simp [restored, hnull]
  · rw [ofJson_toJson, restored_restored]

end ResourceInspector.Command.Context
