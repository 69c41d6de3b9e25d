import ResourceInspector.Command.Handler
/-!
# Scripted handlers

Handlers given as data: a list of instructions to change a context, to cancel, to fail or to answer.
-/

namespace ResourceInspector.Command

/-- An instruction of a script. The first four change a context and are carried out only by a
handler that is called to mutate it. -/
inductive Instruction where
  | set (name : String) (value : Json)
  | remove (name : String)
  | rename (command : String)
  | setResult (value : Json)
  | fail (reason : String)
  | parse (text : String)
  | require (name : String)
  | cancel
  | answer (value : Json)
  | answerParam (name : String)

namespace Instruction

def change (ctx : Context) : Instruction → Context
  | .set name value => ctx.withParam name value
  | .remove name => ctx.withoutParam name
  | .rename command => { ctx with commandName := command }
  | .setResult value => { ctx with result := some value }
  | _ => ctx

/-- Carries out the instructions that do not change the context, up to the first that answers or
fails. -/
def reply (ctx : Context) : List Instruction → Reply
  | [] => { answer := .ok none }
  | .fail reason :: _ => { answer := .error (.rejected reason) }
  | .parse text :: rest =>
    match Identifier.parse text with
    | .ok _ => reply ctx rest
    | .error e => { answer := .error (.identifier e) }
  | .require name :: rest =>
    match ctx.stringParam name with
    | .ok _ => reply ctx rest
    | .error e => { answer := .error (.parameter e) }
  | .cancel :: rest => { reply ctx rest with cancels := true }
  | .answer value :: _ => { answer := .ok (some value) }
  | .answerParam name :: _ =>
    match ctx.paramText name with
    | .ok text => { answer := .ok (some (.string text)) }
    | .error e => { answer := .error (.parameter e) }
  | _ :: rest => reply ctx rest

/-- Makes all changes and carries out the other instructions on the changed context. -/
def mutation (script : List Instruction) (ctx : Context) : Mutation :=
  let changed := script.foldl change ctx
  { reply changed script with context := changed }

end Instruction

/-- The handler that follows a script through each of the interfaces it offers. -/
def Handler.scripted (label : String) (kind : Kind) (interfaces : List Interface)
    (script : List Instruction) : Handler where
  label := some label
  kind := kind
  validate := if .validate ∈ interfaces then some fun ctx => Instruction.reply ctx script else none
  mutate := if .mutate ∈ interfaces then some (Instruction.mutation script) else none
  execute := if .execute ∈ interfaces then some fun ctx => Instruction.reply ctx script else none

end ResourceInspector.Command
