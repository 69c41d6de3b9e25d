import ResourceInspector.Command.Failure
import ResourceInspector.Log.Event
/-!
# Handlers

A handler offers up to three ways of being called: to validate a context, to mutate it, and to
execute on it. Only a mutation has a say in the context, the token on it included. Whichever way it
is called, a handler may report events and cancel the activity.
-/

namespace ResourceInspector.Command

/-- What a call answers: a value, nothing, or a failure. -/
abbrev Answer := Except Failure (Option Json)

/-- What comes of a call that looks at a context. -/
structure Reply where
  answer : Answer
  events : List Log.Event := []
  /-- Whether the token that the call found on the context is cancelled meanwhile. -/
  cancels : Bool := false

/-- What comes of a call that mutates a context. The changed context stands also when the call
fails. -/
structure Mutation extends Reply where
  context : Context
  /-- Whether another token is on the changed context, in place of the one that the call found. -/
  renews : Bool := false

inductive Interface where
  | validate
  | mutate
  | execute
deriving Repr, DecidableEq

namespace Interface

def name : Interface → String
  | .validate => "validate"
  | .mutate => "mutate"
  | .execute => "execute"

end Interface

/-- A handler: the phase it declares and the ways it can be called. Calls of a handler that has a
label are listed under it. -/
structure Handler where
  label : Option String := none
  kind : Kind
  validate : Option (Context → Reply) := none
  mutate : Option (Context → Mutation) := none
  execute : Option (Context → Reply) := none

/-- A call that was made: the way it took, what the handler answered and reported, the context it
left, and what became of the token that it found. There is no way to call a handler that offers
none. -/
structure Call where
  via : Option Interface
  answer : Answer
  events : List Log.Event
  context : Context
  cancels : Bool
  renews : Bool

namespace Call

/-- A call through an interface that leaves the context as it is, cancellation apart. -/
def ofReply (via : Interface) (ctx : Context) (r : Reply) : Call where
  via := some via
  answer := r.answer
  events := r.events
  context := { ctx with cancelled := ctx.cancelled || r.cancels }
  cancels := r.cancels
  renews := false

/-- A call that mutates the context. -/
def ofMutation (ctx : Context) (m : Mutation) : Call where
  via := some .mutate
  answer := m.answer
  events := m.events
  context := { ctx with cancelled := ctx.cancelled || m.cancels }.succeed m.context m.renews
  cancels := m.cancels
  renews := m.renews

/-- What the call has to say about the result of the command: the value that an execution answers,
and nothing otherwise. -/
def value (c : Call) : Option Json :=
  match c.via, c.answer with
  | some .execute, .ok value => value
  | _, _ => none

end Call

namespace Handler

/-- The interface a handler is called through: the first it offers of validating, mutating and
executing. -/
def interface? (h : Handler) : Option Interface :=
  if h.validate.isSome then some .validate
  else if h.mutate.isSome then some .mutate
  else if h.execute.isSome then some .execute
  else none

/-- Calls a handler through the first interface it offers. -/
def call (h : Handler) (ctx : Context) : Call :=
  match h.validate, h.mutate, h.execute with
  | some f, _, _ => .ofReply .validate ctx (f ctx)
  | none, some f, _ => .ofMutation ctx (f ctx)
  | none, none, some f => .ofReply .execute ctx (f ctx)
  | none, none, none => ⟨none, .error (.notCallable h.kind), [], ctx, false, false⟩

/-- A call goes through the interface that the handler is called through. -/
theorem call_via (h : Handler) (ctx : Context) : (h.call ctx).via = h.interface? := by
  unfold call interface?
  cases h.validate <;> cases h.mutate <;> cases h.execute <;> rfl

def validating (check : Context → Reply) : Handler where
  kind := .validator
  validate := some check

def mutating (change : Context → Mutation) : Handler where
  kind := .mutator
  mutate := some change

/-- A handler that executes in the given phase. -/
def executing (kind : Kind) (run : Context → Reply) : Handler where
  kind := kind
  execute := some run

end Handler

end ResourceInspector.Command
