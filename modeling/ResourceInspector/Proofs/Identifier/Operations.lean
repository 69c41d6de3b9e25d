import ResourceInspector.Proofs.Identifier.Grammar
import ResourceInspector.Proofs.Identifier.Sorting
/-!
# Collections in use

A collection that is worked on in place, by any number of operations one after the other. An
operation can be refused, and what it had written up to there would stay. None of them writes before
it has made sure of all it needs, so that a refused operation leaves no trace (`perform_of_refused`)
and the run goes on as if it had not been asked for. What the others do is to put in one more
identifier or to rearrange the entries, so that in the end every identifier is there that was there
at first or was put in, each as often and just as it was read (`entries_kept`).
-/

namespace ResourceInspector.Identifier.Collection

/-! ## Operations -/

/-- Something to do with a collection. To look at it is to be shown all entries, from which whatever
else can be asked of a collection follows. -/
inductive Operation where
  | push (text : String)
  | swap (i j : Nat)
  | less (i j : Nat)
  | sort
  | look
deriving Repr, DecidableEq

inductive Answer where
  | done
  | order (before : Bool)
  | entries (c : Collection)
deriving Repr, DecidableEq

inductive Refusal where
  | malformed (e : Malformed)
  | outOfRange (e : OutOfRange)
deriving Repr, DecidableEq

/-- Work on a collection in place. Where it breaks off, what was written before stays. -/
abbrev Work (α : Type) := ExceptT Refusal (StateM Collection) α

namespace Work

def entry (i : Nat) : Work Identifier := do
  match (← getThe Collection).get i with
  | .ok id => return id
  | .error e => throw (.outOfRange e)

def write (i : Nat) (id : Identifier) : Work Unit :=
  modify fun c => ⟨c.toList.set i id⟩

end Work

namespace Operation

open Work (entry write)

/-- How an operation is carried out. A text is read before it is put in. -/
def work : Operation → Work Answer
  | .push text => do
    match Identifier.parse text with
    | .ok id =>
      modify (·.push id)
      return .done
    | .error e => throw (.malformed e)
  | .swap i j => do
    let a ← entry i
    let b ← entry j
    write i b
    write j a
    return .done
  | .less i j => do
    let a ← entry i
    let b ← entry j
    return .order (NaturalOrder.less a.group b.group)
  | .sort => do
    modify (·.sort)
    return .done
  | .look => return .entries (← getThe Collection)

/-- What an operation answers on a collection, and what it leaves. -/
def perform (op : Operation) (c : Collection) : Except Refusal Answer × Collection :=
  op.work.run.run c

/-- The identifier that an operation puts in. -/
def pushed? : Operation → Option Identifier
  | .push text => (Identifier.parse text).toOption
  | _ => none

end Operation

/-- What is wrong with two positions. The first is looked at first. -/
def outOfRange? (c : Collection) (i j : Nat) : Option OutOfRange :=
  if c.size ≤ i then some ⟨c.size, i⟩
  else if c.size ≤ j then some ⟨c.size, j⟩
  else none

/-- Why an operation is refused on a collection, if it is. -/
def Operation.refusal? (c : Collection) : Operation → Option Refusal
  | .push text =>
    match Identifier.parse text with
    | .ok _ => none
    | .error e => some (.malformed e)
  | .swap i j | .less i j => (c.outOfRange? i j).map .outOfRange
  | .sort | .look => none

/-! ## What an operation does -/

variable {c d : Collection} {i j k : Nat}

/-- A text that is no identifier is refused, and nothing is put in. -/
theorem perform_push (text : String) (c : Collection) :
    (Operation.push text).perform c =
      match Identifier.parse text with
      | .ok id => (.ok .done, c.push id)
      | .error e => (.error (.malformed e), c) := by
  rw [Operation.perform, Operation.work]
  cases Identifier.parse text with
  | ok id => rfl
  | error e => rfl

/-- Work that starts by reading an entry is over where there is none, and nothing was written. -/
theorem run_entry_bind {α : Type} (i : Nat) (next : Identifier → Work α) (c : Collection) :
    (Work.entry i >>= next).run.run c =
      match c.get i with
      | .ok id => (next id).run.run c
      | .error e => (.error (.outOfRange e), c) := by
  have hread : (Work.entry i >>= next).run.run c =
      ((match c.get i with
        | .ok id => (pure id : Work Identifier)
        | .error e => throw (Refusal.outOfRange e)) >>= next).run.run c := rfl
  rw [hread]
  cases c.get i with
  | ok id => rfl
  | error e => rfl

/-- What comes of taking two entries: an answer and what is left, or that one is not there. -/
def answered {α : Type} (c : Collection) (answer : α → Answer × Collection) :
    Except OutOfRange α → Except Refusal Answer × Collection
  | .ok found => (.ok (answer found).1, (answer found).2)
  | .error e => (.error (.outOfRange e), c)

/-- Work that starts by reading two entries does nothing before it has both. -/
theorem run_entries_bind {α : Type} {next : Identifier → Identifier → Work Answer}
    {f : Identifier → Identifier → α} (answer : α → Answer × Collection)
    (hnext : ∀ a b, (next a b).run.run c = (.ok (answer (f a b)).1, (answer (f a b)).2)) :
    (Work.entry i >>= fun a => Work.entry j >>= fun b => next a b).run.run c =
      answered c answer (c.get i >>= fun a => c.get j >>= fun b => pure (f a b)) := by
  rw [run_entry_bind]
  cases c.get i with
  | error e => rfl
  | ok a =>
    dsimp only
    rw [run_entry_bind]
    cases c.get j with
    | error e => rfl
    | ok b => exact hnext a b

/-- An exchange that is carried out in place comes to what `swap` makes of the entries. -/
theorem perform_swap (i j : Nat) (c : Collection) :
    (Operation.swap i j).perform c = answered c (fun d => (.done, d)) (c.swap i j) := by
  rw [Operation.perform, Operation.work, swap]
  exact run_entries_bind (fun d => (.done, d)) fun _ _ => rfl

theorem perform_less (i j : Nat) (c : Collection) :
    (Operation.less i j).perform c =
      answered c (fun before => (.order before, c)) (c.less i j) := by
  rw [Operation.perform, Operation.work, less]
  exact run_entries_bind (fun before => (.order before, c)) fun _ _ => rfl

/-- An attempt is refused just when a position is out of range. -/
theorem answered_eq_error_iff {α : Type} {answer : α → Answer × Collection}
    {found : Except OutOfRange α} {refusal : Refusal} :
    (answered c answer found).1 = .error refusal ↔
      ∃ e, found = .error e ∧ .outOfRange e = refusal := by
  cases found with
  | ok found => simp [answered]
  | error e => simp [answered]

theorem perform_sort (c : Collection) : Operation.sort.perform c = (.ok .done, c.sort) := rfl

theorem perform_look (c : Collection) : Operation.look.perform c = (.ok (.entries c), c) := rfl

theorem get_of_lt (h : i < c.size) : c.get i = .ok c.toList[i] :=
  get_eq_ok_iff.2 (List.getElem?_eq_getElem h)

theorem get_of_le (h : c.size ≤ i) : c.get i = .error ⟨c.size, i⟩ := by
  have hnone : c.get? i = none := List.getElem?_eq_none h
  rw [get, hnone]

/-- What takes two entries fails at the first position that is outside. -/
theorem get_bind_get_eq_error_iff {α : Type} {f : Identifier → Identifier → α} {e : OutOfRange} :
    (c.get i >>= fun a => c.get j >>= fun b => pure (f a b)) = .error e ↔
      c.outOfRange? i j = some e := by
  unfold outOfRange?
  rcases Nat.lt_or_ge i c.size with hi | hi
  · rw [get_of_lt hi, if_neg (Nat.not_le.2 hi)]
    rcases Nat.lt_or_ge j c.size with hj | hj
    · rw [get_of_lt hj, if_neg (Nat.not_le.2 hj)]
      exact iff_of_false nofun nofun
    · rw [get_of_le hj, if_pos hj, Option.some.injEq]
      exact ⟨Except.error.inj, congrArg Except.error⟩
  · rw [get_of_le hi, if_pos hi, Option.some.injEq]
    exact ⟨Except.error.inj, congrArg Except.error⟩

/-- An exchange is refused for the first of its positions that is out of range. -/
theorem swap_eq_error_iff {e : OutOfRange} :
    c.swap i j = .error e ↔ c.outOfRange? i j = some e :=
  get_bind_get_eq_error_iff

/-- A comparison is refused for the same reason as an exchange. -/
theorem less_eq_error_iff {e : OutOfRange} :
    c.less i j = .error e ↔ c.outOfRange? i j = some e :=
  get_bind_get_eq_error_iff

/-- A refused operation leaves the collection as it was. -/
theorem perform_of_refused {op : Operation} {refusal : Refusal}
    (h : (op.perform c).1 = .error refusal) : (op.perform c).2 = c := by
  cases op with
  | push text =>
    rw [perform_push] at h ⊢
    cases hparse : Identifier.parse text with
    | ok id => rw [hparse] at h; cases h
    | error e => rfl
  | swap i j =>
    rw [perform_swap] at h ⊢
    obtain ⟨e, he, -⟩ := answered_eq_error_iff.1 h
    rw [he, answered]
  | less i j =>
    rw [perform_less] at h ⊢
    obtain ⟨e, he, -⟩ := answered_eq_error_iff.1 h
    rw [he, answered]
  | sort => cases h
  | look => cases h

/-- Which operations are refused, and why. -/
theorem perform_eq_error_iff {op : Operation} {refusal : Refusal} :
    (op.perform c).1 = .error refusal ↔ op.refusal? c = some refusal := by
  cases op with
  | push text =>
    rw [perform_push, Operation.refusal?]
    cases Identifier.parse text <;> simp
  | swap i j =>
    simp only [perform_swap, answered_eq_error_iff, swap_eq_error_iff, Operation.refusal?,
      Option.map_eq_some_iff]
  | less i j =>
    simp only [perform_less, answered_eq_error_iff, less_eq_error_iff, Operation.refusal?,
      Option.map_eq_some_iff]
  | sort => exact iff_of_false nofun nofun
  | look => exact iff_of_false nofun nofun

/-- An operation keeps the entries, apart from what it puts in. -/
theorem perm_perform (op : Operation) (c : Collection) :
    (op.perform c).2.toList.Perm (c.toList ++ op.pushed?.toList) := by
  cases op with
  | push text =>
    rw [perform_push, Operation.pushed?]
    cases Identifier.parse text with
    | ok id => exact List.Perm.refl _
    | error e => simp [Except.toOption]
  | swap i j =>
    rw [perform_swap]
    cases hswap : c.swap i j with
    | ok d => simpa [answered, Operation.pushed?] using perm_of_swap hswap
    | error e => simp [answered, Operation.pushed?]
  | less i j =>
    rw [perform_less]
    cases c.less i j <;> simp [answered, Operation.pushed?]
  | sort =>
    rw [perform_sort]
    simpa [Operation.pushed?] using perm_sort c
  | look => simp [Operation.pushed?, perform_look]

/-- An exchange moves the two entries and no other. -/
theorem get?_swap (h : c.swap i j = .ok d) (k : Nat) :
    d.get? k = if k = i then c.get? j else if k = j then c.get? i else c.get? k := by
  unfold swap at h
  obtain ⟨a, ha, h⟩ := bind_eq_ok_iff.1 h
  obtain ⟨b, hb, h⟩ := bind_eq_ok_iff.1 h
  obtain rfl := Except.ok.inj h
  have ha := get_eq_ok_iff.1 ha
  have hb := get_eq_ok_iff.1 hb
  obtain ⟨hi, -⟩ := List.getElem?_eq_some_iff.1 ha
  obtain ⟨hj, -⟩ := List.getElem?_eq_some_iff.1 hb
  have hget : get? ⟨(c.toList.set i b).set j a⟩ k =
      if j = k then some a else if i = k then some b else c.get? k := by
    simp only [get?, List.getElem?_set, List.length_set, if_pos hi, if_pos hj]
  rw [hget, ha, hb]
  by_cases hki : k = i
  · by_cases hkj : k = j
    · -- an entry that is exchanged with itself
      subst hki hkj
      have hab : a = b := Option.some.inj (ha.symm.trans hb)
      simp [hab]
    · simp [hki, Ne.symm (hki ▸ hkj)]
  · simp [hki, Ne.symm hki, eq_comm]

theorem exists_swap (hi : i < c.size) (hj : j < c.size) : ∃ d, c.swap i j = .ok d := by
  unfold swap
  rw [get_of_lt hi, get_of_lt hj]
  exact ⟨_, rfl⟩

theorem ext_get? (h : ∀ k, c.get? k = d.get? k) : c = d := by
  cases c
  cases d
  exact congrArg Collection.mk (List.ext_getElem? h)

/-- To exchange the same entries again takes the exchange back. -/
theorem swap_swap (hi : i < c.size) (hj : j < c.size) (h : c.swap i j = .ok d) :
    d.swap i j = .ok c := by
  have hsize : d.size = c.size := (perm_of_swap h).length_eq
  obtain ⟨e, he⟩ := exists_swap (hi.trans_eq hsize.symm) (hj.trans_eq hsize.symm)
  have hback : e = c := by
    refine ext_get? fun k => ?_
    rw [get?_swap he, get?_swap h i, get?_swap h j, get?_swap h k]
    split_ifs <;> simp_all
  rw [he, hback]

theorem parse_of_pushed? {op : Operation} {id : Identifier} (h : op.pushed? = some id) :
    Identifier.parse id.raw = .ok id := by
  cases op with
  | push text =>
    cases hparse : Identifier.parse text with
    | ok read =>
      obtain rfl : read = id := by simpa [Operation.pushed?, hparse, Except.toOption] using h
      rw [(parse_eq_ok_iff.1 hparse).1, hparse]
    | error e => simp [Operation.pushed?, hparse, Except.toOption] at h
  | swap | less | sort | look => cases h

/-! ## Runs -/

/-- What is left after some operations. -/
def after (ops : List Operation) (c : Collection) : Collection :=
  ops.foldl (fun c op => (op.perform c).2) c

/-- What is answered to some operations, one after the other. -/
def answers : List Operation → Collection → List (Except Refusal Answer)
  | [], _ => []
  | op :: ops, c => (op.perform c).1 :: answers ops (op.perform c).2

/-- Operations in two stages leave what they leave in one. -/
theorem after_append (before rest : List Operation) (c : Collection) :
    after (before ++ rest) c = after rest (after before c) :=
  List.foldl_append

/-- The second stage is answered by what the first has left. -/
theorem answers_append (before rest : List Operation) (c : Collection) :
    answers (before ++ rest) c = answers before c ++ answers rest (after before c) := by
  induction before generalizing c with
  | nil => rfl
  | cons op before ih => exact congrArg _ (ih _)

/-- However entries were moved, what is left is what was there and what was put in. -/
theorem perm_after (ops : List Operation) (c : Collection) :
    (after ops c).toList.Perm (c.toList ++ ops.filterMap Operation.pushed?) := by
  induction ops generalizing c with
  | nil => simp [after]
  | cons op ops ih =>
    have hrest := ih (op.perform c).2
    have hop := (perm_perform op c).append_right (ops.filterMap Operation.pushed?)
    have hpushed : (op :: ops).filterMap Operation.pushed? =
        op.pushed?.toList ++ ops.filterMap Operation.pushed? := by
      cases h : op.pushed? <;> simp [h]
    rw [hpushed, ← List.append_assoc]
    exact hrest.trans hop

/-- Without a refused operation the run goes the same way. -/
theorem run_of_refused {op : Operation} {refusal : Refusal} (before rest : List Operation)
    (h : (op.perform (after before c)).1 = .error refusal) :
    after (before ++ op :: rest) c = after (before ++ rest) c ∧
      answers (before ++ op :: rest) c =
        answers before c ++ .error refusal :: answers rest (after before c) := by
  have hleft : (op.perform (after before c)).2 = after before c := perform_of_refused h
  constructor
  · rw [after_append, after_append]
    exact congrArg (after rest) hleft
  · rw [answers_append, answers, h, hleft]

/-- Whatever is done with a collection of identifiers that were read, what is in it afterwards is
what was in it and what was put in, each as it was read. An operation is refused for a text that is
malformed or for a position that is outside, of two positions for the first that is. It then leaves
the collection as it was, and the operations after it have the answers and the effects that they
would have had without it. Entries that are exchanged are just the two at the positions named, and
the same exchange once more takes it back. -/
theorem entries_kept (c : Collection) (hc : ∀ id ∈ c.toList, Identifier.parse id.raw = .ok id)
    (ops : List Operation) :
    (after ops c).toList.Perm (c.toList ++ ops.filterMap Operation.pushed?) ∧
    (∀ id ∈ (after ops c).toList, Identifier.parse id.raw = .ok id) ∧
    -- refused operations
    (∀ before op rest refusal, ops = before ++ op :: rest →
      (op.perform (after before c)).1 = .error refusal →
      after (before ++ [op]) c = after before c ∧
      after ops c = after (before ++ rest) c ∧
      answers ops c = answers before c ++ .error refusal :: answers rest (after before c) ∧
      answers (before ++ rest) c = answers before c ++ answers rest (after before c)) ∧
    (∀ d (op : Operation) refusal,
      (op.perform d).1 = .error refusal ↔ op.refusal? d = some refusal) ∧
    -- exchanges
    (∀ d i j, i < d.size → j < d.size → ∃ e, (Operation.swap i j).perform d = (.ok .done, e) ∧
      e.get? i = d.get? j ∧ e.get? j = d.get? i ∧
      (∀ k, k ≠ i → k ≠ j → e.get? k = d.get? k) ∧
      (Operation.swap i j).perform e = (.ok .done, d)) := by
  refine ⟨perm_after ops c, ?_, ?_, fun d op refusal => perform_eq_error_iff, ?_⟩
  · intro id hid
    rcases List.mem_append.1 ((perm_after ops c).mem_iff.1 hid) with hid | hid
    · exact hc id hid
    · obtain ⟨op, -, hop⟩ := List.mem_filterMap.1 hid
      exact parse_of_pushed? hop
  · rintro before op rest refusal rfl hrefused
    obtain ⟨hafter, hanswers⟩ := run_of_refused before rest hrefused
    refine ⟨?_, hafter, hanswers, answers_append before rest c⟩
    rw [after_append]
    exact perform_of_refused hrefused
  · intro d i j hi hj
    obtain ⟨e, he⟩ := exists_swap hi hj
    refine ⟨e, by rw [perform_swap, he, answered], ?_, ?_, ?_,
      by rw [perform_swap, swap_swap hi hj he, answered]⟩
    · rw [get?_swap he, if_pos rfl]
    · rw [get?_swap he, if_pos (rfl : j = j)]
      exact ite_eq_right_iff.2 fun hji => by rw [hji]
    · intro k hki hkj
      rw [get?_swap he, if_neg hki, if_neg hkj]

/-- Two entries of one group. -/
def pair : Collection :=
  ⟨[⟨"apps/v1/pods:log", "apps", "v1", "pods", "log"⟩, ⟨"apps/nodes", "", "apps", "nodes", ""⟩]⟩

/-- Texts and positions that are good and bad in turn. -/
def attempts : List Operation :=
  [.swap 1 2, .push "a/b/c/d", .push "v1/pods", .swap 3 0, .swap 1 2, .sort, .less 0 9]

/-- The first of the operations is refused for its second position, and makes no difference. -/
theorem entries_kept_pair :
    (∀ id ∈ pair.toList, Identifier.parse id.raw = .ok id) ∧
      ((Operation.swap 1 2).perform pair).1 = .error (.outOfRange ⟨2, 2⟩) ∧
      after attempts pair = after attempts.tail pair ∧
      (after attempts pair).toList.Perm
        (pair.toList ++ [⟨"v1/pods", "", "v1", "pods", ""⟩]) := by
  have hread : ∀ id ∈ pair.toList, Identifier.parse id.raw = .ok id := by decide +kernel
  have hrefused : ((Operation.swap 1 2).perform pair).1 = .error (.outOfRange ⟨2, 2⟩) := rfl
  have hpushed : attempts.filterMap Operation.pushed? = [⟨"v1/pods", "", "v1", "pods", ""⟩] := by
    decide +kernel
  obtain ⟨hperm, -, hskip, -, -⟩ := entries_kept pair hread attempts
  obtain ⟨-, hafter, -, -⟩ := hskip [] (.swap 1 2) attempts.tail _ rfl hrefused
  exact ⟨hread, hrefused, hafter, hpushed ▸ hperm⟩

end ResourceInspector.Identifier.Collection
