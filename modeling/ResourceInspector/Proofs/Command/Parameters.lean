import ResourceInspector.Command.Context
import ResourceInspector.Proofs.Except
/-!
# Reading parameters

When a parameter can be taken as a string or as a list of strings, and what is then read.
-/

namespace ResourceInspector.Command

namespace Context

/-- The texts a value holds: a string is a list of one. -/
inductive Holds : Json → List String → Prop where
  | one (text : String) : Holds (.string text) [text]
  | many (texts : List String) : Holds (.strings texts) texts

/-- What is found under a name is no string, and how that is reported. -/
inductive NoString (name : String) : Option Json → ParameterError → Prop where
  | missing : NoString name none (.missing name)
  | other {value : Json} :
      (∀ s, value ≠ .string s) → NoString name (some value) (.notString name)

/-- What is found under a name is neither a string nor a list of strings, and how that is reported.
One item that is no string is enough, whatever the others are. -/
inductive NoStrings (name : String) : Option Json → ParameterError → Prop where
  | missing : NoStrings name none (.missing name)
  | other {value : Json} :
      (∀ s, value ≠ .string s) → (∀ items, value ≠ .array items) →
      NoStrings name (some value) (.notStrings name)
  | item {items : List Json} :
      (∃ item ∈ items, ∀ s, item ≠ .string s) →
      NoStrings name (some (.array items)) (.itemNotString name)

/-- What is found under a name is a string, or there is a reason why it is none. -/
theorem string_or_noString (name : String) (found : Option Json) :
    (∃ s, found = some (.string s)) ∨ ∃ e, NoString name found e := by
  cases found with
  | none => exact Or.inr ⟨_, .missing⟩
  | some value =>
    by_cases h : ∃ s, value = .string s
    · rcases h with ⟨s, rfl⟩
      exact Or.inl ⟨s, rfl⟩
    · exact Or.inr ⟨_, .other fun s hs => h ⟨s, hs⟩⟩

theorem not_noString_string {name s : String} {e : ParameterError} :
    ¬ NoString name (some (.string s)) e := by
  rintro (_ | hne)
  exact hne s rfl

variable {ctx : Context} {name : String}

theorem param_eq_ok_iff {value : Json} :
    ctx.param name = .ok value ↔ ctx.parameters.find? name = some value := by
  unfold param
  cases ctx.parameters.find? name <;> simp

/-- A parameter is taken for a string only if it is one. No other value is turned into text. -/
theorem stringParam_eq_ok_iff {text : String} :
    ctx.stringParam name = .ok text ↔ ctx.parameters.find? name = some (.string text) := by
  unfold stringParam
  simp only [bind_eq_ok_iff, param_eq_ok_iff]
  constructor
  · rintro ⟨value, hvalue, htext⟩
    cases value with
    | string s =>
      obtain rfl := Except.ok.inj htext
      exact hvalue
    | null | bool | number | array | object => cases htext
  · intro h
    exact ⟨_, h, rfl⟩

/-- The error tells a parameter that is missing from one that is no string, and names it. -/
theorem stringParam_eq_error_iff {e : ParameterError} :
    ctx.stringParam name = .error e ↔ NoString name (ctx.parameters.find? name) e := by
  unfold stringParam param
  cases hfind : ctx.parameters.find? name with
  | none =>
    constructor
    · intro h
      obtain rfl := Except.error.inj h
      exact .missing
    · rintro ⟨⟩
      rfl
  | some value =>
    cases value with
    | string s =>
      constructor
      · nofun
      · intro h
        exact absurd h not_noString_string
    | null | bool | number | array | object =>
      constructor
      · intro h
        obtain rfl := Except.error.inj h
        exact .other nofun
      · rintro ⟨⟩
        rfl

theorem stringItem_eq_ok_iff {item : Json} {text : String} :
    stringItem name item = .ok text ↔ item = .string text := by
  cases item <;> simp [stringItem]

/-- An item that is no string is reported by the name of the parameter, without its place. -/
theorem stringItem_eq_error_iff {item : Json} {e : ParameterError} :
    stringItem name item = .error e ↔ (∀ s, item ≠ .string s) ∧ e = .itemNotString name := by
  cases item <;> simp [stringItem, eq_comm]

/-- Reading the items of a list succeeds just when each is a string. -/
theorem mapM_stringItem_eq_ok_iff {items : List Json} {texts : List String} :
    items.mapM (stringItem name) = .ok texts ↔ items = texts.map .string := by
  simp only [mapM_eq_ok_iff, stringItem_eq_ok_iff]
  rw [← List.forall₂_eq_eq_eq, List.forall₂_map_right_iff]

/-- The items have one way to fail, so it makes no difference which of them is the first to. -/
theorem mapM_stringItem_eq_error_iff {items : List Json} {e : ParameterError} :
    items.mapM (stringItem name) = .error e ↔
      (∃ item ∈ items, ∀ s, item ≠ .string s) ∧ e = .itemNotString name := by
  constructor
  · intro h
    rcases mapM_eq_error_iff.1 h with ⟨before, item, after, rfl, _, hitem⟩
    rcases stringItem_eq_error_iff.1 hitem with ⟨hne, rfl⟩
    exact ⟨⟨item, by simp, hne⟩, rfl⟩
  · rintro ⟨⟨item, hmem, hne⟩, rfl⟩
    cases h : items.mapM (stringItem name) with
    | ok texts =>
      obtain rfl := mapM_stringItem_eq_ok_iff.1 h
      rcases List.mem_map.1 hmem with ⟨s, _, rfl⟩
      exact absurd rfl (hne s)
    | error e =>
      rcases mapM_eq_error_iff.1 h with ⟨_, _, _, _, _, hfirst⟩
      rw [(stringItem_eq_error_iff.1 hfirst).2]

/-- A list of strings is given as an array or as a single string, and read as it stands. -/
theorem stringsParam_eq_ok_iff {texts : List String} :
    ctx.stringsParam name = .ok texts ↔
      ∃ value, ctx.parameters.find? name = some value ∧ Holds value texts := by
  unfold stringsParam
  simp only [bind_eq_ok_iff, param_eq_ok_iff]
  refine exists_congr fun value => and_congr_right fun _ => ?_
  cases value with
  | string s =>
    constructor
    · intro h
      obtain rfl := Except.ok.inj h
      exact .one s
    · rintro ⟨⟩
      rfl
  | array items =>
    rw [mapM_stringItem_eq_ok_iff]
    constructor
    · rintro rfl
      exact .many texts
    · rintro ⟨⟩
      rfl
  | null | bool | number | object => exact ⟨nofun, nofun⟩

/-- The error tells a parameter that is missing, one that is neither a string nor an array, and one
with an item that is no string. -/
theorem stringsParam_eq_error_iff {e : ParameterError} :
    ctx.stringsParam name = .error e ↔ NoStrings name (ctx.parameters.find? name) e := by
  unfold stringsParam param
  cases hfind : ctx.parameters.find? name with
  | none =>
    constructor
    · intro h
      obtain rfl := Except.error.inj h
      exact .missing
    · rintro ⟨⟩
      rfl
  | some value =>
    cases value with
    | string s =>
      constructor
      · nofun
      · rintro (_ | hne)
        exact absurd rfl (hne s)
    | array items =>
      show items.mapM (stringItem name) = .error e ↔ _
      rw [mapM_stringItem_eq_error_iff]
      constructor
      · rintro ⟨hitem, rfl⟩
        exact .item hitem
      · rintro (_ | ⟨_, hne⟩ | hitem)
        · exact absurd rfl (hne items)
        · exact ⟨hitem, rfl⟩
    | null | bool | number | object =>
      constructor
      · intro h
        obtain rfl := Except.error.inj h
        exact .other nofun nofun
      · rintro ⟨⟩
        rfl

end Context

end ResourceInspector.Command
