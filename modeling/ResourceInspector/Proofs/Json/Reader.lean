import ResourceInspector.Json.Reader
import ResourceInspector.Proofs.Json.Places
/-!
# Values that are read

The members of an object may be written in any order. Whatever text a value was read from, the
names of its objects are in order, down to the deepest (`ordered_of_parse?`).
-/

namespace ResourceInspector.Json

variable {fuel : Nat} {s rest : List Char}

/-- An object that is made of members in any order has them in order, since each of them is put in
its place. -/
theorem ordered_ofMembers {pairs : List (String × Json)} (h : ∀ pair ∈ pairs, pair.2.Ordered) :
    (ofMembers pairs).Ordered :=
  .object (Members.ordered_ofList pairs) fun member hmember =>
    h member (Members.mem_of_mem_ofList hmember)

/-- What the reader gives on some fuel is in order. -/
structure ReadsOrdered (fuel : Nat) : Prop where
  value : ∀ s value rest, readValue fuel s = some (value, rest) → value.Ordered
  items : ∀ s items rest, readItems fuel s = some (items, rest) → ∀ item ∈ items, item.Ordered
  members : ∀ s members rest, readMembers fuel s = some (members, rest) →
    ∀ member ∈ members, member.2.Ordered

/-- A value that is read has its names in order if what is read inside of it has. -/
theorem ordered_of_readValue {value : Json} (ih : ReadsOrdered fuel)
    (h : readValue (fuel + 1) s = some (value, rest)) : value.Ordered := by
  rw [readValue] at h
  split at h
  · cases h
    exact .null
  · cases h
    exact .bool true
  · cases h
    exact .bool false
  · obtain ⟨⟨text, r⟩, -, h⟩ := Option.map_eq_some_iff.1 h
    cases h
    exact .string text
  · split at h
    · cases h
      exact .array nofun
    · obtain ⟨⟨items, r⟩, hitems, h⟩ := Option.map_eq_some_iff.1 h
      cases h
      exact .array (ih.items _ _ _ hitems)
  · split at h
    · cases h
      exact .object List.Pairwise.nil nofun
    · obtain ⟨⟨members, r⟩, hmembers, h⟩ := Option.map_eq_some_iff.1 h
      cases h
      exact ordered_ofMembers (ih.members _ _ _ hmembers)
  · obtain ⟨⟨n, r⟩, -, h⟩ := Option.map_eq_some_iff.1 h
    cases h
    exact .number n

/-- The items of an array are read one after the other, each of them as a value. -/
theorem ordered_of_readItems {items : List Json} (ih : ReadsOrdered fuel)
    (h : readItems (fuel + 1) s = some (items, rest)) : ∀ item ∈ items, item.Ordered := by
  rw [readItems] at h
  obtain ⟨⟨item, r⟩, hitem, h⟩ := Option.bind_eq_some_iff.1 h
  have hordered := ih.value _ _ _ hitem
  dsimp only at h
  split at h
  · obtain ⟨⟨more, r'⟩, hmore, h⟩ := Option.bind_eq_some_iff.1 h
    cases h
    exact List.forall_mem_cons.2 ⟨hordered, ih.items _ _ _ hmore⟩
  · cases h
    exact List.forall_mem_singleton.2 hordered
  · cases h

/-- The members are read in the order of the text, so only their values are in order yet. -/
theorem ordered_of_readMembers {members : List (String × Json)} (ih : ReadsOrdered fuel)
    (h : readMembers (fuel + 1) s = some (members, rest)) :
    ∀ member ∈ members, member.2.Ordered := by
  rw [readMembers] at h
  split at h
  case h_2 => cases h
  obtain ⟨⟨name, r⟩, -, h⟩ := Option.bind_eq_some_iff.1 h
  dsimp only at h
  split at h
  case h_2 => cases h
  obtain ⟨⟨value, r'⟩, hvalue, h⟩ := Option.bind_eq_some_iff.1 h
  have hordered := ih.value _ _ _ hvalue
  dsimp only at h
  split at h
  · obtain ⟨⟨more, r''⟩, hmore, h⟩ := Option.bind_eq_some_iff.1 h
    cases h
    exact List.forall_mem_cons.2 ⟨hordered, ih.members _ _ _ hmore⟩
  · cases h
    exact List.forall_mem_singleton.2 hordered
  · cases h

/-- With any fuel, whatever is read has its names in order. The three readers call each other with
less fuel, so the induction is on it and goes for all three at once. -/
theorem readsOrdered (fuel : Nat) : ReadsOrdered fuel := by
  induction fuel with
  | zero =>
    refine ⟨fun s value rest h => ?_, fun s items rest h => ?_, fun s members rest h => ?_⟩
    · rw [readValue] at h
      cases h
    · rw [readItems] at h
      cases h
    · rw [readMembers] at h
      cases h
  | succ fuel ih =>
    exact
      { value := fun _ _ _ => ordered_of_readValue ih
        items := fun _ _ _ => ordered_of_readItems ih
        members := fun _ _ _ => ordered_of_readMembers ih }

/-- In a value that is read the names of all objects are in order. -/
theorem ordered_of_parse? {text : String} {value : Json} (h : parse? text = some value) :
    value.Ordered := by
  rw [parse?] at h
  split at h
  · next read rest hread =>
    split at h
    · cases h
      exact (readsOrdered _).value _ _ _ hread
    · cases h
  · cases h

end ResourceInspector.Json
