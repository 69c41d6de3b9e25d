import ResourceInspector.Path.Join
import ResourceInspector.Proofs.Text.Fields
/-!
# Clean paths

Cleaning leaves components without empty ones and dots, in which climbs come first and, at the root,
do not come at all (`Normal`). Every component taken in keeps the components in this form
(`normal_push`), and components that have it already are taken in one after the other as they are
(`foldl_push_of_normal`). So cleaning brings every path to the form and leaves paths of this form
alone.
-/

namespace ResourceInspector.Path

open Text

/-- Components in clean form: none is empty, a dot or divided by a slash, climbs come before all
names, and at the root there are none. -/
structure Normal (rooted : Bool) (components : List String) : Prop where
  solid : ∀ c ∈ components, c ≠ "" ∧ c ≠ "." ∧ '/' ∉ c.toList
  climbsFirst : components.Pairwise (fun a b => b = ".." → a = "..")
  bounded : rooted = true → ".." ∉ components

variable {rooted : Bool} {components kept : List String} {c : String}

theorem normal_false_iff :
    Normal false components ↔
      (∀ c ∈ components, c ≠ "" ∧ c ≠ "." ∧ '/' ∉ c.toList) ∧
        components.Pairwise (fun a b => b = ".." → a = "..") :=
  ⟨fun h => ⟨h.solid, h.climbsFirst⟩, fun h => ⟨h.1, h.2, nofun⟩⟩

/-! ## Taking in a component -/

theorem push_of_skipped (hc : c = "" ∨ c = ".") : push rooted kept c = kept :=
  if_pos hc

theorem push_of_name (hempty : c ≠ "") (hdot : c ≠ ".") (hup : c ≠ "..") :
    push rooted kept c = c :: kept := by
  unfold push
  rw [if_neg (not_or.2 ⟨hempty, hdot⟩), if_neg hup]

/-- A climb takes away the name before it. -/
theorem push_climb_of_name {last : String} (hlast : last ≠ "..") (before : List String) :
    push rooted (last :: before) ".." = before := by
  simp [push, hlast]

/-- Where there is no name before it, a climb is kept unless it would lead above the root. -/
theorem push_climb_of_forall (hkept : ∀ d ∈ kept, d = "..") :
    push rooted kept ".." = if rooted then kept else ".." :: kept := by
  cases kept with
  | nil => rfl
  | cons last before =>
    have hlast : last = ".." := hkept last (by simp)
    simp [push, hlast]

theorem Normal.nil (rooted : Bool) : Normal rooted [] where
  solid := by simp
  climbsFirst := .nil
  bounded := by simp

/-- The form is kept when components are taken away from the end. -/
theorem Normal.of_append {more : List String} (h : Normal rooted (components ++ more)) :
    Normal rooted components where
  solid := fun d hd => h.solid d (List.mem_append_left _ hd)
  climbsFirst := h.climbsFirst.sublist (List.sublist_append_left ..)
  bounded := fun hr hmem => h.bounded hr (List.mem_append_left _ hmem)

/-- The form is kept when the first component is taken away. -/
theorem Normal.tail (h : Normal rooted (c :: components)) : Normal rooted components where
  solid := fun d hd => h.solid d (List.mem_cons_of_mem _ hd)
  climbsFirst := h.climbsFirst.tail
  bounded := fun hr hmem => h.bounded hr (List.mem_cons_of_mem _ hmem)

/-- A name may follow any components, and a climb may follow climbs where there is room above. -/
theorem Normal.append (h : Normal rooted components) (hc : c ≠ "" ∧ c ≠ "." ∧ '/' ∉ c.toList)
    (hclimb : c = ".." → rooted = false ∧ ∀ d ∈ components, d = "..") :
    Normal rooted (components ++ [c]) where
  solid := by
    intro d hd
    rcases List.mem_append.1 hd with hd | hd
    · exact h.solid d hd
    · rwa [List.mem_singleton.1 hd]
  climbsFirst := by
    refine List.pairwise_append.2 ⟨h.climbsFirst, List.pairwise_singleton .., ?_⟩
    intro d hd e he hup
    rw [List.mem_singleton.1 he] at hup
    exact (hclimb hup).2 d hd
  bounded := by
    intro hr hmem
    rcases List.mem_append.1 hmem with hmem | hmem
    · exact h.bounded hr hmem
    · have hup : c = ".." := (List.mem_singleton.1 hmem).symm
      rw [(hclimb hup).1] at hr
      cases hr

/-- All components before a climb are climbs. -/
theorem Normal.eq_climb_of_mem (h : Normal rooted (components ++ [".."])) :
    rooted = false ∧ ∀ d ∈ components, d = ".." := by
  refine ⟨?_, ?_⟩
  · by_contra hr
    exact h.bounded (Bool.not_eq_false _ ▸ hr) (by simp)
  · intro d hd
    exact (List.pairwise_append.1 h.climbsFirst).2.2 d hd ".." (by simp) rfl

/-- Either nothing but climbs is kept, or the last component kept is a name. -/
theorem Normal.climbs_or_name (h : Normal rooted kept.reverse) :
    (∀ d ∈ kept, d = "..") ∨ ∃ last before, kept = last :: before ∧ last ≠ ".." := by
  cases kept with
  | nil => exact Or.inl (by simp)
  | cons last before =>
    by_cases hlast : last = ".."
    · subst hlast
      rw [List.reverse_cons] at h
      exact Or.inl (by simpa using h.eq_climb_of_mem.2)
    · exact Or.inr ⟨last, before, rfl, hlast⟩

/-- Taking in a component keeps the form. -/
theorem normal_push (h : Normal rooted kept.reverse) (hc : '/' ∉ c.toList) :
    Normal rooted (push rooted kept c).reverse := by
  by_cases hskipped : c = "" ∨ c = "."
  · rwa [push_of_skipped hskipped]
  obtain ⟨hempty, hdot⟩ := not_or.1 hskipped
  by_cases hup : c = ".."
  · subst hup
    rcases h.climbs_or_name with hkept | ⟨last, before, rfl, hlast⟩
    · rw [push_climb_of_forall hkept]
      cases rooted with
      | true => exact h
      | false =>
        rw [if_neg Bool.false_ne_true, List.reverse_cons]
        exact h.append ⟨hempty, hdot, hc⟩ (by simpa using hkept)
    · rw [List.reverse_cons] at h
      rw [push_climb_of_name hlast]
      exact h.of_append
  · rw [push_of_name hempty hdot hup, List.reverse_cons]
    exact h.append ⟨hempty, hdot, hc⟩ fun hclimb => absurd hclimb hup

/-- A component that may follow is taken in as it is. -/
theorem push_of_normal (h : Normal rooted (kept.reverse ++ [c])) :
    push rooted kept c = c :: kept := by
  obtain ⟨hempty, hdot, _⟩ := h.solid c (by simp)
  by_cases hup : c = ".."
  · subst hup
    obtain ⟨hr, hall⟩ := h.eq_climb_of_mem
    rw [push_climb_of_forall (by simpa using hall), hr, if_neg Bool.false_ne_true]
  · exact push_of_name hempty hdot hup

/-! ## Taking in all components -/

/-- Whatever components come, what is kept of them is in normal form. -/
theorem normal_foldl_push (h : Normal rooted kept.reverse)
    (hcomponents : ∀ c ∈ components, '/' ∉ c.toList) :
    Normal rooted (components.foldl (push rooted) kept).reverse := by
  induction components generalizing kept with
  | nil => exact h
  | cons c components ih =>
    obtain ⟨hc, hrest⟩ := List.forall_mem_cons.1 hcomponents
    exact ih (normal_push h hc) hrest

/-- Components in normal form are all kept. -/
theorem foldl_push_of_normal (h : Normal rooted (kept.reverse ++ components)) :
    components.foldl (push rooted) kept = components.reverse ++ kept := by
  -- what is kept and what is still to come stay clean together
  induction components generalizing kept with
  | nil => rfl
  | cons c components ih =>
    have hall : Normal rooted ((c :: kept).reverse ++ components) := by simpa using h
    have hfirst : Normal rooted (kept.reverse ++ [c]) := by
      rw [List.append_cons] at h
      exact h.of_append
    rw [List.foldl_cons, push_of_normal hfirst, ih hall, List.reverse_cons, List.append_assoc,
      List.singleton_append]

/-- What is kept was taken in. -/
theorem mem_of_mem_push {d : String} (hd : d ∈ push rooted kept c) : d = c ∨ d ∈ kept := by
  have hsub : push rooted kept c ⊆ c :: kept := by
    unfold push
    split
    · exact List.subset_cons_self ..
    · split
      · next hup =>
        split
        · next last before =>
          split
          · exact fun x hx => by simp [hx]
          · split <;> simp [hup]
        · split <;> simp [hup]
      · exact List.Subset.refl _
  exact List.mem_cons.1 (hsub hd)

theorem mem_of_mem_foldl_push {d : String} (hd : d ∈ components.foldl (push rooted) kept) :
    d ∈ components ∨ d ∈ kept := by
  induction components generalizing kept with
  | nil => exact Or.inr hd
  | cons c components ih =>
    rcases ih hd with hmem | hmem
    · exact Or.inl (List.mem_cons_of_mem _ hmem)
    · rcases mem_of_mem_push hmem with rfl | hmem
      · exact Or.inl List.mem_cons_self
      · exact Or.inr hmem

/-! ## Whole paths -/

/-- The components of every cleaned path have the form. -/
theorem normal_cleanComponents (path : String) :
    Normal (isRooted path) (cleanComponents path) :=
  normal_foldl_push (Normal.nil _) fun _ => not_mem_of_mem_fields

/-- A path that starts with a name does not start at the root. -/
theorem isRooted_joinFields (hempty : c ≠ "") (hslash : '/' ∉ c.toList) (rest : List String) :
    isRooted (joinFields '/' (c :: rest)) = false := by
  rw [isRooted, head?_joinFields '/' hempty]
  cases hchars : c.toList with
  | nil => rfl
  | cons first chars =>
    rw [hchars] at hslash
    have hfirst : first ≠ '/' := (List.ne_of_not_mem_cons hslash).symm
    simp [hfirst]

/-- Clean components can be read off the path that they make. -/
theorem Normal.fields_joinFields (h : Normal rooted components) (hne : components ≠ []) :
    fields '/' (joinFields '/' components) = components :=
  Text.fields_joinFields hne fun c hc => (h.solid c hc).2.2

theorem Normal.joinFields_ne_empty (h : Normal rooted components) (hne : components ≠ []) :
    joinFields '/' components ≠ "" := by
  obtain ⟨first, rest, rfl⟩ := List.exists_cons_of_ne_nil hne
  exact joinFields_cons_ne_empty '/' (h.solid first List.mem_cons_self).1 rest

/-- The ways in which a path comes out clean. -/
theorem clean_cases (path : String) :
    (isRooted path = true ∧ clean path = "/" ++ joinFields '/' (cleanComponents path)) ∨
      (isRooted path = false ∧ cleanComponents path = [] ∧ clean path = ".") ∨
      (isRooted path = false ∧ cleanComponents path ≠ [] ∧
        clean path = joinFields '/' (cleanComponents path)) := by
  have hnormal : Normal (isRooted path) (cleanComponents path) := normal_cleanComponents path
  cases hrooted : isRooted path with
  | true =>
    left
    simp [clean, hrooted]
  | false =>
    right
    by_cases hne : cleanComponents path = []
    · left
      simp [clean, hrooted, hne, joinFields]
    · right
      simp [clean, hrooted, hne, hnormal.joinFields_ne_empty hne]

/-- A path of clean components is cleaned already. -/
theorem clean_joinFields (h : Normal false components) (hne : components ≠ []) :
    clean (joinFields '/' components) = joinFields '/' components := by
  obtain ⟨first, rest, rfl⟩ := List.exists_cons_of_ne_nil hne
  obtain ⟨hempty, _, hslash⟩ := h.solid first (by simp)
  have hrooted : isRooted (joinFields '/' (first :: rest)) = false :=
    isRooted_joinFields hempty hslash rest
  have hcomponents : cleanComponents (joinFields '/' (first :: rest)) = first :: rest := by
    rw [cleanComponents, h.fields_joinFields hne, hrooted, foldl_push_of_normal h]
    simp
  simp [clean, hcomponents, hrooted, h.joinFields_ne_empty hne]

/-- What the fields of a cleaned path are that does not start at the root. -/
theorem fields_clean {path : String} (hrooted : isRooted path = false) :
    clean path = "." ∨
      Normal false (fields '/' (clean path)) := by
  have hnormal : Normal false (cleanComponents path) := hrooted ▸ normal_cleanComponents path
  rcases clean_cases path with ⟨hroot, _⟩ | ⟨_, _, hclean⟩ | ⟨_, hne, hclean⟩
  · rw [hrooted] at hroot
    cases hroot
  · exact Or.inl hclean
  · right
    rwa [hclean, hnormal.fields_joinFields hne]

/-- Cleaning brings in no characters but those of the words that it has for the root and for where
one is. -/
theorem mem_clean {path : String} {ch : Char} (hch : ch ∈ (clean path).toList) (hslash : ch ≠ '/')
    (hdot : ch ≠ '.') : ch ∈ path.toList := by
  have hbody : ch ∈ (joinFields '/' (cleanComponents path)).toList := by
    rcases clean_cases path with ⟨_, hclean⟩ | ⟨_, _, hclean⟩ | ⟨_, _, hclean⟩
    · rw [hclean] at hch
      simpa [hslash] using hch
    · rw [hclean] at hch
      simp [hdot] at hch
    · rwa [hclean] at hch
  obtain ⟨c, hc, hmem⟩ := (mem_joinFields hslash).1 hbody
  have hfield : c ∈ fields '/' path := by
    rcases mem_of_mem_foldl_push (List.mem_reverse.1 hc) with hfield | hnone
    · exact hfield
    · simp at hnone
  exact (mem_toList_iff_fields hslash).2 ⟨c, hfield, hmem⟩

/-! ## Joining -/

section

variable {segments : List String}

theorem concat_eq_empty_iff : concat segments = "" ↔ ∀ s ∈ segments, s = "" := by
  unfold concat
  cases hfilter : segments.filter (· ≠ "") with
  | nil => simpa [joinFields] using hfilter
  | cons first rest =>
    obtain ⟨hmem, hempty⟩ := List.mem_filter.1 (hfilter ▸ List.mem_cons_self : first ∈ _)
    have hempty : first ≠ "" := of_decide_eq_true hempty
    constructor
    · intro hjoin
      exact absurd hjoin (joinFields_cons_ne_empty '/' hempty rest)
    · intro hall
      exact absurd (hall first hmem) hempty

/-- Segments that come together to something are joined to the cleaned path of that. -/
theorem join_eq_clean (hsome : ¬ ∀ s ∈ segments, s = "") :
    join segments = clean (concat segments) :=
  if_neg (mt concat_eq_empty_iff.1 hsome)

theorem join_eq_empty (hall : ∀ s ∈ segments, s = "") : join segments = "" :=
  if_pos (concat_eq_empty_iff.2 hall)

/-- Segments that come together to a path of clean components are joined to this path. -/
theorem join_of_concat (h : Normal false components) (hne : components ≠ [])
    (hconcat : concat segments = joinFields '/' components) :
    join segments = joinFields '/' components := by
  rw [join, hconcat, if_neg (h.joinFields_ne_empty hne), clean_joinFields h hne]

/-- Joining leaves segments that are clean components as they are. -/
theorem join_of_normal (h : Normal false segments) (hne : segments ≠ []) :
    join segments = joinFields '/' segments := by
  have hfilter : segments.filter (· ≠ "") = segments := by
    simpa using fun s hs => (h.solid s hs).1
  exact join_of_concat h hne (by rw [concat, hfilter])

@[simp] theorem join_cons_empty (segments : List String) :
    join ("" :: segments) = join segments := by
  simp [join, concat]

/-- Joining brings in no characters but slashes and dots. -/
theorem mem_join {ch : Char} (hch : ch ∈ (join segments).toList) (hslash : ch ≠ '/')
    (hdot : ch ≠ '.') : ∃ s ∈ segments, ch ∈ s.toList := by
  unfold join at hch
  split at hch
  · simp at hch
  · obtain ⟨s, hs, hmem⟩ := (mem_joinFields hslash).1 (mem_clean hch hslash hdot)
    exact ⟨s, (List.mem_filter.1 hs).1, hmem⟩

/-- What the fields of a joined path are whose segments hold no slashes. -/
theorem fields_join (h : ∀ s ∈ segments, '/' ∉ s.toList) :
    (∀ s ∈ segments, s = "") ∨ join segments = "." ∨
      Normal false (fields '/' (join segments)) := by
  by_cases hall : ∀ s ∈ segments, s = ""
  · exact Or.inl hall
  -- the path starts with the first segment that is not empty, so not at the root
  have hfilter : segments.filter (· ≠ "") ≠ [] := by simpa using hall
  obtain ⟨first, rest, hcons⟩ := List.exists_cons_of_ne_nil hfilter
  obtain ⟨hmem, hempty⟩ := List.mem_filter.1 (hcons ▸ List.mem_cons_self : first ∈ _)
  have hempty : first ≠ "" := of_decide_eq_true hempty
  have hconcat : concat segments = joinFields '/' (first :: rest) := by rw [concat, hcons]
  have hrooted : isRooted (concat segments) = false := by
    rw [hconcat]
    exact isRooted_joinFields hempty (h first hmem) rest
  rw [join_eq_clean hall]
  exact Or.inr (fields_clean hrooted)

end

end ResourceInspector.Path
