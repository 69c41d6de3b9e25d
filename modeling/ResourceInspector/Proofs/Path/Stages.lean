import ResourceInspector.Proofs.Path.Canonical
/-!
# Joining in stages

Segments that are joined from the left may be joined in any number of stages (`join_in_stages`).
What the first segments are joined to is another way to spell their path, and all that matters to
the segments behind them is where that path starts and where it leads (`join_append_congr`).

Each segment goes on from where the segments before it lead (`walk_concat_append`). A slash at the
start of a segment is no way back to the root unless the segment is the first that is not empty.
That is why the right part of a list may not be joined on its own, and why segments of slashes and
dots make no difference (`Idle`) as soon as they are not the first.
-/

namespace ResourceInspector.Path

open Text

variable {xs xs' ys ys' segments : List String}

/-! ## Following segments -/

/-- Where a segment leads from the directory that the segments before it lead to. -/
def follow (dir : Directory) (segment : String) : Directory :=
  (fields '/' segment).foldl enter dir

theorem follow_empty (dir : Directory) : follow dir "" = dir :=
  enter_of_skipped (Or.inl rfl)

/-- Empty segments can be left out. -/
theorem foldl_follow_filter (segments : List String) (dir : Directory) :
    (segments.filter (· ≠ "")).foldl follow dir = segments.foldl follow dir := by
  induction segments generalizing dir with
  | nil => rfl
  | cons s segments ih =>
    by_cases hs : s = ""
    · rw [List.filter_cons_of_neg (by simp [hs]), List.foldl_cons, hs, follow_empty, ih]
    · rw [List.filter_cons_of_pos (by simp [hs]), List.foldl_cons, List.foldl_cons, ih]

/-- The segments put together are followed one after the other. -/
theorem follow_concat (dir : Directory) (segments : List String) :
    follow dir (concat segments) = segments.foldl follow dir := by
  rw [← foldl_follow_filter]
  unfold concat
  generalize segments.filter (· ≠ "") = parts
  by_cases hparts : parts = []
  · rw [hparts]
    exact follow_empty dir
  · rw [follow, fields_joinFields_eq_flatMap '/' hparts, List.foldl_flatMap]
    rfl

/-! ## Segments behind others -/

/-- Whether a joined path is rooted is up to its first segment that is not empty. -/
theorem isRooted_concat_append (hxs : ¬ ∀ s ∈ xs, s = "") (ys : List String) :
    isRooted (concat (xs ++ ys)) = isRooted (concat xs) := by
  have hfirst : (xs.find? (· ≠ "")).isSome = true := by
    simpa using hxs
  rw [Bool.eq_iff_iff, isRooted_concat_iff, isRooted_concat_iff, List.find?_append,
    Option.or_of_isSome hfirst]

/-- Behind a path segments lead on from where the path leads. -/
theorem walk_concat_append (hxs : ¬ ∀ s ∈ xs, s = "") (ys : List String) (dir : Directory) :
    walk dir (concat (xs ++ ys)) = ys.foldl follow (walk dir (concat xs)) := by
  have hwalk : ∀ segments, walk dir (concat segments) =
      segments.foldl follow (if isRooted (concat segments) then [] else dir) :=
    fun segments => follow_concat _ segments
  rw [hwalk, hwalk, isRooted_concat_append hxs, List.foldl_append]

/-- Two lists of segments come out the same if the segments they start with agree on starting at the
root, and those behind lead to the same places. -/
theorem join_append_eq (hxs : ¬ ∀ s ∈ xs, s = "") (hxs' : ¬ ∀ s ∈ xs', s = "")
    (hrooted : isRooted (concat xs) = isRooted (concat xs'))
    (hsame : ∀ dir, ys.foldl follow (walk dir (concat xs)) =
      ys'.foldl follow (walk dir (concat xs'))) :
    join (xs ++ ys) = join (xs' ++ ys') := by
  have hsome : ¬ ∀ s ∈ xs ++ ys, s = "" := fun h => hxs (List.forall_mem_append.1 h).1
  have hsome' : ¬ ∀ s ∈ xs' ++ ys', s = "" := fun h => hxs' (List.forall_mem_append.1 h).1
  rw [join_eq_clean hsome, join_eq_clean hsome', clean_eq_iff, isRooted_concat_append hxs,
    isRooted_concat_append hxs']
  refine ⟨hrooted, ?_⟩
  intro dir
  rw [walk_concat_append hxs, walk_concat_append hxs', hsame]

/-! ## Stages -/

theorem join_eq_empty_iff : join segments = "" ↔ ∀ s ∈ segments, s = "" := by
  constructor
  · intro hempty
    by_contra hsome
    rw [join_eq_clean hsome] at hempty
    exact (canonical_clean _).ne_empty hempty
  · exact join_eq_empty

/-- Empty segments in front make no difference. -/
theorem join_append_of_empty (hxs : ∀ s ∈ xs, s = "") (ys : List String) :
    join (xs ++ ys) = join ys := by
  have hnone : xs.filter (· ≠ "") = [] := by simpa using hxs
  have hconcat : concat (xs ++ ys) = concat ys := by
    rw [concat, concat, List.filter_append, hnone, List.nil_append]
  rw [join, join, hconcat]

/-- Of the first segments nothing matters but what they are joined to. -/
theorem join_append_congr (h : join xs = join xs') (ys : List String) :
    join (xs ++ ys) = join (xs' ++ ys) := by
  by_cases hxs : ∀ s ∈ xs, s = ""
  · have hxs' : ∀ s ∈ xs', s = "" := join_eq_empty_iff.1 (h ▸ join_eq_empty hxs)
    rw [join_append_of_empty hxs, join_append_of_empty hxs']
  · have hxs' : ¬ ∀ s ∈ xs', s = "" := by
      rwa [← join_eq_empty_iff, ← h, join_eq_empty_iff]
    rw [join_eq_clean hxs, join_eq_clean hxs', clean_eq_iff] at h
    rcases h with ⟨hrooted, hwalk⟩
    apply join_append_eq hxs hxs' hrooted
    intro dir
    rw [hwalk]

/-- A joined path is joined already. -/
theorem join_join (xs : List String) : join [join xs] = join xs := by
  by_cases hxs : ∀ s ∈ xs, s = ""
  · rw [join_eq_empty hxs]
    exact join_eq_empty (by simp)
  · have hne : join xs ≠ "" := mt join_eq_empty_iff.1 hxs
    have hconcat : concat [join xs] = join xs := by
      rw [concat, List.filter_cons_of_pos (by simpa using hne)]
      exact joinFields_singleton '/' _
    have hsome : ¬ ∀ s ∈ [join xs], s = "" := by simpa using hne
    rw [join_eq_clean hsome, hconcat, join_eq_clean hxs, clean_eq_iff]
    exact ⟨isRooted_clean _, fun dir => walk_clean dir _⟩

/-- Segments that were joined already count as one. -/
theorem join_append (xs ys : List String) : join (xs ++ ys) = join (join xs :: ys) :=
  join_append_congr (join_join xs).symm ys

/-- The segments of every stage are joined to the path of the stages before. -/
theorem join_append_flatten (xs : List String) (stages : List (List String)) :
    join (xs ++ stages.flatten) =
      stages.foldl (fun path segments => join (path :: segments)) (join xs) := by
  induction stages generalizing xs with
  | nil => rw [List.flatten_nil, List.append_nil, List.foldl_nil]
  | cons segments stages ih =>
    rw [List.flatten_cons, ← List.append_assoc, ih, List.foldl_cons, join_append]

/-! ## Segments that lead nowhere -/

/-- A segment of nothing but slashes and dots between them. The empty segment is one. -/
def Idle (segment : String) : Prop :=
  ∀ c ∈ fields '/' segment, c = "" ∨ c = "."

instance (segment : String) : Decidable (Idle segment) :=
  inferInstanceAs (Decidable (∀ c ∈ fields '/' segment, c = "" ∨ c = "."))

theorem Idle.follow_eq {segment : String} (h : Idle segment) (dir : Directory) :
    follow dir segment = dir := by
  unfold Idle at h
  unfold follow
  generalize fields '/' segment = components at h
  induction components with
  | nil => rfl
  | cons c components ih =>
    rcases List.forall_mem_cons.1 h with ⟨hc, hrest⟩
    rw [List.foldl_cons, enter_of_skipped hc, ih hrest]

/-- Segments that lead nowhere are put in between, before and behind. -/
inductive Padded : List String → List String → Prop where
  | nil : Padded [] []
  | keep {segment : String} {ys ys' : List String} :
      Padded ys ys' → Padded (segment :: ys) (segment :: ys')
  | insert {segment : String} {ys ys' : List String} :
      Idle segment → Padded ys ys' → Padded ys (segment :: ys')

theorem Padded.foldl_follow (h : Padded ys ys') (dir : Directory) :
    ys'.foldl follow dir = ys.foldl follow dir := by
  induction h generalizing dir with
  | nil => rfl
  | keep _ ih => rw [List.foldl_cons, List.foldl_cons, ih]
  | insert hidle _ ih => rw [List.foldl_cons, hidle.follow_eq, ih]

/-- Behind a segment that is not empty, segments that lead nowhere make no difference. -/
theorem Padded.join_append (h : Padded ys ys') (hxs : ∃ s ∈ xs, s ≠ "") :
    join (xs ++ ys') = join (xs ++ ys) := by
  have hsome : ¬ ∀ s ∈ xs, s = "" := by
    simpa using hxs
  apply join_append_eq hsome hsome rfl
  intro dir
  exact h.foldl_follow _

/-- Joining can be done from the left in any number of stages: what the first segments are joined to
stands for them, however it came out and whatever is behind them. So a joined path is left as it is.
Segments of slashes and dots may be inserted wherever a segment that is not empty comes before. -/
theorem join_in_stages :
    (∀ xs ys : List String, join (xs ++ ys) = join (join xs :: ys)) ∧
    (∀ xs : List String, join [join xs] = join xs) ∧
    (∀ stages : List (List String),
      join stages.flatten =
        stages.foldl (fun path segments => join (path :: segments)) "") ∧
    (∀ xs ys ys' : List String, (∃ s ∈ xs, s ≠ "") → Padded ys ys' →
      join (xs ++ ys') = join (xs ++ ys)) := by
  refine ⟨join_append, join_join, ?_, ?_⟩
  · intro stages
    exact join_append_flatten [] stages
  · intro xs ys ys' hxs hpadded
    exact hpadded.join_append hxs

/-- Climbs are kept for the place they come to, with slashes and dots between them. -/
theorem join_in_stages_climbs :
    (∃ s ∈ ["", "../a"], s ≠ "") ∧ Padded ["/..", ".."] ["", "/..", ".//", "..", "/."] ∧
      join ["", "../a", "", "/..", ".//", "..", "/."] = "../.." := by
  have hxs : ∃ s ∈ ["", "../a"], s ≠ "" := by decide
  have hpadded : Padded ["/..", ".."] ["", "/..", ".//", "..", "/."] :=
    .insert (by decide) (.keep (.insert (by decide) (.keep (.insert (by decide) .nil))))
  have hjoin : join (["", "../a"] ++ ["/..", ".."]) = "../.." := by decide +kernel
  exact ⟨hxs, hpadded, (join_in_stages.2.2.2 _ _ _ hxs hpadded).trans hjoin⟩

/-- From the right it cannot be done: a path that comes out as the root has lost its climb. -/
example : join ["a", "/.."] = "." ∧ join ["a", join ["/.."]] = "a" := by decide +kernel

end ResourceInspector.Path
