import ResourceInspector.Path.Walk
import ResourceInspector.Proofs.Path.Clean
/-!
# Clean paths are canonical

A cleaned path leads where the path led before (`walk_clean`), and cleaned paths that lead to the
same places are the same text (`clean_eq_iff`). So of all the ways to spell a path, cleaning picks
one.

The first half is an invariant of the loop: the components kept so far lead where the components
taken in so far lead (`foldl_enter_push`). The second half reads the components off the places they
lead to: walked from the root they leave just their names, and from a directory that is deep enough
the number of their climbs shows as well (`Normal.eq_of_foldl_enter`).
-/

namespace ResourceInspector.Path

open Text

variable {rooted : Bool} {components kept : List String} {c path : String} {dir : Directory}

/-! ## Walking one component -/

theorem enter_of_skipped (hc : c = "" ∨ c = ".") : enter dir c = dir :=
  if_pos hc

theorem enter_climb (dir : Directory) : enter dir ".." = dir.tail := by
  simp [enter]

theorem enter_of_name (hempty : c ≠ "") (hdot : c ≠ ".") (hup : c ≠ "..") :
    enter dir c = c :: dir := by
  unfold enter
  rw [if_neg (not_or.2 ⟨hempty, hdot⟩), if_neg hup]

/-- Taking in a component goes where the component goes. At the root it does so as far as the walk
starts there, since a climb is dropped only in the root itself. -/
theorem foldl_enter_push (h : Normal rooted kept.reverse) (hroot : rooted = true → dir = []) :
    (push rooted kept c).reverse.foldl enter dir = enter (kept.reverse.foldl enter dir) c := by
  by_cases hskipped : c = "" ∨ c = "."
  · rw [push_of_skipped hskipped, enter_of_skipped hskipped]
  obtain ⟨hempty, hdot⟩ := not_or.1 hskipped
  by_cases hup : c = ".."
  · subst hup
    rw [enter_climb]
    rcases h.climbs_or_name with hkept | ⟨last, before, rfl, hlast⟩
    · rw [push_climb_of_forall hkept]
      cases rooted with
      | true =>
        -- nothing but climbs could be kept, and at the root no climb is
        have hnil : kept = [] := by
          rw [List.eq_nil_iff_forall_not_mem]
          intro d hd
          have hclimb : ".." ∈ kept.reverse := by
            rw [List.mem_reverse, ← hkept d hd]
            exact hd
          exact h.bounded rfl hclimb
        rw [hnil, hroot rfl]
        rfl
      | false =>
        rw [if_neg Bool.false_ne_true, List.reverse_cons, List.foldl_append]
        exact enter_climb _
    · obtain ⟨hlastEmpty, hlastDot, _⟩ := h.solid last (by simp)
      rw [push_climb_of_name hlast, List.reverse_cons, List.foldl_append, List.foldl_cons,
        List.foldl_nil, enter_of_name hlastEmpty hlastDot hlast, List.tail_cons]
  · rw [push_of_name hempty hdot hup, List.reverse_cons, List.foldl_append]
    rfl

/-- Components that are taken in one after the other lead where they lead. -/
theorem foldl_enter_foldl_push (h : Normal rooted kept.reverse) (hroot : rooted = true → dir = [])
    (hcomponents : ∀ c ∈ components, '/' ∉ c.toList) :
    (components.foldl (push rooted) kept).reverse.foldl enter dir =
      components.foldl enter (kept.reverse.foldl enter dir) := by
  induction components generalizing kept with
  | nil => rfl
  | cons c components ih =>
    obtain ⟨hc, hrest⟩ := List.forall_mem_cons.1 hcomponents
    rw [List.foldl_cons, List.foldl_cons, ih (normal_push h hc) hrest, foldl_enter_push h hroot]

/-! ## Walking a path -/

/-- A path leads where its clean components lead. -/
theorem walk_eq_foldl_cleanComponents (dir : Directory) (path : String) :
    walk dir path = (cleanComponents path).foldl enter (if isRooted path then [] else dir) := by
  have hnil : Normal (isRooted path) ([] : List String).reverse := Normal.nil _
  have hroot : isRooted path = true → (if isRooted path then [] else dir) = [] :=
    fun hrooted => if_pos hrooted
  exact (foldl_enter_foldl_push hnil hroot fun _ => not_mem_of_mem_fields).symm

theorem fields_slash_append (path : String) : fields '/' ("/" ++ path) = "" :: fields '/' path :=
  fields_append '/' "" path

/-- Clean components lead to the same place when they are read off their path again. -/
theorem Normal.foldl_enter_fields (h : Normal rooted components) :
    (fields '/' (joinFields '/' components)).foldl enter dir = components.foldl enter dir := by
  by_cases hne : components = []
  · rw [hne]
    exact enter_of_skipped (Or.inl rfl)
  · rw [h.fields_joinFields hne]

theorem isRooted_slash_append (path : String) : isRooted ("/" ++ path) = true := by
  simp [isRooted]

/-- The path of clean components that do not start at the root does not start there either. -/
theorem Normal.isRooted_joinFields (h : Normal rooted components) :
    isRooted (joinFields '/' components) = false := by
  cases components with
  | nil => rfl
  | cons first rest =>
    obtain ⟨hempty, _, hslash⟩ := h.solid first List.mem_cons_self
    exact Path.isRooted_joinFields hempty hslash rest

/-- Cleaning makes no path rooted and takes no root away. -/
theorem isRooted_clean (path : String) : isRooted (clean path) = isRooted path := by
  have hnormal : Normal (isRooted path) (cleanComponents path) := normal_cleanComponents path
  rcases clean_cases path with ⟨hrooted, hclean⟩ | ⟨hrooted, _, hclean⟩ | ⟨hrooted, _, hclean⟩
  · rw [hclean, hrooted, isRooted_slash_append]
  · rw [hclean, hrooted]
    rfl
  · rw [hclean, hrooted, hnormal.isRooted_joinFields]

/-- Cleaning a path does not change where it leads. -/
theorem walk_clean (dir : Directory) (path : String) : walk dir (clean path) = walk dir path := by
  have hnormal : Normal (isRooted path) (cleanComponents path) := normal_cleanComponents path
  rw [walk_eq_foldl_cleanComponents dir path, walk, isRooted_clean]
  rcases clean_cases path with ⟨_, hclean⟩ | ⟨_, hnone, hclean⟩ | ⟨_, _, hclean⟩
  · rw [hclean, fields_slash_append, List.foldl_cons, enter_of_skipped (Or.inl rfl),
      hnormal.foldl_enter_fields]
  · rw [hclean, hnone]
    exact enter_of_skipped (Or.inr rfl)
  · rw [hclean, hnormal.foldl_enter_fields]

/-! ## Telling clean paths apart -/

/-- What a directory can be called. -/
structure IsName (c : String) : Prop where
  nonempty : c ≠ ""
  noDot : c ≠ "."
  noClimb : c ≠ ".."
  undivided : '/' ∉ c.toList

/-- Clean components are climbs, none of them at the root, and then names. -/
theorem Normal.exists_climbs (h : Normal rooted components) :
    ∃ climbs names, components = List.replicate climbs ".." ++ names ∧
      (∀ n ∈ names, IsName n) ∧ (rooted = true → climbs = 0) := by
  induction components with
  | nil => exact ⟨0, [], rfl, by simp, fun _ => rfl⟩
  | cons c components ih =>
    have hlater : ".." ∈ components → c = ".." := by
      intro hmem
      exact List.rel_of_pairwise_cons h.climbsFirst hmem rfl
    by_cases hup : c = ".."
    · subst hup
      obtain ⟨climbs, names, hsplit, hnames, _⟩ := ih h.tail
      refine ⟨climbs + 1, names, by rw [hsplit]; rfl, hnames, ?_⟩
      intro hr
      exact absurd List.mem_cons_self (h.bounded hr)
    · -- behind a name there are only names
      refine ⟨0, c :: components, rfl, ?_, fun _ => rfl⟩
      intro n hn
      obtain ⟨hempty, hdot, hslash⟩ := h.solid n hn
      refine ⟨hempty, hdot, ?_, hslash⟩
      rintro rfl
      rcases List.mem_cons.1 hn with heq | hmem
      · exact hup heq.symm
      · exact hup (hlater hmem)

/-- Climbs take away as many directories, as far as there are so many. -/
theorem foldl_enter_replicate (climbs : Nat) (dir : Directory) :
    (List.replicate climbs "..").foldl enter dir = dir.drop climbs := by
  induction climbs generalizing dir with
  | zero => rfl
  | succ climbs ih =>
    rw [List.replicate_succ, List.foldl_cons, ih, enter_climb, ← List.drop_one, List.drop_drop,
      Nat.add_comm]

/-- Names lead down, one after the other. -/
theorem foldl_enter_names {names : List String} (hnames : ∀ n ∈ names, IsName n)
    (dir : Directory) : names.foldl enter dir = names.reverse ++ dir := by
  induction names generalizing dir with
  | nil => rfl
  | cons n names ih =>
    obtain ⟨hn, hrest⟩ := List.forall_mem_cons.1 hnames
    rw [List.foldl_cons, ih hrest, enter_of_name hn.nonempty hn.noDot hn.noClimb,
      List.reverse_cons, List.append_assoc]
    rfl

/-- Clean components that lead to the same place from every directory that they can be walked from
are the same. -/
theorem Normal.eq_of_foldl_enter {others : List String} (h : Normal rooted components)
    (h' : Normal rooted others)
    (hsame : ∀ dir : Directory, (∀ n ∈ dir, IsName n) → (rooted = true → dir = []) →
      components.foldl enter dir = others.foldl enter dir) : components = others := by
  obtain ⟨climbs, names, rfl, hnames, hclimbs⟩ := h.exists_climbs
  obtain ⟨climbs', names', rfl, hnames', hclimbs'⟩ := h'.exists_climbs
  simp only [List.foldl_append, foldl_enter_replicate, foldl_enter_names hnames,
    foldl_enter_names hnames'] at hsame
  -- from the root nothing is left but the names
  have heq : names = names' := by
    have hroot := hsame [] (by simp) (fun _ => rfl)
    simpa using hroot
  subst heq
  have hcount : climbs = climbs' := by
    cases rooted with
    | true => rw [hclimbs rfl, hclimbs' rfl]
    | false =>
      -- from a place below all climbs the depth tells how many there were
      have hname : IsName "a" := ⟨by decide, by decide, by decide, by decide⟩
      have hdeep := hsame (List.replicate (climbs + climbs') "a")
        (fun n hn => (List.eq_of_mem_replicate hn).symm ▸ hname) nofun
      have hlen := congrArg List.length hdeep
      simp only [List.length_append, List.length_reverse, List.length_drop,
        List.length_replicate] at hlen
      omega
  rw [hcount]

/-- Paths that both start at the root or both do not, and that lead to the same place from every
directory, come out the same when they are cleaned. -/
theorem clean_eq_of_walk_eq {path' : String} (hrooted : isRooted path = isRooted path')
    (hsame : ∀ dir : Directory, (∀ n ∈ dir, IsName n) → walk dir path = walk dir path') :
    clean path = clean path' := by
  have hnormal : Normal (isRooted path) (cleanComponents path) := normal_cleanComponents path
  have hnormal' : Normal (isRooted path) (cleanComponents path') :=
    hrooted ▸ normal_cleanComponents path'
  have hcomponents : cleanComponents path = cleanComponents path' := by
    refine hnormal.eq_of_foldl_enter hnormal' ?_
    intro dir hdir hroot
    have hbase : (if isRooted path then [] else dir) = dir := by
      split
      · next hr => exact (hroot hr).symm
      · rfl
    have hwalk := hsame dir hdir
    rwa [walk_eq_foldl_cleanComponents, walk_eq_foldl_cleanComponents, ← hrooted, hbase] at hwalk
  unfold clean
  rw [hcomponents, hrooted]

/-- Two paths have the same clean form just when they lead to the same place from everywhere. -/
theorem clean_eq_iff {path' : String} :
    clean path = clean path' ↔
      isRooted path = isRooted path' ∧ ∀ dir, walk dir path = walk dir path' := by
  constructor
  · intro hclean
    constructor
    · rw [← isRooted_clean path, ← isRooted_clean path', hclean]
    · intro dir
      rw [← walk_clean dir path, ← walk_clean dir path', hclean]
  · rintro ⟨hrooted, hsame⟩
    exact clean_eq_of_walk_eq hrooted fun dir _ => hsame dir

/-! ## The form of a cleaned path -/

/-- A path in canonical form: the place itself, the root, or components in clean form with slashes
between them, behind a slash if they start at the root. -/
inductive Canonical : String → Prop where
  | here : Canonical "."
  | root : Canonical "/"
  | relative {components : List String} :
      components ≠ [] → Normal false components → Canonical (joinFields '/' components)
  | absolute {components : List String} :
      components ≠ [] → Normal true components → Canonical ("/" ++ joinFields '/' components)

/-- A path that was cleaned is in canonical form. -/
theorem canonical_clean (path : String) : Canonical (clean path) := by
  have hnormal : Normal (isRooted path) (cleanComponents path) := normal_cleanComponents path
  rcases clean_cases path with ⟨hrooted, hclean⟩ | ⟨_, _, hclean⟩ | ⟨hrooted, hne, hclean⟩
  · rw [hrooted] at hnormal
    by_cases hne : cleanComponents path = []
    · rw [hclean, hne]
      exact .root
    · rw [hclean]
      exact .absolute hne hnormal
  · rw [hclean]
    exact .here
  · rw [hrooted] at hnormal
    rw [hclean]
    exact .relative hne hnormal

theorem Canonical.ne_empty (h : Canonical path) : path ≠ "" := by
  cases h with
  | here => decide
  | root => decide
  | relative hne hnormal => exact hnormal.joinFields_ne_empty hne
  | absolute => simp

/-- The path of clean components does not end in a slash. -/
theorem Normal.getLast?_joinFields (h : Normal rooted components) :
    (joinFields '/' components).toList.getLast? ≠ some '/' := by
  induction components with
  | nil => simp [joinFields]
  | cons c components ih =>
    obtain ⟨hempty, _, hslash⟩ := h.solid c List.mem_cons_self
    by_cases hne : components = []
    · rw [hne, joinFields_singleton]
      intro hlast
      exact hslash (List.mem_of_getLast? hlast)
    · have hchars : (joinFields '/' components).toList ≠ [] := by
        simpa using h.tail.joinFields_ne_empty hne
      rw [joinFields_cons '/' c hne, String.toList_append,
        List.getLast?_append_of_ne_nil _ hchars]
      exact ih h.tail

/-- No path in canonical form but the root ends in a slash. -/
theorem Canonical.getLast?_ne (h : Canonical path) (hroot : path ≠ "/") :
    path.toList.getLast? ≠ some '/' := by
  cases h with
  | here => decide
  | root => exact absurd rfl hroot
  | relative _ hnormal => exact hnormal.getLast?_joinFields
  | @absolute components hne hnormal =>
    have hchars : (joinFields '/' components).toList ≠ [] := by
      simpa using hnormal.joinFields_ne_empty hne
    rw [String.toList_append, List.getLast?_append_of_ne_nil _ hchars]
    exact hnormal.getLast?_joinFields

/-! ## Joining -/

section

variable {segments : List String}

/-- The segments put together start as the first of them does that is not empty. -/
theorem isRooted_concat_iff :
    isRooted (concat segments) = true ↔
      ∃ first, segments.find? (· ≠ "") = some first ∧ isRooted first = true := by
  rw [← List.head?_filter]
  unfold concat
  cases hfilter : segments.filter (· ≠ "") with
  | nil => simp [isRooted, joinFields]
  | cons first rest =>
    have hmem : first ∈ segments.filter (· ≠ "") := hfilter ▸ List.mem_cons_self
    have hempty : first ≠ "" := of_decide_eq_true (List.mem_filter.1 hmem).2
    simp [isRooted, head?_joinFields '/' hempty]

end

/-- Joining gives a canonical form of the path that the segments make. The result is empty for
empty segments only, has the form, starts at the root just when the first segment does that is not
empty, and leads where the segments put together lead. And two lists of segments that are not all
empty give the same text just when the paths they make agree on starting at the root and lead to the
same directory from everywhere. To tell them apart it is enough to start in directories that can
exist. -/
theorem join_canonical :
    (∀ segments : List String,
      (join segments = "" ↔ ∀ s ∈ segments, s = "") ∧
      (join segments ≠ "" → Canonical (join segments)) ∧
      (join segments ≠ "/" → (join segments).toList.getLast? ≠ some '/') ∧
      (isRooted (join segments) = true ↔
        ∃ first, segments.find? (· ≠ "") = some first ∧ isRooted first = true) ∧
      ∀ dir, walk dir (join segments) = walk dir (concat segments)) ∧
    (∀ xs ys : List String, (¬ ∀ s ∈ xs, s = "") → (¬ ∀ s ∈ ys, s = "") →
      (join xs = join ys ↔
        isRooted (concat xs) = isRooted (concat ys) ∧
          ∀ dir, walk dir (concat xs) = walk dir (concat ys)) ∧
      (isRooted (concat xs) = isRooted (concat ys) →
        (∀ dir : Directory, (∀ n ∈ dir, IsName n) →
          walk dir (concat xs) = walk dir (concat ys)) → join xs = join ys)) := by
  constructor
  · intro segments
    by_cases hall : ∀ s ∈ segments, s = ""
    · -- nothing to join, and nothing to walk
      have hconcat : concat segments = "" := concat_eq_empty_iff.2 hall
      rw [← isRooted_concat_iff, hconcat, join_eq_empty hall]
      exact ⟨⟨fun _ => hall, fun _ => rfl⟩, absurd rfl, fun _ => by decide, Iff.rfl, fun _ => rfl⟩
    · have hcanonical : Canonical (clean (concat segments)) := canonical_clean _
      rw [← isRooted_concat_iff, join_eq_clean hall, isRooted_clean]
      refine ⟨?_, fun _ => hcanonical, hcanonical.getLast?_ne, Iff.rfl, fun dir => walk_clean dir _⟩
      exact ⟨fun hempty => absurd hempty hcanonical.ne_empty, fun hall' => absurd hall' hall⟩
  · intro xs ys hxs hys
    rw [join_eq_clean hxs, join_eq_clean hys]
    exact ⟨clean_eq_iff, clean_eq_of_walk_eq⟩

/-- Two ways to climb twice and enter one directory. -/
theorem join_canonical_climbs :
    (¬ ∀ s ∈ ["a/../..", "", "../b/."], s = "") ∧ (¬ ∀ s ∈ ["../x//..", "../b"], s = "") ∧
      join ["a/../..", "", "../b/."] = "../../b" ∧ join ["../x//..", "../b"] = "../../b" ∧
      ∀ dir, walk dir (concat ["a/../..", "", "../b/."]) =
        walk dir (concat ["../x//..", "../b"]) := by
  have hxs : ¬ ∀ s ∈ ["a/../..", "", "../b/."], s = "" := by decide
  have hys : ¬ ∀ s ∈ ["../x//..", "../b"], s = "" := by decide
  have hjoin : join ["a/../..", "", "../b/."] = join ["../x//..", "../b"] := by
    decide +kernel
  exact ⟨hxs, hys, by decide +kernel, by decide +kernel,
    ((join_canonical.2 _ _ hxs hys).1.1 hjoin).2⟩

end ResourceInspector.Path
