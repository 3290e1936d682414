import ScriptLint.Check.Targets

/-! # First spellings

Of the paths that name one file by their spelling the first one is kept. The kept paths stand in their
order, name pairwise different files, and miss none. A path that is put in front of others takes the
place of the one among them that names the same file, and of no other.
-/

namespace ScriptLint.Check

/-- The paths of a list under which each file first appears in it. -/
structure FirstSpellings (workspace : Workspace) (expanded paths : List Path) : Prop where
  /-- The paths stand in their order. -/
  sublist : paths.Sublist expanded
  /-- No file has two of them. -/
  distinct : paths.Pairwise fun path other => workspace.resolve path ≠ workspace.resolve other
  /-- No path comes after another spelling of its file. -/
  first : ∀ path ∈ paths, ∃ front back, expanded = front ++ path :: back ∧
    ∀ earlier ∈ front, workspace.resolve earlier ≠ workspace.resolve path
  /-- Every file has one. -/
  complete : ∀ path ∈ expanded, ∃ kept ∈ paths, workspace.resolve kept = workspace.resolve path

variable {workspace : Workspace} {seen : List Location} {paths : List Path} {path : Path}

theorem distinctFrom_sublist (seen : List Location) (paths : List Path) :
    (distinctFrom workspace seen paths).Sublist paths := by
  induction paths generalizing seen with
  | nil => exact .refl _
  | cons path rest ih =>
    unfold distinctFrom
    split
    · exact .cons _ (ih seen)
    · exact .cons_cons _ (ih _)

/-- A path is kept exactly if its file has not been seen, neither before nor in the list. -/
theorem mem_distinctFrom_iff :
    path ∈ distinctFrom workspace seen paths ↔
      workspace.resolve path ∉ seen ∧ ∃ front back, paths = front ++ path :: back ∧
        ∀ earlier ∈ front, workspace.resolve earlier ≠ workspace.resolve path := by
  induction paths generalizing seen with
  | nil =>
    refine ⟨fun member => absurd member List.not_mem_nil, ?_⟩
    rintro ⟨-, front, back, split, -⟩
    exact absurd (List.append_eq_nil_iff.mp split.symm).2 (List.cons_ne_nil path back)
  | cons other rest ih =>
    unfold distinctFrom
    constructor
    · intro member
      split at member
      next known =>
        obtain ⟨new, front, back, split, earlier⟩ := ih.mp member
        refine ⟨new, other :: front, back, by rw [split]; rfl, List.forall_mem_cons.mpr ⟨?_, earlier⟩⟩
        exact fun same => new (same ▸ known)
      next unknown =>
        rcases List.mem_cons.mp member with rfl | member
        · exact ⟨unknown, [], rest, rfl, fun _ absent => absurd absent List.not_mem_nil⟩
        · obtain ⟨new, front, back, split, earlier⟩ := ih.mp member
          have different := List.ne_of_not_mem_cons new
          exact ⟨List.not_mem_of_not_mem_cons new, other :: front, back, by rw [split]; rfl,
            List.forall_mem_cons.mpr ⟨Ne.symm different, earlier⟩⟩
    · rintro ⟨new, front, back, split, earlier⟩
      cases front with
      | nil =>
        obtain ⟨rfl, rfl⟩ := List.cons.inj split
        rw [if_neg new]
        exact List.mem_cons_self ..
      | cons first others =>
        obtain ⟨rfl, rfl⟩ := List.cons.inj split
        obtain ⟨different, earlier⟩ := List.forall_mem_cons.mp earlier
        split
        · exact ih.mpr ⟨new, others, back, rfl, earlier⟩
        · refine List.mem_cons_of_mem _ (ih.mpr ⟨?_, others, back, rfl, earlier⟩)
          exact List.not_mem_cons_of_ne_of_not_mem (Ne.symm different) new

theorem distinctFrom_pairwise (seen : List Location) (paths : List Path) :
    (distinctFrom workspace seen paths).Pairwise fun path other =>
      workspace.resolve path ≠ workspace.resolve other := by
  induction paths generalizing seen with
  | nil => exact .nil
  | cons path rest ih =>
    unfold distinctFrom
    split
    · exact ih seen
    · refine List.pairwise_cons.mpr ⟨fun other member same => ?_, ih _⟩
      exact (mem_distinctFrom_iff.mp member).1 (same ▸ List.mem_cons_self ..)

theorem exists_kept (member : path ∈ paths) :
    workspace.resolve path ∈ seen ∨
      ∃ kept ∈ distinctFrom workspace seen paths, workspace.resolve kept = workspace.resolve path := by
  induction paths generalizing seen with
  | nil => exact absurd member List.not_mem_nil
  | cons other rest ih =>
    unfold distinctFrom
    split
    next known =>
      rcases List.mem_cons.mp member with rfl | member
      · exact .inl known
      · exact ih member
    next unknown =>
      rcases List.mem_cons.mp member with rfl | member
      · exact .inr ⟨path, List.mem_cons_self .., rfl⟩
      · rcases @ih (workspace.resolve other :: seen) member with known | ⟨kept, found, same⟩
        · rcases List.mem_cons.mp known with same | known
          · exact .inr ⟨other, List.mem_cons_self .., same.symm⟩
          · exact .inl known
        · exact .inr ⟨kept, List.mem_cons_of_mem _ found, same⟩

theorem firstSpellings_distinctFrom (workspace : Workspace) (expanded : List Path) :
    FirstSpellings workspace expanded (distinctFrom workspace [] expanded) where
  sublist := distinctFrom_sublist [] expanded
  distinct := distinctFrom_pairwise [] expanded
  first _ member := (mem_distinctFrom_iff.mp member).2
  complete _ member := (exists_kept member).resolve_left List.not_mem_nil

section Insertion

theorem distinctFrom_congr {other : List Location} (same : ∀ location, location ∈ other ↔ location ∈ seen) :
    distinctFrom workspace other paths = distinctFrom workspace seen paths := by
  induction paths generalizing seen other with
  | nil => rfl
  | cons path rest ih =>
    have later : distinctFrom workspace (workspace.resolve path :: other) rest =
        distinctFrom workspace (workspace.resolve path :: seen) rest :=
      ih fun location => by rw [List.mem_cons, List.mem_cons, same]
    simp only [distinctFrom, same, ih same, later]

/-- Seeing a file takes its path out, and no other. -/
theorem distinctFrom_cons_seen (location : Location) :
    distinctFrom workspace (location :: seen) paths =
      (distinctFrom workspace seen paths).filter fun path => workspace.resolve path ≠ location := by
  induction paths generalizing seen with
  | nil => rfl
  | cons path rest ih =>
    by_cases known : workspace.resolve path ∈ seen
    · simp only [distinctFrom, known, List.mem_cons_of_mem _ known, ↓reduceIte, ih]
    · have swapped : distinctFrom workspace (workspace.resolve path :: location :: seen) rest =
          distinctFrom workspace (location :: workspace.resolve path :: seen) rest :=
        distinctFrom_congr fun other => by simp only [List.mem_cons, or_left_comm]
      by_cases same : workspace.resolve path = location
      · have others : (distinctFrom workspace (location :: seen) rest).filter
            (fun path => workspace.resolve path ≠ location) = distinctFrom workspace (location :: seen) rest := by
          refine List.filter_eq_self.mpr fun other member => decide_eq_true fun met => ?_
          exact (mem_distinctFrom_iff.mp member).1 (met ▸ List.mem_cons_self ..)
        simp only [distinctFrom, same, List.mem_cons_self, ↓reduceIte, same ▸ known]
        have dropped : decide (workspace.resolve path ≠ location) = false := decide_eq_false (not_not_intro same)
        rw [List.filter_cons, dropped, others]
        rfl
      · have unknown : workspace.resolve path ∉ location :: seen := List.not_mem_cons_of_ne_of_not_mem same known
        simp only [distinctFrom, known, unknown, ↓reduceIte]
        have kept : decide (workspace.resolve path ≠ location) = true := decide_eq_true same
        rw [List.filter_cons, if_pos kept, swapped, ih]

theorem distinctFrom_append (seen : List Location) (front back : List Path) :
    distinctFrom workspace seen (front ++ back) =
      distinctFrom workspace seen front ++ distinctFrom workspace (front.map workspace.resolve ++ seen) back := by
  induction front generalizing seen with
  | nil => rfl
  | cons path rest ih =>
    by_cases known : workspace.resolve path ∈ seen
    · have same : distinctFrom workspace (rest.map workspace.resolve ++ seen) back =
          distinctFrom workspace (workspace.resolve path :: (rest.map workspace.resolve ++ seen)) back := by
        refine distinctFrom_congr fun location => ⟨List.mem_cons_of_mem _, fun member => ?_⟩
        rcases List.mem_cons.mp member with rfl | member
        · exact List.mem_append_right _ known
        · exact member
      simp only [List.cons_append, distinctFrom, known, ↓reduceIte, List.map_cons, ih, same]
    · have same : distinctFrom workspace (rest.map workspace.resolve ++ workspace.resolve path :: seen) back =
          distinctFrom workspace (workspace.resolve path :: (rest.map workspace.resolve ++ seen)) back :=
        distinctFrom_congr fun location => by
          simp only [List.mem_append, List.mem_cons, or_left_comm]
      simp only [List.cons_append, distinctFrom, known, ↓reduceIte, List.map_cons, ih, same]

/-- A path whose file appears before it changes nothing. -/
theorem distinctFrom_insert_of_known {front : List Path} (back : List Path) {earlier : Path}
    (member : earlier ∈ front) (same : workspace.resolve earlier = workspace.resolve path) :
    distinctFrom workspace [] (front ++ path :: back) = distinctFrom workspace [] (front ++ back) := by
  have known : workspace.resolve path ∈ front.map workspace.resolve ++ [] := by
    rw [List.append_nil, ← same]
    exact List.mem_map_of_mem member
  rw [distinctFrom_append, distinctFrom_append, distinctFrom, if_pos known]

/-- A path whose file does not appear before it stands in for the one whose file it names. -/
theorem distinctFrom_insert_of_new {front : List Path} (back : List Path)
    (new : ∀ earlier ∈ front, workspace.resolve earlier ≠ workspace.resolve path) :
    distinctFrom workspace [] (front ++ path :: back) =
      distinctFrom workspace [] front ++ path ::
        (distinctFrom workspace (front.map workspace.resolve) back).filter fun other =>
          workspace.resolve other ≠ workspace.resolve path := by
  have unknown : workspace.resolve path ∉ front.map workspace.resolve := by
    intro member
    obtain ⟨earlier, inside, same⟩ := List.mem_map.mp member
    exact new earlier inside same
  rw [distinctFrom_append, List.append_nil, distinctFrom, if_neg unknown, distinctFrom_cons_seen]

end Insertion

end ScriptLint.Check
