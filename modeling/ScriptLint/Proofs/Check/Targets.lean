import ScriptLint.Check.Targets
import ScriptLint.Config.Load
import ScriptLint.Proofs.FileTree

/-! # Files to check under new bytes

Which files are checked does not depend on what stands in files. Every one of them is an argument of
the command or a script by its suffix, so that a configuration file is checked only where an argument
leads to it.
-/

namespace ScriptLint

namespace Config

variable {workspace : Workspace}

theorem mem_of_firstFile? {paths : List Path} {path : Path}
    (first : firstFile? workspace paths = .ok (some path)) : path ∈ paths := by
  induction paths with
  | nil => simp only [firstFile?, Except.ok.injEq, reduceCtorEq] at first
  | cons other rest ih =>
    unfold firstFile? at first
    split at first
    next => contradiction
    next =>
      obtain rfl := Option.some.inj (Except.ok.inj first)
      exact List.mem_cons_self ..
    next => exact List.mem_cons_of_mem _ (ih first)

theorem getLast?_of_closest? {start path : Path} (closest : closest? workspace start = .ok (some path)) :
    path.parts.getLast? = some fileName := by
  obtain ⟨directory, _, rfl⟩ := List.mem_map.mp (mem_of_firstFile? closest)
  exact List.getLast?_concat ..

theorem closest?_rewrite {location : Location} {old : List UInt8}
    (present : workspace.tree.content? location = some (.file old)) (bytes : List UInt8) (start : Path) :
    closest? (workspace.write location (.file bytes)) start = closest? workspace start := by
  unfold closest?
  induction candidates start with
  | nil => rfl
  | cons path rest ih => simp only [firstFile?, Workspace.isFile_rewrite present, ih]

end Config

namespace Check

variable {workspace : Workspace}

section Rewriting
variable {location : Location} {old : List UInt8}
variable (present : workspace.tree.content? location = some (.file old)) (bytes : List UInt8)
include present

theorem inspected_rewrite (argument : Path) (directory : Location) :
    inspected (workspace.write location (.file bytes)) argument directory =
      inspected workspace argument directory := by
  simp only [inspected, List.flatMap_def, Workspace.write]
  rw [FileTree.map_listedBelow_rewrite present bytes fun _ => rfl,
    FileTree.map_listedBelow_rewrite present bytes fun _ => rfl]

theorem expandAll_rewrite (arguments : List Path) :
    expandAll (workspace.write location (.file bytes)) arguments = expandAll workspace arguments := by
  have below : collect (workspace.write location (.file bytes)) = collect workspace := by
    funext argument directory
    have files : (workspace.write location (.file bytes)).tree.filesBelow directory =
        workspace.tree.filesBelow directory := FileTree.filesBelow_rewrite present bytes directory
    simp only [collect, scriptsBelow, inspected_rewrite present, files]
  induction arguments with
  | nil => rfl
  | cons argument rest ih =>
    simp only [expandAll, expand, Workspace.directory?_rewrite present, below, ih]

theorem targets_rewrite (arguments : List Path) :
    targets (workspace.write location (.file bytes)) arguments = targets workspace arguments := by
  have distinct : distinctFrom (workspace.write location (.file bytes)) = distinctFrom workspace := by
    funext seen paths
    induction paths generalizing seen with
    | nil => rfl
    | cons path rest ih =>
      have same : (workspace.write location (.file bytes)).resolve path = workspace.resolve path := rfl
      simp only [distinctFrom, same, ih]
  rw [targets, targets, expandAll_rewrite present, distinct]

end Rewriting

theorem isCollected_of_mem_collect {argument path : Path} {directory : Location} {paths : List Path}
    (collected : collect workspace argument directory = .ok paths) (member : path ∈ paths) :
    isCollected path = true := by
  unfold collect at collected
  split at collected
  next => contradiction
  next =>
    obtain rfl := Except.ok.inj collected
    exact (List.mem_filter.mp ((sortStable_perm ..).mem_iff.mp member)).2

theorem eq_or_isCollected_of_mem_expand {argument path : Path} {paths : List Path}
    (expanded : expand workspace argument = .ok paths) (member : path ∈ paths) :
    path = argument ∨ isCollected path = true := by
  unfold expand at expanded
  split at expanded
  next => contradiction
  next =>
    obtain rfl := Except.ok.inj expanded
    exact .inl (List.mem_singleton.mp member)
  next directory held => exact .inr (isCollected_of_mem_collect expanded member)

theorem mem_expandAll {arguments paths : List Path} {path : Path}
    (expanded : expandAll workspace arguments = .ok paths) (member : path ∈ paths) :
    path ∈ arguments ∨ isCollected path = true := by
  induction arguments generalizing paths with
  | nil =>
    obtain rfl := Except.ok.inj expanded
    exact absurd member List.not_mem_nil
  | cons argument rest ih =>
    unfold expandAll at expanded
    split at expanded
    next => contradiction
    next own ownExpanded =>
      cases others : expandAll workspace rest with
      | error fault => rw [others] at expanded; contradiction
      | ok otherPaths =>
        rw [others] at expanded
        obtain rfl := Except.ok.inj expanded
        rcases List.mem_append.mp member with member | member
        · rcases eq_or_isCollected_of_mem_expand ownExpanded member with rfl | collected
          · exact .inl (List.mem_cons_self ..)
          · exact .inr collected
        · exact (ih others member).imp_left (List.mem_cons_of_mem _)

theorem mem_of_mem_distinctFrom {seen : List Location} {paths : List Path} {path : Path}
    (member : path ∈ distinctFrom workspace seen paths) : path ∈ paths := by
  induction paths generalizing seen with
  | nil => exact member
  | cons other rest ih =>
    unfold distinctFrom at member
    split at member
    next => exact List.mem_cons_of_mem _ (ih member)
    next =>
      rcases List.mem_cons.mp member with rfl | member
      · exact List.mem_cons_self ..
      · exact List.mem_cons_of_mem _ (ih member)

/-- Whatever is checked was asked for by itself or is a script. -/
theorem mem_targets {arguments paths : List Path} {path : Path}
    (expanded : targets workspace arguments = .ok paths) (member : path ∈ paths) :
    path ∈ arguments ∨ isCollected path = true := by
  unfold targets at expanded
  cases all : expandAll workspace arguments with
  | error fault => rw [all] at expanded; contradiction
  | ok candidates =>
    rw [all] at expanded
    obtain rfl := Except.ok.inj expanded
    exact mem_expandAll all (mem_of_mem_distinctFrom member)

/-- A script does not lead to a configuration file. -/
theorem find_ne_of_isCollected {path : Path} (collected : isCollected path = true) {location : Location}
    (last : location.getLast? = some Config.fileName) (content : Content) :
    workspace.find path ≠ .ok (location, content) := by
  intro leads
  have script : scriptSuffixes.contains (Text.lower path.suffix) = true := (Bool.and_eq_true_iff.mp collected).1
  unfold Path.suffix at script
  cases ending : path.parts.getLast? with
  | none =>
    rw [ending] at script
    exact absurd script (by decide +kernel)
  | some name =>
    rw [ending] at script
    have ordinary : name ≠ parentName := by
      rintro rfl
      exact absurd script (by decide +kernel)
    have same := (Workspace.getLast?_of_find leads ending ordinary).symm.trans last
    obtain rfl := Option.some.inj same
    exact absurd script (by decide +kernel)

end Check

end ScriptLint
