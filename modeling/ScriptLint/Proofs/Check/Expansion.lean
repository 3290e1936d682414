import Mathlib.Data.List.Nodup
import ScriptLint.Proofs.Check.Targets
import ScriptLint.Proofs.FileTree.Enumeration
import ScriptLint.Proofs.Order

/-! # What arguments stand for

A directory argument stands for its scripts in strictly increasing order of their paths, any other
argument for itself. An argument has no answer exactly if something that has to be looked at for it is
too long. The paths of an argument that has one are short enough to be read, and they do not depend
on the order of enumeration.
-/

namespace ScriptLint

namespace Workspace

variable {workspace : Workspace} {path : Path} {location : Location}

theorem directory?_eq_some_iff :
    workspace.directory? path = .ok (some location) ↔ workspace.find path = .ok (location, .directory) := by
  unfold directory? probe
  cases workspace.find path with
  | error problem => cases problem <;> simp only [Except.map, reduceCtorEq, Except.ok.injEq]
  | ok found =>
    obtain ⟨reached, content⟩ := found
    cases content <;> simp [Except.map]

theorem problem_of_directory? {fault : AccessFault} (fails : workspace.directory? path = .error fault) :
    fault.problem = .tooLong := by
  unfold directory? probe at fails
  split at fails
  next => contradiction
  next =>
    obtain rfl := Except.error.inj fails
    rfl
  next => contradiction

theorem isTooLong_of_directory? (clean : path.hasNull = false) {held : Option Location}
    (known : workspace.directory? path = .ok held) : path.isTooLong = false := by
  refine Bool.eq_false_iff.mpr fun long => ?_
  simp only [directory?, probe, find, clean, long, Bool.false_eq_true, ↓reduceIte, Except.map, reduceCtorEq] at known

end Workspace

namespace Check

variable {workspace : Workspace} {argument path : Path} {directory : Location} {paths : List Path}

section Scripts

theorem mem_scriptsBelow_iff (proper : workspace.tree.IsProper) :
    path ∈ scriptsBelow workspace argument directory ↔
      ∃ names, path = argument.below names ∧
        (∃ bytes, workspace.tree.content? (directory ++ names) = some (.file bytes)) ∧
        isCollected path = true := by
  unfold scriptsBelow
  rw [(sortStable_perm ..).mem_iff, List.mem_filter, List.mem_map]
  constructor
  · rintro ⟨⟨names, member, rfl⟩, collected⟩
    exact ⟨names, rfl, (FileTree.mem_filesBelow_iff proper).mp member, collected⟩
  · rintro ⟨names, rfl, file, collected⟩
    exact ⟨⟨names, (FileTree.mem_filesBelow_iff proper).mpr file, rfl⟩, collected⟩

theorem nodup_filesBelow (proper : workspace.tree.IsProper) :
    (workspace.tree.filesBelow directory).Nodup := by
  have distinct := List.pairwise_map.mp proper.distinct
  refine List.Pairwise.filterMap _ (fun entry other different names led others otherLed => ?_) distinct
  rintro rfl
  -- The same names lead to the same location, which is listed once.
  obtain ⟨location, content⟩ := entry
  obtain ⟨otherLocation, otherContent⟩ := other
  cases content with
  | directory => simp only [reduceCtorEq] at led
  | file bytes =>
    cases otherContent with
    | directory => simp only [reduceCtorEq] at otherLed
    | file otherBytes =>
      have here := namesBelow?_eq_some_iff.mp led
      have there := namesBelow?_eq_some_iff.mp otherLed
      exact different (here.trans there.symm)

/-- The scripts of a directory come in strictly increasing order. -/
theorem scriptsBelow_pairwise (proper : workspace.tree.IsProper) (argument : Path) (directory : Location) :
    (scriptsBelow workspace argument directory).Pairwise fun path other => path.parts < other.parts := by
  have increasing : (scriptsBelow workspace argument directory).Pairwise
      fun path other => path.before other = true := by
    refine sortStable_pairwise ?_ ?_ _
    · intro path other
      rw [Path.before_iff, Path.before_iff, ← not_and_or]
      exact fun ⟨less, greater⟩ => List.lt_asymm less greater
    · intro path other third first second
      rw [Path.before_iff] at first second ⊢
      exact List.le_trans first second
  have distinct : (scriptsBelow workspace argument directory).Pairwise fun path other => path ≠ other := by
    have below : (((workspace.tree.filesBelow directory).map argument.below).filter isCollected).Nodup := by
      refine List.Nodup.filter _ ((nodup_filesBelow proper).map fun names others same => ?_)
      exact List.append_cancel_left (congrArg Path.parts same)
    exact (sortStable_perm ..).nodup_iff.mpr below
  have below : ∀ path ∈ scriptsBelow workspace argument directory, ∃ names, path = argument.below names :=
    fun path member => (mem_scriptsBelow_iff proper).mp member |>.imp fun _ found => found.1
  refine (increasing.and distinct).imp_of_mem fun {path other} member otherMember both => ?_
  obtain ⟨names, rfl⟩ := below _ member
  obtain ⟨others, rfl⟩ := below _ otherMember
  refine Decidable.by_contra fun notLess => both.2 ?_
  exact congrArg (Path.mk argument.anchor) (List.le_antisymm (Path.before_iff.mp both.1) notLess)

end Scripts

section Inspected

/-- The directories on the way to something listed are there. -/
theorem content?_of_mem_directoriesTo (proper : workspace.tree.IsProper) {names others : List String}
    {content : Content} (held : workspace.tree.content? (directory ++ others) = some content)
    (member : names ∈ directoriesTo others content) :
    workspace.tree.content? (directory ++ names) = some .directory := by
  have above (count : Nat) (bound : count < others.length) :
      workspace.tree.content? (directory ++ others.take count) = some .directory := by
    rw [← List.take_append_drop count others, ← List.append_assoc, List.drop_eq_getElem_cons bound] at held
    exact FileTree.content?_of_below proper held
  cases content with
  | file bytes =>
    obtain ⟨count, bound, rfl⟩ := List.mem_map.mp member
    exact above count (List.mem_range.mp bound)
  | directory =>
    obtain ⟨count, bound, rfl⟩ := List.mem_map.mp member
    rcases Nat.lt_succ_iff_lt_or_eq.mp (List.mem_range.mp bound) with inner | rfl
    · exact above count inner
    · rwa [List.take_length]

/-- What has to be looked at below a directory: other directories, and whatever has the suffix of a
script. -/
def NeedsLook (workspace : Workspace) (argument : Path) (directory : Location) (names : List String) : Prop :=
  ∃ content, workspace.tree.content? (directory ++ names) = some content ∧
    (content = .directory ∨ isScript (argument.below names) = true)

theorem needsLook_of_mem_inspected (proper : workspace.tree.IsProper)
    (member : path ∈ inspected workspace argument directory) :
    ∃ names, path = argument.below names ∧ NeedsLook workspace argument directory names := by
  have found {names : List String} {content : Content}
      (listed : (names, content) ∈ workspace.tree.listedBelow directory) :
      workspace.tree.content? (directory ++ names) = some content :=
    FileTree.content?_of_mem proper (FileTree.mem_listedBelow_iff.mp listed)
  unfold inspected at member
  rw [(sortStable_perm ..).mem_iff, List.mem_append, List.mem_filter, List.mem_map, List.mem_map] at member
  rcases member with ⟨⟨⟨names, content⟩, listed, rfl⟩, script⟩ | ⟨names, passed, rfl⟩
  · exact ⟨names, rfl, content, found listed, .inr script⟩
  · obtain ⟨⟨others, content⟩, listed, onWay⟩ := List.mem_flatMap.mp passed
    exact ⟨names, rfl, .directory, content?_of_mem_directoriesTo proper (found listed) onWay, .inl rfl⟩

theorem mem_inspected_of_needsLook (proper : workspace.tree.IsProper) {names : List String}
    (inside : names ≠ []) (needs : NeedsLook workspace argument directory names) :
    argument.below names ∈ inspected workspace argument directory := by
  obtain ⟨content, held, kind⟩ := needs
  unfold inspected
  rw [(sortStable_perm ..).mem_iff, List.mem_append, List.mem_filter, List.mem_map, List.mem_map]
  cases content with
  | file bytes =>
    have listed := (FileTree.content?_file_iff proper).mp held
    have script := kind.resolve_left (by simp only [reduceCtorEq, not_false_eq_true])
    exact .inl ⟨⟨_, FileTree.mem_listedBelow_iff.mpr listed, rfl⟩, script⟩
  | directory =>
    rcases FileTree.exists_listed_of_content? held with empty | ⟨others, content, listed⟩
    · exact absurd (List.append_eq_nil_iff.mp empty).2 inside
    · rw [List.append_assoc] at listed
      refine .inr ⟨names, List.mem_flatMap.mpr ⟨_, FileTree.mem_listedBelow_iff.mpr listed, ?_⟩, rfl⟩
      -- The directory is listed itself, or it is on the way to something that is.
      have start : names = (names ++ others).take names.length := (List.take_left' rfl).symm
      have bound : names.length ≤ (names ++ others).length := by
        rw [List.length_append]
        exact Nat.le_add_right ..
      cases content with
      | directory => exact List.mem_map.mpr ⟨_, List.mem_range.mpr (Nat.lt_succ_of_le bound), start.symm⟩
      | file bytes =>
        refine List.mem_map.mpr ⟨_, List.mem_range.mpr (Nat.lt_of_le_of_ne bound fun full => ?_), start.symm⟩
        rw [List.length_append, Nat.left_eq_add, List.length_eq_zero_iff] at full
        rw [full, List.append_nil] at listed
        rw [(FileTree.content?_file_iff proper).mpr listed] at held
        simp only [Option.some.injEq, reduceCtorEq] at held

/-- A directory argument has no answer exactly if something that has to be looked at is too long. -/
theorem collect_fails_iff (proper : workspace.tree.IsProper) (short : argument.isTooLong = false) :
    (∃ fault, collect workspace argument directory = .error fault) ↔
      ∃ names, NeedsLook workspace argument directory names ∧ (argument.below names).isTooLong = true := by
  unfold collect
  cases found : (inspected workspace argument directory).find? Path.isTooLong with
  | some path =>
    obtain ⟨names, rfl, needs⟩ := needsLook_of_mem_inspected proper (List.mem_of_find?_eq_some found)
    exact ⟨fun _ => ⟨names, needs, List.find?_some found⟩, fun _ => ⟨_, rfl⟩⟩
  | none =>
    refine ⟨fun ⟨fault, fails⟩ => by contradiction, fun ⟨names, needs, long⟩ => ?_⟩
    have inside : names ≠ [] := by
      rintro rfl
      have same : argument.below [] = argument := by simp only [Path.below, List.append_nil]
      rw [same, short] at long
      contradiction
    exact absurd long (List.find?_eq_none.mp found _ (mem_inspected_of_needsLook proper inside needs))

/-- Otherwise it stands for its scripts. -/
theorem collect_eq_ok_iff (proper : workspace.tree.IsProper) (short : argument.isTooLong = false) :
    collect workspace argument directory = .ok paths ↔ paths = scriptsBelow workspace argument directory ∧
      ∀ names, NeedsLook workspace argument directory names → (argument.below names).isTooLong = false := by
  have fails := @collect_fails_iff workspace argument directory proper short
  cases collected : collect workspace argument directory with
  | error fault =>
    obtain ⟨names, needs, long⟩ := fails.mp ⟨fault, collected⟩
    refine ⟨fun found => by contradiction, fun ⟨_, inside⟩ => ?_⟩
    rw [inside names needs] at long
    contradiction
  | ok others =>
    have scripts : others = scriptsBelow workspace argument directory := by
      unfold collect at collected
      split at collected
      next => contradiction
      next => exact (Except.ok.inj collected).symm
    have inside : ∀ names, NeedsLook workspace argument directory names →
        (argument.below names).isTooLong = false := by
      intro names needs
      refine Bool.eq_false_iff.mpr fun long => ?_
      obtain ⟨fault, failed⟩ := fails.mpr ⟨names, needs, long⟩
      rw [collected] at failed
      contradiction
    rw [and_iff_left inside, ← scripts, Except.ok.injEq, eq_comm]

end Inspected

section Expand

/-- The paths that an argument stands for, none if it has no answer. -/
def expansion (workspace : Workspace) (argument : Path) : List Path :=
  (expand workspace argument).toOption.getD []

/-- Whether everything that has to be looked at for an argument can be. -/
def Opens (workspace : Workspace) (argument : Path) : Prop :=
  argument.hasNull = false ∧ ∃ paths, expand workspace argument = .ok paths

theorem expansion_of_expand (expanded : expand workspace argument = .ok paths) :
    expansion workspace argument = paths := by
  simp only [expansion, expanded, Except.toOption, Option.getD_some]

theorem expand_eq_expansion (opens : Opens workspace argument) :
    expand workspace argument = .ok (expansion workspace argument) := by
  obtain ⟨-, paths, expanded⟩ := opens
  rw [expansion_of_expand expanded, expanded]

theorem Opens.isTooLong (opens : Opens workspace argument) : argument.isTooLong = false := by
  obtain ⟨clean, paths, expanded⟩ := opens
  unfold expand at expanded
  split at expanded
  next => contradiction
  next known => exact Workspace.isTooLong_of_directory? clean known
  next known => exact Workspace.isTooLong_of_directory? clean known

/-- A directory stands for its scripts, and nothing that has to be looked at for it is too long. -/
theorem scripts_of_expand (proper : workspace.tree.IsProper)
    (leads : workspace.directory? argument = .ok (some directory))
    (expanded : expand workspace argument = .ok paths) :
    paths = scriptsBelow workspace argument directory ∧
      ∀ names, NeedsLook workspace argument directory names → (argument.below names).isTooLong = false := by
  simp only [expand, leads] at expanded
  have short := Workspace.isTooLong_of_find (Workspace.directory?_eq_some_iff.mp leads)
  exact (collect_eq_ok_iff proper short).mp expanded

/-- An argument stands for itself or for the scripts of a directory, none of them too long. -/
theorem expand_cases (proper : workspace.tree.IsProper) (expanded : expand workspace argument = .ok paths) :
    (workspace.directory? argument = .ok none ∧ paths = [argument]) ∨
      ∃ directory, workspace.directory? argument = .ok (some directory) ∧
        paths = scriptsBelow workspace argument directory ∧
        ∀ names, NeedsLook workspace argument directory names → (argument.below names).isTooLong = false := by
  cases led : workspace.directory? argument with
  | error fault =>
    simp only [expand, led, reduceCtorEq] at expanded
  | ok held =>
    cases held with
    | none =>
      simp only [expand, led, Except.ok.injEq] at expanded
      exact .inl ⟨rfl, expanded.symm⟩
    | some directory => exact .inr ⟨directory, rfl, scripts_of_expand proper led expanded⟩

theorem problem_of_expand {fault : AccessFault} (fails : expand workspace argument = .error fault) :
    fault.problem = .tooLong := by
  unfold expand at fails
  split at fails
  next known =>
    obtain rfl := Except.error.inj fails
    exact Workspace.problem_of_directory? known
  next => contradiction
  next =>
    unfold collect at fails
    split at fails
    next =>
      obtain rfl := Except.error.inj fails
      rfl
    next => contradiction

/-- The paths of an argument can be followed: they are short, and nothing but what stands in the
argument keeps them from being read as they are spelled. -/
theorem followable_of_mem_expand (proper : workspace.tree.IsProper) (clean : argument.hasNull = false)
    (expanded : expand workspace argument = .ok paths) (member : path ∈ paths) :
    path.hasNull = false ∧ path.isTooLong = false ∧ (argument.IsPlain → path.IsPlain) := by
  rcases expand_cases proper expanded with ⟨known, rfl⟩ | ⟨directory, held, rfl, short⟩
  · obtain rfl := List.mem_singleton.mp member
    exact ⟨clean, Workspace.isTooLong_of_directory? clean known, id⟩
  · obtain ⟨names, rfl, ⟨bytes, file⟩, collected⟩ := (mem_scriptsBelow_iff proper).mp member
    have entryNames : ∀ name ∈ names, IsEntryName name := fun name inside =>
      FileTree.isEntryName_of_content? proper file name (List.mem_append_right _ inside)
    have script : isScript (argument.below names) = true := (Bool.and_eq_true_iff.mp collected).1
    refine ⟨?_, short names ⟨_, file, .inr script⟩, fun plain inside => ?_⟩
    · rw [Path.hasNull_below _ fun name inside => (entryNames name inside).2.2, clean]
    · rcases List.mem_append.mp inside with above | below
      · exact plain above
      · exact (entryNames _ below).1 rfl

end Expand

section Enumeration
variable {other : Workspace} (same : other.SameFiles workspace) (proper : workspace.tree.IsProper)
include same

theorem inspected_perm (argument : Path) (directory : Location) :
    (inspected other argument directory).Perm (inspected workspace argument directory) := by
  have listed := FileTree.listedBelow_perm same.perm directory
  unfold inspected
  refine (sortStable_perm ..).trans (.trans ?_ (sortStable_perm ..).symm)
  exact ((listed.map _).filter _).append ((listed.flatMap_right _).map _)

theorem scriptsBelow_perm (argument : Path) (directory : Location) :
    (scriptsBelow other argument directory).Perm (scriptsBelow workspace argument directory) := by
  have files := FileTree.filesBelow_perm same.perm directory
  unfold scriptsBelow
  exact (sortStable_perm ..).trans (((files.map _).filter _).trans (sortStable_perm ..).symm)

include proper

theorem expand_perm (expanded : expand workspace argument = .ok paths) :
    ∃ others, expand other argument = .ok others ∧ others.Perm paths := by
  unfold expand at expanded ⊢
  rw [Workspace.directory?_of_sameFiles same proper]
  split at expanded
  next => contradiction
  next => exact ⟨paths, expanded, .refl _⟩
  next directory held =>
    unfold collect at expanded ⊢
    split at expanded
    next => contradiction
    next short =>
      obtain rfl := Except.ok.inj expanded
      have alsoShort : (inspected other argument directory).find? Path.isTooLong = none := by
        rw [List.find?_eq_none] at short ⊢
        exact fun path member => short path ((inspected_perm same argument directory).mem_iff.mp member)
      exact ⟨_, by simp only [alsoShort], scriptsBelow_perm same argument directory⟩

theorem opens_of_sameFiles : Opens other argument ↔ Opens workspace argument := by
  refine and_congr_right fun _ => ⟨fun ⟨paths, expanded⟩ => ?_, fun ⟨paths, expanded⟩ => ?_⟩
  · obtain ⟨others, found, -⟩ := expand_perm same.symm (proper.of_perm same.perm) expanded
    exact ⟨others, found⟩
  · obtain ⟨others, found, -⟩ := expand_perm same proper expanded
    exact ⟨others, found⟩

theorem mem_expansion_of_sameFiles (opens : Opens workspace argument) :
    path ∈ expansion other argument ↔ path ∈ expansion workspace argument := by
  obtain ⟨-, paths, expanded⟩ := opens
  obtain ⟨others, found, perm⟩ := expand_perm same proper expanded
  rw [expansion_of_expand expanded, expansion_of_expand found, perm.mem_iff]

end Enumeration

section ExpandAll
variable {arguments expanded : List Path}

/-- Arguments are expanded one after the other, each by itself. -/
theorem expandAll_eq_ok_iff :
    expandAll workspace arguments = .ok expanded ↔
      (∀ argument ∈ arguments, ∃ paths, expand workspace argument = .ok paths) ∧
        expanded = arguments.flatMap (expansion workspace) := by
  induction arguments generalizing expanded with
  | nil => simp [expandAll, eq_comm]
  | cons argument rest ih =>
    rw [List.forall_mem_cons, List.flatMap_cons]
    cases own : expand workspace argument with
    | error fault =>
      simp only [expandAll, own, reduceCtorEq, exists_false, false_and]
    | ok paths =>
      rw [expansion_of_expand own]
      simp only [expandAll, own]
      cases others : expandAll workspace rest with
      | error fault =>
        refine ⟨fun fails => by contradiction, ?_⟩
        rintro ⟨⟨-, all⟩, -⟩
        rw [ih.mpr ⟨all, rfl⟩] at others
        contradiction
      | ok otherPaths =>
        obtain ⟨all, rfl⟩ := ih.mp others
        refine ⟨fun found => ⟨⟨⟨paths, rfl⟩, all⟩, (Except.ok.inj found).symm⟩, ?_⟩
        rintro ⟨-, rfl⟩
        rfl

theorem expandAll_of_opens (opens : ∀ argument ∈ arguments, Opens workspace argument) :
    expandAll workspace arguments = .ok (arguments.flatMap (expansion workspace)) :=
  expandAll_eq_ok_iff.mpr ⟨fun argument member => (opens argument member).2, rfl⟩

end ExpandAll

end Check

end ScriptLint
