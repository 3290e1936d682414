import ScriptLint.Proofs.Analysis.LongLines
import ScriptLint.Proofs.Check.Expansion
import ScriptLint.Proofs.Check.LineLength

/-! # What is shown for files

Under the shipped texts a configuration that loads gives rules that never fail. A file that can be read
is then shown by its findings, one that cannot by one complaint, and each file is shown in the same way
whatever comes before or after it. A run shows its files one after the other, unless an argument does
not open: then it breaks off before anything is shown. What the findings in a file say is decided by
its bytes.
-/

namespace ScriptLint

namespace FileTree

theorem walk_ne_nullCharacter (tree : FileTree) (location : Location) (names : List String) :
    tree.walk location names ≠ .error .nullCharacter := by
  induction names generalizing location with
  | nil => simp only [walk, ne_eq, reduceCtorEq, not_false_eq_true]
  | cons name rest ih =>
    unfold walk
    split
    · split
      · simp only [ne_eq, Except.error.injEq, reduceCtorEq, not_false_eq_true]
      · exact ih _
    all_goals simp only [ne_eq, Except.error.injEq, reduceCtorEq, not_false_eq_true]

end FileTree

/-- A script that cannot be loaded is passed over, unless its path has a null character. -/
theorem Script.isUnreadable_of_load {workspace : Workspace} {path : Path} {cause : Failure}
    (clean : path.hasNull = false) (fails : Script.load workspace path = .error cause) :
    cause.isUnreadable = true := by
  have found : workspace.find path ≠ .error .nullCharacter := by
    unfold Workspace.find
    rw [clean]
    split
    · contradiction
    · split
      · simp only [ne_eq, Except.error.injEq, reduceCtorEq, not_false_eq_true]
      · split
        next problem walked =>
          rintro ⟨⟩
          exact FileTree.walk_ne_nullCharacter _ _ _ walked
        next => split <;> simp only [ne_eq, Except.error.injEq, reduceCtorEq, not_false_eq_true]
  unfold Script.load at fails
  split at fails
  next bytes =>
    unfold Script.ofBytes at fails
    split at fails
    · contradiction
    · obtain rfl := Except.error.inj fails
      rfl
  next fault read =>
    obtain rfl := Except.error.inj fails
    unfold Workspace.read at read
    split at read
    · contradiction
    · obtain rfl := Except.error.inj read
      rfl
    next problem failed =>
      obtain rfl := Except.error.inj read
      refine decide_eq_true fun same : problem = .nullCharacter => found ?_
      rw [failed, same]

namespace Check

variable {preferred : Option String} {workspace : Workspace} {lineLength : Option Int}
variable {config : Config} {rules active : List Rule} {arguments paths : List Path} {argument path : Path}

/-- A configuration that loads gives rules against long lines, one at most. -/
theorem exists_rules_of_load (preferred : Option String) (lineLength : Option Int)
    (loads : (Config.load workspace none).result = .ok config) :
    ∃ active, (Check.rules (Strings.shippedFor preferred) workspace lineLength).result = .ok active ∧
      AreLongLines active := by
  cases lineLength with
  | some length => exact ⟨_, result_rules loads length, areLongLines_ite _ _⟩
  | none =>
    refine ⟨_, ?_, areLongLines_ite (config.allows LongLines.shippedKey)
      (LongLines.configuredBy ((config.options.find? LongLines.shippedKey).getD []))⟩
    rw [← Config.result_rulesAt preferred loads]
    simp only [Check.rules, withLineLength, Config.rulesAt, Traced.result_bind, loads, Except.bind,
      Traced.result_pure]

section Files

/-- The findings in the file that a path leads to, none if it cannot be read. -/
def recordsAt (strings : Strings) (workspace : Workspace) (rules : List Rule) (path : Path) : List Record :=
  match Script.load workspace path with
  | .ok script => findingsIn strings rules script
  | .error _ => []

/-- Why the file that a path leads to cannot be read. -/
def loadFailure? (workspace : Workspace) (path : Path) : Option Failure :=
  match Script.load workspace path with
  | .ok _ => none
  | .error cause => some cause

def shownFor (strings : Strings) (workspace : Workspace) (rules : List Rule) (path : Path) : List Event :=
  (recordsAt strings workspace rules path).map (.reported path) ++
    (loadFailure? workspace path).toList.map .unreadable

/-- Files are shown one after the other, each by itself. -/
theorem shown_files (longLines : AreLongLines rules) (clean : ∀ path ∈ paths, path.hasNull = false) :
    (files (Strings.shippedFor preferred) workspace rules paths).crash = none ∧
      (files (Strings.shippedFor preferred) workspace rules paths).shown =
        paths.flatMap (shownFor (Strings.shippedFor preferred) workspace rules) := by
  induction paths with
  | nil => exact ⟨rfl, rfl⟩
  | cons path rest ih =>
    obtain ⟨own, others⟩ := List.forall_mem_cons.mp clean
    obtain ⟨uncrashed, shown⟩ := ih others
    have step (log : List LogEntry) (events : List Event) (visible : events.filter Event.isShown = events) :
        ((files (Strings.shippedFor preferred) workspace rules rest).after (log.map .logged ++ events)).shown =
          events ++ rest.flatMap (shownFor (Strings.shippedFor preferred) workspace rules) := by
      have apart : (files (Strings.shippedFor preferred) workspace rules rest).after (log.map .logged ++ events) =
          ((files (Strings.shippedFor preferred) workspace rules rest).after events).after (log.map .logged) := by
        simp only [Transcript.after, List.append_assoc]
      rw [apart, Transcript.shown_after_logged, ← shown]
      simp only [Transcript.shown, Transcript.after, List.filter_append, visible]
    rw [List.flatMap_cons]
    unfold files shownFor recordsAt loadFailure?
    simp only [analyzePath, Traced.result_bind, Traced.ofResult]
    cases loaded : Script.load workspace path with
    | ok script =>
      simp only [Except.bind, result_analyze_of_longLines preferred longLines]
      refine ⟨uncrashed, ?_⟩
      rw [Option.toList_none, List.map_nil, List.append_nil]
      refine step _ _ ?_
      rw [List.filter_map]
      exact congrArg _ (List.filter_eq_self.mpr fun _ _ => rfl)
    | error cause =>
      simp only [Except.bind, Script.isUnreadable_of_load own loaded, ↓reduceIte]
      exact ⟨uncrashed, step _ _ rfl⟩

end Files

section Run

/-- A run whose arguments open shows the files that they stand for. -/
theorem shown_run_of_opens (proper : workspace.tree.IsProper)
    (applied : (Check.rules (Strings.shippedFor preferred) workspace lineLength).result = .ok active)
    (longLines : AreLongLines active) (opens : ∀ argument ∈ arguments, Opens workspace argument) :
    (run (Strings.shippedFor preferred) workspace lineLength arguments).crash = none ∧
      (run (Strings.shippedFor preferred) workspace lineLength arguments).shown =
        (distinctFrom workspace [] (arguments.flatMap (expansion workspace))).flatMap
          (shownFor (Strings.shippedFor preferred) workspace active) := by
  have clean : arguments.find? Path.hasNull = none := by
    refine List.find?_eq_none.mpr fun argument member => ?_
    rw [(opens argument member).1]
    exact Bool.false_ne_true
  have pathsClean : ∀ path ∈ distinctFrom workspace [] (arguments.flatMap (expansion workspace)),
      path.hasNull = false := by
    intro path member
    obtain ⟨argument, given, inside⟩ := List.mem_flatMap.mp (mem_of_mem_distinctFrom member)
    have opened := opens argument given
    exact (followable_of_mem_expand proper opened.1 (expand_eq_expansion opened) inside).1
  obtain ⟨uncrashed, shown⟩ := @shown_files preferred workspace active _ longLines pathsClean
  unfold run
  simp only [clean, Transcript.follow, applied, targets, expandAll_of_opens opens, Except.map]
  refine ⟨uncrashed, ?_⟩
  rw [Transcript.shown_after_logged, shown]

/-- A run with an argument that does not open breaks off before it shows anything. -/
theorem shown_run_of_blocked
    (applied : (Check.rules (Strings.shippedFor preferred) workspace lineLength).result = .ok active)
    (given : argument ∈ arguments) (blocked : ¬ Opens workspace argument) :
    (run (Strings.shippedFor preferred) workspace lineLength arguments).crash.isSome = true ∧
      (run (Strings.shippedFor preferred) workspace lineLength arguments).shown = [] := by
  unfold run
  split
  next => exact ⟨rfl, rfl⟩
  next clean =>
    have own : argument.hasNull = false := Bool.eq_false_iff.mpr (List.find?_eq_none.mp clean argument given)
    have unexpanded : ∃ fault, expandAll workspace arguments = .error fault := by
      cases all : expandAll workspace arguments with
      | error fault => exact ⟨fault, rfl⟩
      | ok paths => exact absurd ⟨own, (expandAll_eq_ok_iff.mp all).1 argument given⟩ blocked
    obtain ⟨fault, fails⟩ := unexpanded
    simp only [Transcript.follow, applied, targets, fails, Except.map]
    refine ⟨rfl, ?_⟩
    rw [Transcript.shown_after_logged]
    rfl

theorem crash_run_eq_none_iff (proper : workspace.tree.IsProper)
    (applied : (Check.rules (Strings.shippedFor preferred) workspace lineLength).result = .ok active)
    (longLines : AreLongLines active) :
    (run (Strings.shippedFor preferred) workspace lineLength arguments).crash = none ↔
      ∀ argument ∈ arguments, Opens workspace argument := by
  refine ⟨fun uncrashed argument given => ?_, fun opens => (shown_run_of_opens proper applied longLines opens).1⟩
  by_contra blocked
  have crashed := (shown_run_of_blocked applied given blocked).1
  rw [uncrashed] at crashed
  contradiction

end Run

section Location

/-- What is found in the file at a location. -/
def remarksAt (strings : Strings) (workspace : Workspace) (rules : List Rule) (location : Location) :
    List Remark :=
  match workspace.fileAt? location with
  | none => []
  | some bytes =>
    match Text.Utf8.decode (Text.Utf8.withoutMark bytes) with
    | .ok text => (findingsIn strings rules ⟨text, none⟩).map Record.remark
    | .error _ => []

/-- What is found on a path without `..` is what is found in the file that it names. -/
theorem map_remark_recordsAt (preferred : Option String) (longLines : AreLongLines rules)
    (proper : workspace.IsProper) (plain : path.IsPlain) (clean : path.hasNull = false)
    (short : path.isTooLong = false) :
    (recordsAt (Strings.shippedFor preferred) workspace rules path).map Record.remark =
      remarksAt (Strings.shippedFor preferred) workspace rules (workspace.resolve path) := by
  unfold recordsAt remarksAt Script.load
  rw [← Workspace.read_of_plain proper plain clean short]
  cases workspace.read path with
  | error fault => rfl
  | ok bytes =>
    simp only [Script.ofBytes, Except.toOption]
    cases Text.Utf8.decode (Text.Utf8.withoutMark bytes) with
    | error fault => rfl
    | ok text => exact map_remark_findingsIn longLines rfl

theorem remarksAt_of_sameFiles {other : Workspace} (same : other.SameFiles workspace)
    (proper : workspace.tree.IsProper) (strings : Strings) (rules : List Rule) (location : Location) :
    remarksAt strings other rules location = remarksAt strings workspace rules location := by
  simp only [remarksAt, Workspace.fileAt?_of_sameFiles same proper]

end Location

end Check

end ScriptLint
