import ScriptLint.Proofs.Check.Findings
import ScriptLint.Proofs.Check.Spellings

/-! # Reports

A run whose arguments open reports on each file that they stand for, once and under its first spelling:
one line for each finding in it, or one complaint if it cannot be read. What is found where does not
depend on the order or the number of the arguments, nor on the order of enumeration, as long as no
argument has the name `..`. An argument that is too long, or that has something below it that is too
long to be looked at, keeps the run from any report.
-/

namespace ScriptLint

/-- What an event says about a file. -/
def Event.located? (workspace : Workspace) : Event → Option (Location × Remark)
  | .reported path record => some (workspace.resolve path, record.remark)
  | _ => none

def Transcript.located (workspace : Workspace) (transcript : Transcript) : List (Location × Remark) :=
  transcript.events.filterMap (Event.located? workspace)

namespace Transcript

theorem located_eq_shown (workspace : Workspace) (transcript : Transcript) :
    transcript.located workspace = transcript.shown.filterMap (Event.located? workspace) :=
  (filterMap_shown (fun _ => rfl) transcript).symm

/-- The exit code tells whether something was found. -/
theorem exitCode_eq_located (workspace : Workspace) (transcript : Transcript) :
    transcript.exitCode =
      if transcript.crash.isSome || !(transcript.located workspace).isEmpty then 1 else 0 := by
  have found : transcript.events.any Event.isFinding = !(transcript.located workspace).isEmpty := by
    unfold located
    induction transcript.events with
    | nil => rfl
    | cons event rest ih =>
      cases event with
      | reported path record => rfl
      | logged entry => exact ih
      | printed line => exact ih
      | unreadable cause => exact ih
  rw [exitCode, found]

end Transcript

namespace Check

/-- What an argument stands for. -/
inductive StandsFor (workspace : Workspace) (argument : Path) : List Path → Prop
  /-- An argument that does not lead to a directory stands for itself. -/
  | itself (unled : workspace.directory? argument = .ok none) : StandsFor workspace argument [argument]
  /-- A directory stands for its scripts in strictly increasing order. -/
  | scripts {directory : Location} {paths : List Path}
      (leads : workspace.directory? argument = .ok (some directory))
      (increasing : paths.Pairwise fun path later => path.parts < later.parts)
      (members : ∀ path, path ∈ paths ↔ ∃ names, path = argument.below names ∧
        (∃ bytes, workspace.tree.content? (directory ++ names) = some (.file bytes)) ∧
        isCollected path = true) :
      StandsFor workspace argument paths

/-- The lines for the findings in the file that a path leads to. -/
def linesFor (print : String → String) (strings : Strings) (workspace : Workspace) (rules : List Rule)
    (path : Path) : List String :=
  (recordsAt strings workspace rules path).map fun record => print (record.lineIn path)

/-- A report on files. -/
structure Reports (strings : Strings) (workspace : Workspace) (rules : List Rule) (paths : List Path)
    (transcript : Transcript) : Prop where
  /-- The command is not broken off. -/
  complete : transcript.crash = none
  /-- There is one line for each finding in each file. -/
  output : ∀ print, transcript.output print = textOfLines (paths.flatMap (linesFor print strings workspace rules))
  /-- The findings in a file that can be read are those of its analysis. -/
  analyzed : ∀ path ∈ paths, ∀ script, Script.load workspace path = .ok script →
    (analyze strings rules script).result = .ok (recordsAt strings workspace rules path)
  /-- The findings in a file come by line and column. -/
  ordered : ∀ path ∈ paths, (recordsAt strings workspace rules path).Pairwise fun record later =>
    record.line < later.line ∨ record.line = later.line ∧ record.column ≤ later.column
  /-- A file that cannot be read has no line. -/
  unread : ∀ path ∈ paths, ∀ cause, Script.load workspace path = .error cause →
    recordsAt strings workspace rules path = []
  /-- Beside log entries, the error output has one line for each file that cannot be read. -/
  errors : ∀ print verbose, transcript.shown.filterMap (Event.errorLine? print verbose) =
    (paths.filterMap (loadFailure? workspace)).map fun cause => print ("error: " ++ cause.message)
  /-- The exit code tells whether there is a line. -/
  exitCode : transcript.exitCode = if ∃ path ∈ paths, recordsAt strings workspace rules path ≠ [] then 1 else 0

variable {preferred : Option String} {strings : Strings} {workspace : Workspace} {lineLength : Option Int}
variable {config : Config} {active : List Rule} {arguments paths : List Path} {argument path : Path}
variable {transcript : Transcript}

theorem standsFor_expansion (proper : workspace.tree.IsProper) (opens : Opens workspace argument) :
    StandsFor workspace argument (expansion workspace argument) := by
  rcases expand_cases proper (expand_eq_expansion opens) with ⟨unled, same⟩ | ⟨directory, leads, same, -⟩
  · rw [same]
    exact .itself unled
  · rw [same]
    exact .scripts leads (scriptsBelow_pairwise proper argument directory) fun path => mem_scriptsBelow_iff proper

section Shown

/-- What findings alone have a part in is read off the findings in each file. -/
theorem filterMap_shownFor {α : Type} (read : Event → Option α) (line : Path → Record → α)
    (findings : ∀ path record, read (.reported path record) = some (line path record))
    (silent : ∀ cause, read (.unreadable cause) = none) (paths : List Path) :
    (paths.flatMap (shownFor strings workspace active)).filterMap read =
      paths.flatMap fun path => (recordsAt strings workspace active path).map (line path) := by
  rw [List.filterMap_flatMap]
  refine List.flatMap_congr fun path _ => ?_
  have complaints : ((loadFailure? workspace path).toList.map Event.unreadable).filterMap read = [] := by
    rw [List.filterMap_map]
    exact List.filterMap_eq_nil_iff.mpr fun cause _ => silent cause
  rw [shownFor, List.filterMap_append, complaints, List.append_nil, List.filterMap_map]
  exact (List.filterMap_congr fun record _ => findings path record).trans (List.filterMap_eq_map ▸ rfl)

theorem filterMap_errorLine?_shownFor (print : String → String) (verbose : Bool) (paths : List Path) :
    (paths.flatMap (shownFor strings workspace active)).filterMap (Event.errorLine? print verbose) =
      (paths.filterMap (loadFailure? workspace)).map fun cause => print ("error: " ++ cause.message) := by
  induction paths with
  | nil => rfl
  | cons path rest ih =>
    have findings : ((recordsAt strings workspace active path).map (Event.reported path)).filterMap
        (Event.errorLine? print verbose) = [] := by
      rw [List.filterMap_map]
      exact List.filterMap_eq_nil_iff.mpr fun _ _ => rfl
    rw [List.flatMap_cons, List.filterMap_append, ih, shownFor, List.filterMap_append, findings, List.nil_append,
      List.filterMap_cons]
    cases loadFailure? workspace path <;> rfl

theorem located_of_shown (shown : transcript.shown = paths.flatMap (shownFor strings workspace active)) :
    transcript.located workspace = paths.flatMap fun path =>
      (recordsAt strings workspace active path).map fun record => (workspace.resolve path, record.remark) := by
  rw [Transcript.located_eq_shown, shown]
  exact filterMap_shownFor (Event.located? workspace) (fun path record => (workspace.resolve path, record.remark))
    (fun _ _ => rfl) (fun _ => rfl) paths

theorem reports_of_shown (longLines : AreLongLines active) (complete : transcript.crash = none)
    (shown : transcript.shown = paths.flatMap (shownFor (Strings.shippedFor preferred) workspace active)) :
    Reports (Strings.shippedFor preferred) workspace active paths transcript where
  complete := complete
  output print := by
    rw [Transcript.output_eq_shown, shown]
    exact congrArg textOfLines (filterMap_shownFor (Event.outputLine? print)
      (fun path record => print (record.lineIn path)) (fun _ _ => rfl) (fun _ => rfl) paths)
  analyzed path _ script loaded := by
    rw [recordsAt, loaded]
    exact result_analyze_of_longLines preferred longLines script
  ordered path _ := by
    unfold recordsAt
    split
    · exact findingsIn_pairwise ..
    · exact .nil
  unread path _ cause failed := by rw [recordsAt, failed]
  errors print verbose := by rw [shown, filterMap_errorLine?_shownFor]
  exitCode := by
    rw [Transcript.exitCode_eq_located workspace, complete, located_of_shown shown]
    simp only [Option.isSome_none, Bool.false_or, Bool.not_eq_true', List.isEmpty_eq_false_iff, ne_eq,
      List.flatMap_eq_nil_iff, List.map_eq_nil_iff, not_forall, exists_prop]

/-- A run whose arguments open reports on the first spellings of the files that they stand for. -/
theorem reports_run (proper : workspace.tree.IsProper)
    (applied : (Check.rules (Strings.shippedFor preferred) workspace lineLength).result = .ok active)
    (longLines : AreLongLines active) (opens : ∀ argument ∈ arguments, Opens workspace argument) :
    Reports (Strings.shippedFor preferred) workspace active
      (distinctFrom workspace [] (arguments.flatMap (expansion workspace)))
      (run (Strings.shippedFor preferred) workspace lineLength arguments) :=
  have ⟨complete, shown⟩ := shown_run_of_opens proper applied longLines opens
  reports_of_shown longLines complete shown

end Shown

section Permutation
variable {other : Workspace} {others : List Path}

theorem FirstSpellings.mem_map_resolve_iff {expanded : List Path} (spellings : FirstSpellings workspace expanded paths)
    {location : Location} :
    location ∈ paths.map workspace.resolve ↔ location ∈ expanded.map workspace.resolve := by
  simp only [List.mem_map]
  constructor
  · rintro ⟨path, member, same⟩
    exact ⟨path, spellings.sublist.subset member, same⟩
  · rintro ⟨path, member, rfl⟩
    exact spellings.complete path member

/-- What arguments without `..` lead to is found by file. -/
theorem located_run_of_plain (proper : workspace.IsProper)
    (applied : (Check.rules (Strings.shippedFor preferred) workspace lineLength).result = .ok active)
    (longLines : AreLongLines active) (opens : ∀ argument ∈ arguments, Opens workspace argument)
    (plain : ∀ argument ∈ arguments, argument.IsPlain) :
    (run (Strings.shippedFor preferred) workspace lineLength arguments).located workspace =
      ((distinctFrom workspace [] (arguments.flatMap (expansion workspace))).map workspace.resolve).flatMap
        fun location => (remarksAt (Strings.shippedFor preferred) workspace active location).map (location, ·) := by
  rw [located_of_shown (shown_run_of_opens proper.tree applied longLines opens).2, List.flatMap_map]
  refine List.flatMap_congr fun path member => ?_
  obtain ⟨argument, given, inside⟩ := List.mem_flatMap.mp (mem_of_mem_distinctFrom member)
  have opened := opens argument given
  obtain ⟨clean, short, keeps⟩ := followable_of_mem_expand proper.tree opened.1 (expand_eq_expansion opened) inside
  rw [← map_remark_recordsAt preferred longLines proper (keeps (plain argument given)) clean short, List.map_map]
  rfl

/-- What is found where depends neither on the order of enumeration nor on the order and the number of
the arguments. -/
theorem run_perm (proper : workspace.IsProper)
    (applied : (Check.rules (Strings.shippedFor preferred) workspace lineLength).result = .ok active)
    (longLines : AreLongLines active) (plain : ∀ argument ∈ arguments, argument.IsPlain)
    (same : other.SameFiles workspace) (members : ∀ argument, argument ∈ others ↔ argument ∈ arguments) :
    ((run (Strings.shippedFor preferred) other lineLength others).located other).Perm
        ((run (Strings.shippedFor preferred) workspace lineLength arguments).located workspace) ∧
      (run (Strings.shippedFor preferred) other lineLength others).crash.isSome =
        (run (Strings.shippedFor preferred) workspace lineLength arguments).crash.isSome := by
  have otherApplied : (Check.rules (Strings.shippedFor preferred) other lineLength).result = .ok active := by
    rw [Check.rules, Workspace.load_of_sameFiles same proper.tree]
    exact applied
  have otherOpens (argument : Path) : Opens other argument ↔ Opens workspace argument :=
    opens_of_sameFiles same proper.tree
  by_cases opens : ∀ argument ∈ arguments, Opens workspace argument
  · have alsoOpens : ∀ argument ∈ others, Opens other argument := fun argument member =>
      (otherOpens argument).mpr (opens argument ((members argument).mp member))
    have alsoPlain : ∀ argument ∈ others, argument.IsPlain := fun argument member =>
      plain argument ((members argument).mp member)
    have resolve : other.resolve = workspace.resolve := funext same.resolve
    refine ⟨?_, ?_⟩
    · rw [located_run_of_plain proper applied longLines opens plain,
        located_run_of_plain (same.isProper proper) otherApplied longLines alsoOpens alsoPlain, resolve]
      simp only [remarksAt_of_sameFiles same proper.tree]
      refine List.Perm.flatMap_right _ ?_
      -- Both runs look at the same files, each of them once.
      have first := firstSpellings_distinctFrom workspace (arguments.flatMap (expansion workspace))
      have second := firstSpellings_distinctFrom other (others.flatMap (expansion other))
      have expanded (path : Path) :
          path ∈ others.flatMap (expansion other) ↔ path ∈ arguments.flatMap (expansion workspace) := by
        simp only [List.mem_flatMap, members]
        refine exists_congr fun argument => and_congr_right fun given => ?_
        exact mem_expansion_of_sameFiles same proper.tree (opens argument given)
      refine (List.perm_ext_iff_of_nodup ?_ ?_).mpr fun location => ?_
      · exact resolve ▸ List.pairwise_map.mpr second.distinct
      · exact List.pairwise_map.mpr first.distinct
      · rw [first.mem_map_resolve_iff, ← resolve, second.mem_map_resolve_iff]
        simp only [List.mem_map, expanded]
    · rw [(shown_run_of_opens proper.tree applied longLines opens).1,
        (shown_run_of_opens (same.isProper proper).tree otherApplied longLines alsoOpens).1]
  · obtain ⟨argument, given, blocked⟩ : ∃ argument, argument ∈ arguments ∧ ¬ Opens workspace argument := by
      simpa only [not_forall, exists_prop] using opens
    obtain ⟨crashed, nothing⟩ := shown_run_of_blocked applied given blocked
    obtain ⟨alsoCrashed, alsoNothing⟩ := shown_run_of_blocked otherApplied
      ((members argument).mpr given) fun opened => blocked ((otherOpens argument).mp opened)
    refine ⟨?_, by rw [crashed, alsoCrashed]⟩
    rw [Transcript.located_eq_shown, Transcript.located_eq_shown, nothing, alsoNothing]
    exact .refl _

end Permutation

/-- What a run reports. It goes through exactly if all its arguments open, and an argument does not open
only because something is too long, or because of a null character. Then it reports on each file that
its arguments stand for, once and under its first spelling. What it finds where, and its exit code, do
not depend on the order and the number of arguments without `..`, nor on the order of enumeration. -/
theorem run_reports (preferred : Option String) (lineLength : Option Int) (proper : workspace.IsProper)
    (loads : (Config.load workspace none).result = .ok config) :
    ∃ active, (Check.rules (Strings.shippedFor preferred) workspace lineLength).result = .ok active ∧
      ∀ arguments : List Path,
        ((run (Strings.shippedFor preferred) workspace lineLength arguments).crash = none ↔
          ∀ argument ∈ arguments, Opens workspace argument) ∧
        (∀ argument, argument.hasNull = false → ¬ Opens workspace argument →
          ∃ fault, expand workspace argument = .error fault ∧ fault.problem = .tooLong) ∧
        ((∀ argument ∈ arguments, Opens workspace argument) →
          (∀ argument ∈ arguments, StandsFor workspace argument (expansion workspace argument)) ∧
          ∃ paths, FirstSpellings workspace (arguments.flatMap (expansion workspace)) paths ∧
            Reports (Strings.shippedFor preferred) workspace active paths
              (run (Strings.shippedFor preferred) workspace lineLength arguments)) ∧
        ((∀ argument ∈ arguments, argument.IsPlain) → ∀ (other : Workspace) (others : List Path),
          other.SameFiles workspace → (∀ argument, argument ∈ others ↔ argument ∈ arguments) →
          (run (Strings.shippedFor preferred) other lineLength others).exitCode =
            (run (Strings.shippedFor preferred) workspace lineLength arguments).exitCode ∧
          ((run (Strings.shippedFor preferred) other lineLength others).located other).Perm
            ((run (Strings.shippedFor preferred) workspace lineLength arguments).located workspace)) := by
  obtain ⟨active, applied, longLines⟩ := exists_rules_of_load preferred lineLength loads
  refine ⟨active, applied, fun arguments => ⟨?_, ?_, ?_, ?_⟩⟩
  · exact crash_run_eq_none_iff proper.tree applied longLines
  · intro argument clean blocked
    cases expanded : expand workspace argument with
    | ok paths => exact absurd ⟨clean, paths, expanded⟩ blocked
    | error fault => exact ⟨fault, rfl, problem_of_expand expanded⟩
  · intro opens
    exact ⟨fun argument given => standsFor_expansion proper.tree (opens argument given), _,
      firstSpellings_distinctFrom .., reports_run proper.tree applied longLines opens⟩
  · intro plain other others same members
    obtain ⟨perm, crash⟩ := run_perm proper applied longLines plain same members
    refine ⟨?_, perm⟩
    rw [Transcript.exitCode_eq_located other, Transcript.exitCode_eq_located workspace, crash,
      perm.isEmpty_eq]

section Samples

/-- A script in a directory, next to a file that is no text. -/
def mixedFiles : Workspace where
  tree := ⟨[(["scripts", "b.ps1"], .file [97, 98]), (["a.ps1"], .file [255])]⟩
  directory := []

/-- The directory, its script in another spelling, and the file next to it. -/
def mixedArguments : List Path := [⟨"", ["scripts"]⟩, ⟨"/", ["scripts", "b.ps1"]⟩, ⟨"", ["a.ps1"]⟩]

theorem run_reports_mixedFiles :
    mixedFiles.IsProper ∧ (Config.load mixedFiles none).result = .ok {} ∧
      ∃ active paths, (Check.rules (Strings.shippedFor none) mixedFiles (some 1)).result = .ok active ∧
        FirstSpellings mixedFiles (mixedArguments.flatMap (expansion mixedFiles)) paths ∧
        Reports (Strings.shippedFor none) mixedFiles active paths
          (run (Strings.shippedFor none) mixedFiles (some 1) mixedArguments) := by
  have proper : mixedFiles.IsProper := by decide
  have loads : (Config.load mixedFiles none).result = .ok {} := by decide +kernel
  have first : Opens mixedFiles ⟨"", ["scripts"]⟩ := ⟨by decide, [⟨"", ["scripts", "b.ps1"]⟩], by decide +kernel⟩
  have second : Opens mixedFiles ⟨"/", ["scripts", "b.ps1"]⟩ := ⟨by decide, [_], by rfl⟩
  have third : Opens mixedFiles ⟨"", ["a.ps1"]⟩ := ⟨by decide, [_], by rfl⟩
  have opens : ∀ argument ∈ mixedArguments, Opens mixedFiles argument := by
    simp only [mixedArguments, List.forall_mem_cons, first, second, third, List.not_mem_nil, false_implies,
      implies_true, and_self]
  obtain ⟨active, applied, reports⟩ := run_reports none (some 1) proper loads
  obtain ⟨paths, spellings, report⟩ := ((reports mixedArguments).2.2.1 opens).2
  exact ⟨proper, loads, active, paths, applied, spellings, report⟩

def longName : Path := ⟨"", [String.ofList (List.replicate 256 'n')]⟩

/-- A name that is too long keeps the findings in other files from being shown. -/
theorem run_breaks_off_at_longName :
    (run (Strings.shippedFor none) mixedFiles (some 1) [longName, ⟨"", ["scripts"]⟩]).crash.isSome = true ∧
      (run (Strings.shippedFor none) mixedFiles (some 1) [longName, ⟨"", ["scripts"]⟩]).output id = "" ∧
      (run (Strings.shippedFor none) mixedFiles (some 1) [⟨"", ["scripts"]⟩]).output id ≠ "" := by
  decide +kernel

end Samples

end Check

end ScriptLint
