import ScriptLint.Proofs.Check.Reports

/-! # Files that cannot be read

An argument whose file cannot be read adds one complaint to a run and leaves the answer as it is, unless
it is too long to be looked at, or takes the place of another spelling of the same file. The latter
happens only with the name `..`, where a spelling may pass through something that is not there.
-/

namespace ScriptLint

/-- What cannot be read for another reason than a null character has none in its path. -/
theorem Script.hasNull_of_isUnreadable {workspace : Workspace} {path : Path} {cause : Failure}
    (unread : Script.load workspace path = .error cause) (unreadable : cause.isUnreadable = true) :
    path.hasNull = false := by
  refine Bool.eq_false_iff.mpr fun null => ?_
  have refused : workspace.find path = .error .nullCharacter := by
    rw [Workspace.find, if_pos null]
  have fails : Script.load workspace path = .error (.inaccessible ⟨.nullCharacter, path.toString⟩) := by
    simp only [Script.load, Workspace.read, refused]
  obtain rfl := Except.error.inj (fails.symm.trans unread)
  exact of_decide_eq_true (show decide (AccessProblem.nullCharacter ≠ .nullCharacter) = true from unreadable) rfl

namespace Check

variable {preferred : Option String} {strings : Strings} {workspace : Workspace} {lineLength : Option Int}
variable {config : Config} {active : List Rule} {paths others front back : List Path} {path : Path}
variable {cause : Failure} {transcript other : Transcript} {print : String → String}

/-- Whether an argument that stands for itself takes the place of a path with findings: nothing in front
of it names its file, and the first of the paths behind it that does has findings. -/
def Displaces (strings : Strings) (workspace : Workspace) (rules : List Rule) (path : Path)
    (front back : List Path) : Prop :=
  (∀ earlier ∈ front.flatMap (expansion workspace), workspace.resolve earlier ≠ workspace.resolve path) ∧
    ∃ skipped displaced rest, back.flatMap (expansion workspace) = skipped ++ displaced :: rest ∧
      (∀ between ∈ skipped, workspace.resolve between ≠ workspace.resolve path) ∧
      workspace.resolve displaced = workspace.resolve path ∧
      recordsAt strings workspace rules displaced ≠ []

section Answers

theorem linesFor_eq_nil_iff : linesFor print strings workspace active path = [] ↔
    recordsAt strings workspace active path = [] := by
  rw [linesFor, List.map_eq_nil_iff]

/-- The exit code of a report tells whether there is any output. -/
theorem Reports.exitCode_eq (print : String → String) (report : Reports strings workspace active paths transcript) :
    transcript.exitCode = if transcript.output print = "" then 0 else 1 := by
  rw [report.exitCode, report.output]
  simp only [textOfLines_eq_empty_iff, List.flatMap_eq_nil_iff, linesFor_eq_nil_iff]
  by_cases found : ∃ path ∈ paths, recordsAt strings workspace active path ≠ []
  · have some : ¬ ∀ path ∈ paths, recordsAt strings workspace active path = [] := by
      simpa only [not_forall, exists_prop] using found
    rw [if_pos found, if_neg some]
  · have none : ∀ path ∈ paths, recordsAt strings workspace active path = [] := by
      simpa only [ne_eq, not_exists, not_and, not_not] using found
    rw [if_neg found, if_pos none]

/-- Reports give the same answer if they have the same lines. -/
theorem Reports.sameAnswer_iff (report : Reports strings workspace active paths transcript)
    (otherReport : Reports strings workspace active others other) :
    transcript.SameAnswer print other ↔
      textOfLines (paths.flatMap (linesFor print strings workspace active)) =
        textOfLines (others.flatMap (linesFor print strings workspace active)) := by
  rw [← report.output, ← otherReport.output]
  refine ⟨And.left, fun same => ⟨same, ?_⟩⟩
  rw [report.exitCode_eq print, otherReport.exitCode_eq print, same]

/-- Leaving out paths keeps the lines exactly if those that are left out have none. -/
theorem textOfLines_filter_eq_iff {lines : Path → List String} {keep : Path → Bool} :
    textOfLines ((paths.filter keep).flatMap lines) = textOfLines (paths.flatMap lines) ↔
      ∀ path ∈ paths, keep path = false → lines path = [] := by
  constructor
  · intro same path member dropped
    -- What is left out and what is kept have together as many characters as all lines.
    have parts : (textOfLines ((paths.filter keep).flatMap lines)).length +
        (textOfLines ((paths.filter fun path => !keep path).flatMap lines)).length =
          (textOfLines (paths.flatMap lines)).length := by
      rw [← String.length_append, ← textOfLines_append, ← List.flatMap_append, length_textOfLines,
        length_textOfLines]
      exact (((List.filter_append_perm keep paths).flatMap_right lines).map _).sum_nat
    rw [same, Nat.add_eq_left, String.length_eq_zero_iff, textOfLines_eq_empty_iff,
      List.flatMap_eq_nil_iff] at parts
    exact parts path (List.mem_filter.mpr ⟨member, by rw [dropped]; rfl⟩)
  · intro silent
    congr 1
    induction paths with
    | nil => rfl
    | cons path rest ih =>
      obtain ⟨own, others⟩ := List.forall_mem_cons.mp silent
      rw [List.flatMap_cons, ← ih others]
      cases kept : keep path with
      | true => rw [List.filter_cons_of_pos kept, List.flatMap_cons]
      | false => rw [List.filter_cons_of_neg (Bool.eq_false_iff.mp kept), own kept, List.nil_append]

end Answers

section Runs

/-- A run with an argument that does not open answers with nothing but its exit code. -/
theorem answer_of_blocked {arguments : List Path} {argument : Path}
    (applied : (Check.rules (Strings.shippedFor preferred) workspace lineLength).result = .ok active)
    (given : argument ∈ arguments) (blocked : ¬ Opens workspace argument) :
    (run (Strings.shippedFor preferred) workspace lineLength arguments).output print = "" ∧
      (run (Strings.shippedFor preferred) workspace lineLength arguments).exitCode = 1 := by
  obtain ⟨crashed, nothing⟩ := shown_run_of_blocked applied given blocked
  rw [Transcript.output_eq_shown, Transcript.exitCode_eq_shown, nothing, crashed]
  exact ⟨rfl, rfl⟩

end Runs

/-- A path without findings that is put in front of others keeps the lines unless it displaces one. -/
theorem textOfLines_insert_iff (silent : recordsAt strings workspace active path = []) :
    textOfLines ((distinctFrom workspace []
        (front.flatMap (expansion workspace) ++ path :: back.flatMap (expansion workspace))).flatMap
          (linesFor print strings workspace active)) =
        textOfLines ((distinctFrom workspace []
          (front.flatMap (expansion workspace) ++ back.flatMap (expansion workspace))).flatMap
            (linesFor print strings workspace active)) ↔
      ¬ Displaces strings workspace active path front back := by
  by_cases new : ∀ earlier ∈ front.flatMap (expansion workspace),
      workspace.resolve earlier ≠ workspace.resolve path
  · have unseen : workspace.resolve path ∉ (front.flatMap (expansion workspace)).map workspace.resolve := by
      intro member
      obtain ⟨earlier, inside, same⟩ := List.mem_map.mp member
      exact new earlier inside same
    have own : linesFor print strings workspace active path = [] := linesFor_eq_nil_iff.mpr silent
    rw [distinctFrom_insert_of_new _ new, distinctFrom_append, List.append_nil, List.flatMap_append,
      List.flatMap_append, List.flatMap_cons, own, List.nil_append, textOfLines_append, textOfLines_append,
      String.append_right_inj, textOfLines_filter_eq_iff]
    simp only [linesFor_eq_nil_iff, decide_eq_false_iff_not, not_not]
    constructor
    · rintro kept ⟨-, skipped, displaced, rest, split, first, same, found⟩
      refine found (kept displaced (mem_distinctFrom_iff.mpr ⟨same ▸ unseen, skipped, rest, split, ?_⟩) same)
      exact fun between inside => same ▸ first between inside
    · intro kept displaced member same
      obtain ⟨-, skipped, rest, split, first⟩ := mem_distinctFrom_iff.mp member
      by_contra found
      exact kept ⟨new, skipped, displaced, rest, split, fun between inside => same ▸ first between inside, same, found⟩
  · have known : ∃ earlier ∈ front.flatMap (expansion workspace),
        workspace.resolve earlier = workspace.resolve path := by
      simpa only [ne_eq, not_forall, not_not, exists_prop] using new
    obtain ⟨earlier, inside, same⟩ := known
    rw [distinctFrom_insert_of_known _ inside same]
    exact iff_of_true rfl fun displaces => new displaces.1

/-- An argument without findings of its own, among arguments that open, leaves the answer as it is if it
opens itself and displaces nothing. -/
theorem sameAnswer_insert_iff (proper : workspace.tree.IsProper)
    (applied : (Check.rules (Strings.shippedFor preferred) workspace lineLength).result = .ok active)
    (longLines : AreLongLines active) (alone : Opens workspace path → expansion workspace path = [path])
    (silent : recordsAt (Strings.shippedFor preferred) workspace active path = [])
    (opens : ∀ argument ∈ front ++ back, Opens workspace argument) :
    Transcript.SameAnswer print
        (run (Strings.shippedFor preferred) workspace lineLength (front ++ path :: back))
        (run (Strings.shippedFor preferred) workspace lineLength (front ++ back)) ↔
      Opens workspace path ∧ ¬ Displaces (Strings.shippedFor preferred) workspace active path front back := by
  have others := reports_run proper applied longLines opens
  by_cases own : Opens workspace path
  · have all : ∀ argument ∈ front ++ path :: back, Opens workspace argument := by
      rw [List.forall_mem_append, List.forall_mem_cons]
      rw [List.forall_mem_append] at opens
      exact ⟨opens.1, own, opens.2⟩
    rw [(reports_run proper applied longLines all).sameAnswer_iff others, and_iff_right own,
      ← @textOfLines_insert_iff _ _ _ _ _ _ print silent]
    simp only [List.flatMap_append, List.flatMap_cons, alone own, List.cons_append, List.nil_append]
  · refine iff_of_false (fun same => ?_) fun ⟨opened, _⟩ => own opened
    -- Without output the exit code of a report is zero.
    obtain ⟨empty, broken⟩ := answer_of_blocked applied
      (List.mem_append_right front (List.mem_cons_self (a := path) (l := back))) own
    have exitCode := others.exitCode_eq print
    rw [← same.1, empty, if_pos rfl, ← same.2, broken] at exitCode
    contradiction

/-- A path without `..` has the same findings as any other path without it to the same file. -/
theorem not_displaces_of_plain (proper : workspace.IsProper) (longLines : AreLongLines active)
    (silent : recordsAt (Strings.shippedFor preferred) workspace active path = [])
    (opens : Opens workspace path) (plain : path.IsPlain) (backOpens : ∀ argument ∈ back, Opens workspace argument)
    (backPlain : ∀ argument ∈ back, argument.IsPlain) :
    ¬ Displaces (Strings.shippedFor preferred) workspace active path front back := by
  rintro ⟨-, skipped, displaced, rest, split, -, same, found⟩
  have member : displaced ∈ back.flatMap (expansion workspace) := by
    rw [split]
    exact List.mem_append_right _ (List.mem_cons_self ..)
  obtain ⟨argument, given, inside⟩ := List.mem_flatMap.mp member
  have opened := backOpens argument given
  obtain ⟨clean, short, keeps⟩ := followable_of_mem_expand proper.tree opened.1 (expand_eq_expansion opened) inside
  have own := map_remark_recordsAt preferred longLines proper plain opens.1 opens.isTooLong
  have others := map_remark_recordsAt preferred longLines proper (keeps (backPlain argument given)) clean short
  rw [same, ← own, silent, List.map_nil, List.map_eq_nil_iff] at others
  exact found others

/-- What an argument does to a run whose file cannot be read. It leaves the answer as it is exactly if
another argument keeps the run from any report anyway, or if it opens and does not displace a path with
findings. It opens unless something is too long, and without the name `..` nothing is displaced. -/
theorem run_unreadable_iff (print : String → String) (preferred : Option String) (lineLength : Option Int)
    (proper : workspace.IsProper) (loads : (Config.load workspace none).result = .ok config)
    (unled : ∀ directory, workspace.directory? path ≠ .ok (some directory))
    (unread : Script.load workspace path = .error cause) (unreadable : cause.isUnreadable = true) :
    ∃ active, (Check.rules (Strings.shippedFor preferred) workspace lineLength).result = .ok active ∧
      (¬ Opens workspace path → ∃ fault, expand workspace path = .error fault ∧ fault.problem = .tooLong) ∧
      ∀ front back : List Path,
        (Transcript.SameAnswer print
            (run (Strings.shippedFor preferred) workspace lineLength (front ++ path :: back))
            (run (Strings.shippedFor preferred) workspace lineLength (front ++ back)) ↔
          (∃ argument ∈ front ++ back, ¬ Opens workspace argument) ∨
            Opens workspace path ∧
              ¬ Displaces (Strings.shippedFor preferred) workspace active path front back) ∧
        (Opens workspace path → path.IsPlain → (∀ argument ∈ back, argument.IsPlain) →
          Transcript.SameAnswer print
            (run (Strings.shippedFor preferred) workspace lineLength (front ++ path :: back))
            (run (Strings.shippedFor preferred) workspace lineLength (front ++ back))) := by
  obtain ⟨active, applied, longLines⟩ := exists_rules_of_load preferred lineLength loads
  have clean := Script.hasNull_of_isUnreadable unread unreadable
  have silent : recordsAt (Strings.shippedFor preferred) workspace active path = [] := by
    rw [recordsAt, unread]
  have alone (opens : Opens workspace path) : expansion workspace path = [path] := by
    rcases expand_cases proper.tree (expand_eq_expansion opens) with ⟨-, same⟩ | ⟨directory, leads, -⟩
    · exact same
    · exact absurd leads (unled directory)
  refine ⟨active, applied, fun blocked => ?_, fun front back => ?_⟩
  · cases expanded : expand workspace path with
    | ok paths => exact absurd ⟨clean, paths, expanded⟩ blocked
    | error fault => exact ⟨fault, rfl, problem_of_expand expanded⟩
  · have answers : Transcript.SameAnswer print
            (run (Strings.shippedFor preferred) workspace lineLength (front ++ path :: back))
            (run (Strings.shippedFor preferred) workspace lineLength (front ++ back)) ↔
          (∃ argument ∈ front ++ back, ¬ Opens workspace argument) ∨
            Opens workspace path ∧
              ¬ Displaces (Strings.shippedFor preferred) workspace active path front back := by
      by_cases opens : ∀ argument ∈ front ++ back, Opens workspace argument
      · rw [sameAnswer_insert_iff proper.tree applied longLines alone silent opens, or_iff_right]
        simpa only [not_exists, not_and, not_not] using opens
      · have blocked : ∃ argument ∈ front ++ back, ¬ Opens workspace argument := by
          simpa only [not_forall, exists_prop] using opens
        obtain ⟨argument, given, closed⟩ := blocked
        have inserted : argument ∈ front ++ path :: back :=
          ((List.sublist_cons_self path back).append_left front).subset given
        obtain ⟨output, exitCode⟩ := answer_of_blocked applied given closed
        obtain ⟨alsoOutput, alsoExitCode⟩ := answer_of_blocked applied inserted closed
        exact iff_of_true ⟨alsoOutput.trans output.symm, alsoExitCode.trans exitCode.symm⟩
          (.inl ⟨argument, given, closed⟩)
    refine ⟨answers, fun opens plain backPlain => answers.mpr ?_⟩
    by_cases others : ∃ argument ∈ front ++ back, ¬ Opens workspace argument
    · exact .inl others
    · have backOpens : ∀ argument ∈ back, Opens workspace argument := fun argument member => by
        by_contra closed
        exact others ⟨argument, List.mem_append_right _ member, closed⟩
      exact .inr ⟨opens, not_displaces_of_plain proper longLines silent opens plain backOpens backPlain⟩

section Samples

def unreadablePath : Path := ⟨"", ["a.ps1"]⟩

theorem run_unreadable_iff_mixedFiles :
    mixedFiles.IsProper ∧ (Config.load mixedFiles none).result = .ok {} ∧
      (∀ directory, mixedFiles.directory? unreadablePath ≠ .ok (some directory)) ∧
      (∃ cause, Script.load mixedFiles unreadablePath = .error cause ∧ cause.isUnreadable = true) ∧
      Transcript.SameAnswer id
        (run (Strings.shippedFor none) mixedFiles (some 1) [⟨"", ["scripts"]⟩, unreadablePath])
        (run (Strings.shippedFor none) mixedFiles (some 1) [⟨"", ["scripts"]⟩]) := by
  have proper : mixedFiles.IsProper := by decide
  have loads : (Config.load mixedFiles none).result = .ok {} := by decide +kernel
  have unled : ∀ directory, mixedFiles.directory? unreadablePath ≠ .ok (some directory) := by
    have none : mixedFiles.directory? unreadablePath = .ok none := by decide +kernel
    simp only [none, ne_eq, Except.ok.injEq, reduceCtorEq, not_false_eq_true, implies_true]
  have unread : Script.load mixedFiles unreadablePath = .error (.undecodable ⟨0, 1, 255, .invalidStart⟩) := by
    decide +kernel
  have opens : Opens mixedFiles unreadablePath := ⟨by decide, [unreadablePath], by decide +kernel⟩
  obtain ⟨active, -, -, answers⟩ := run_unreadable_iff id none (some 1) proper loads unled unread rfl
  exact ⟨proper, loads, unled, ⟨_, unread, rfl⟩, (answers [⟨"", ["scripts"]⟩] []).2 opens (by decide) (by decide)⟩

/-- A spelling of the script that passes through a missing directory. -/
def detour : Path := ⟨"", ["missing", parentName, "scripts", "b.ps1"]⟩

/-- A spelling that cannot be read hides the findings under the one that can. -/
theorem run_hides_behind_detour :
    (Script.load mixedFiles detour).toOption = none ∧
      (run (Strings.shippedFor none) mixedFiles (some 1) [detour, ⟨"", ["scripts", "b.ps1"]⟩]).output id = "" ∧
      (run (Strings.shippedFor none) mixedFiles (some 1) [detour, ⟨"", ["scripts", "b.ps1"]⟩]).exitCode = 0 ∧
      (run (Strings.shippedFor none) mixedFiles (some 1) [⟨"", ["scripts", "b.ps1"]⟩]).output id ≠ "" ∧
      (run (Strings.shippedFor none) mixedFiles (some 1) [⟨"", ["scripts", "b.ps1"]⟩]).exitCode = 1 := by
  decide +kernel

end Samples

end Check

end ScriptLint
