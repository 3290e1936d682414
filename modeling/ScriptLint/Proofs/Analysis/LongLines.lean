import ScriptLint.Proofs.Analysis
import ScriptLint.Proofs.Config
import ScriptLint.Proofs.LongLines
import ScriptLint.Proofs.Order

/-! # Analyses by the rule against long lines

Every configuration gives variants of the rule against long lines. Under the shipped texts they never
fail, so that an analysis always has findings, which come by line and column. What the findings say is
decided by the text of the script.
-/

namespace ScriptLint

/-- What a finding says apart from the file that it is in. -/
structure Remark where
  line : Int
  column : Int
  ruleName : String
  message : String
  deriving DecidableEq, Repr

def Record.inFile (file : Option String) (record : Record) : Record :=
  { record with
    extent := ⟨{ record.extent.start with file }, { record.extent.stop with file }⟩
    scriptPath := file }

def Record.remark (record : Record) : Remark :=
  ⟨record.line, record.column, record.ruleName, record.message⟩

section Rules
variable {preferred : Option String} {rules : List Rule} {script other : Script}

/-- Whether rules are variants of the one against long lines. -/
def AreLongLines (rules : List Rule) : Prop := ∀ rule ∈ rules, ∃ own, rule = .longLines own

/-- The findings of rules in a script, in the order of an analysis. -/
def findingsIn (strings : Strings) (rules : List Rule) (script : Script) : List Record :=
  sortStable Record.before ((Rule.active rules).flatMap (Rule.found strings script))

theorem areLongLines_ite (kept : Bool) (own : LongLines) :
    AreLongLines (if kept then [.longLines own] else []) := by
  intro rule member
  split at member
  · exact ⟨own, List.mem_singleton.mp member⟩
  · exact absurd member List.not_mem_nil

theorem Rule.answer_longLines (preferred : Option String) (own : LongLines) (script : Script) :
    (Rule.longLines own).answer (Strings.shippedFor preferred) script =
      if own.CanTell script.text then
        .ok (LongLines.findings (LongLines.shippedMessage own.lineLength) LongLines.shippedName own.lineLength
          script.file 1 (Text.lines script.text))
      else .error (.template .integerTooLong) :=
  LongLines.result_analyze_shipped preferred own script.file script.file script.text

/-- What a rule adds to an analysis: without the words for it, nothing. -/
theorem Rule.found_longLines (preferred : Option String) (own : LongLines) (script : Script) :
    (Rule.longLines own).found (Strings.shippedFor preferred) script =
      if Text.IsShort own.lineLength then
        LongLines.findings (LongLines.shippedMessage own.lineLength) LongLines.shippedName own.lineLength
          script.file 1 (Text.lines script.text)
      else [] := by
  rw [Rule.found, Rule.answer_longLines]
  by_cases short : Text.IsShort own.lineLength
  · have told : own.CanTell script.text := .inl short
    rw [if_pos told, if_pos short]
  · rw [if_neg short]
    split
    next records told =>
      split at told
      next can =>
        have within := can.resolve_left short
        rw [← Text.lines_eq_measuredLines] at within
        rw [← Except.ok.inj told, LongLines.findings, LongLines.tooLong_eq_nil_iff.mpr within]
        rfl
      next => contradiction
    next => rfl

/-- The built-in rule can be named under the shipped texts, so that it never breaks off an analysis. -/
theorem Rule.isNamed_longLines (preferred : Option String) (own : LongLines) :
    (Rule.longLines own).isNamed (Strings.shippedFor preferred) = true := by
  have named : (Rule.name (Strings.shippedFor preferred) (.longLines own)).result = .ok LongLines.shippedName :=
    LongLines.result_name_shipped preferred
  rw [Rule.isNamed, named]

theorem result_analyze_of_longLines (preferred : Option String) (longLines : AreLongLines rules)
    (script : Script) :
    (analyze (Strings.shippedFor preferred) rules script).result =
      .ok (findingsIn (Strings.shippedFor preferred) rules script) := by
  have unbroken : (Rule.active rules).findSome? (Rule.breakage? (Strings.shippedFor preferred) script) = none := by
    refine unbroken_iff.mpr fun rule member _ _ => ?_
    obtain ⟨own, rfl⟩ := longLines rule member
    exact Rule.isNamed_longLines preferred own
  rw [result_analyze, unbroken, findingsIn]

theorem findingsIn_pairwise (strings : Strings) (rules : List Rule) (script : Script) :
    (findingsIn strings rules script).Pairwise fun record later =>
      record.line < later.line ∨ record.line = later.line ∧ record.column ≤ later.column := by
  have sorted : (findingsIn strings rules script).Pairwise fun record later => record.before later = true := by
    refine sortStable_pairwise ?_ ?_ _
    · intro record later
      simp only [Record.before, Bool.or_eq_true, Bool.and_eq_true, decide_eq_true_eq, beq_iff_eq]
      omega
    · intro record later last
      simp only [Record.before, Bool.or_eq_true, Bool.and_eq_true, decide_eq_true_eq, beq_iff_eq]
      omega
  refine sorted.imp fun {record later} inOrder => ?_
  simpa only [Record.before, Bool.or_eq_true, Bool.and_eq_true, decide_eq_true_eq, beq_iff_eq] using inOrder

/-- The findings in a script: for each line that is longer than the maximum of an enabled rule, if it can be shown. -/
theorem mem_findingsIn_iff (longLines : AreLongLines rules) {record : Record} :
    record ∈ findingsIn (Strings.shippedFor preferred) rules script ↔
      ∃ own, Rule.longLines own ∈ rules ∧ own.enable = true ∧ Text.IsShort own.lineLength ∧
        ∃ index line, (Text.lines script.text)[index]? = some line ∧ own.lineLength < line.length ∧
        record = LongLines.finding (LongLines.shippedMessage own.lineLength) LongLines.shippedName script.file
          (1 + index) line := by
  rw [findingsIn, (sortStable_perm ..).mem_iff, List.mem_flatMap]
  constructor
  · rintro ⟨rule, active, found⟩
    obtain ⟨member, enabled⟩ := List.mem_filter.mp active
    obtain ⟨own, rfl⟩ := longLines rule member
    rw [Rule.found_longLines] at found
    split at found
    next short => exact ⟨own, member, enabled, short, LongLines.mem_findings_iff.mp found⟩
    next => exact absurd found List.not_mem_nil
  · rintro ⟨own, member, enabled, short, found⟩
    refine ⟨_, List.mem_filter.mpr ⟨member, enabled⟩, ?_⟩
    rw [Rule.found_longLines, if_pos short]
    exact LongLines.mem_findings_iff.mpr found

theorem areLongLines_map (variants : List LongLines) : AreLongLines (variants.map .longLines) := by
  intro rule member
  obtain ⟨own, -, rfl⟩ := List.mem_map.mp member
  exact ⟨own, rfl⟩

theorem Rule.isEnabled_longLines (own : LongLines) : (Rule.longLines own).isEnabled = own.enable := rfl

theorem mem_map_longLines {variants : List LongLines} {own : LongLines} :
    Rule.longLines own ∈ variants.map .longLines ↔ own ∈ variants :=
  List.mem_map_of_injective fun _ _ => Rule.longLines.inj

/-- Whether an enabled rule reports a line: it is longer than the maximum, and the maximum can be shown. -/
def LongLines.reports (line : String) (rule : LongLines) : Bool :=
  rule.enable && decide (Text.IsShort rule.lineLength) && decide (rule.lineLength < (line.length : Int))

/-- The findings at one line of a script: one for each rule that reports it. -/
theorem findingsIn_filter_line_perm {variants : List LongLines} {index : Nat} {line : String}
    (present : (Text.lines script.text)[index]? = some line) :
    ((findingsIn (Strings.shippedFor preferred) (variants.map .longLines) script).filter
        fun record => record.line = ((1 + index : Nat) : Int)).Perm
      ((variants.filter (LongLines.reports line)).map fun rule =>
        LongLines.finding (LongLines.shippedMessage rule.lineLength) LongLines.shippedName script.file (1 + index)
          line) := by
  refine ((sortStable_perm Record.before _).filter _).trans (.of_eq ?_)
  induction variants with
  | nil => rfl
  | cons own rest ih =>
    have found : ((Rule.longLines own).found (Strings.shippedFor preferred) script).filter
        (fun record => record.line = ((1 + index : Nat) : Int)) =
          if Text.IsShort own.lineLength ∧ own.lineLength < line.length then
            [LongLines.finding (LongLines.shippedMessage own.lineLength) LongLines.shippedName script.file
              (1 + index) line]
          else [] := by
      rw [Rule.found_longLines, ite_and]
      split
      · exact LongLines.findings_filter_line _ _ _ _ present 1
      · rfl
    cases enabled : own.enable with
    | false =>
      have inactive : Rule.active ((own :: rest).map .longLines) = Rule.active (rest.map .longLines) :=
        List.filter_cons_of_neg (by simp [Rule.isEnabled_longLines, enabled])
      rw [inactive, ih, List.filter_cons_of_neg (by simp [LongLines.reports, enabled])]
    | true =>
      have first : Rule.active ((own :: rest).map .longLines) = .longLines own :: Rule.active (rest.map .longLines) :=
        List.filter_cons_of_pos enabled
      rw [first, List.flatMap_cons, List.filter_append, ih, found]
      by_cases reported : Text.IsShort own.lineLength ∧ own.lineLength < line.length
      · rw [if_pos reported, List.filter_cons_of_pos (by simp [LongLines.reports, enabled, reported])]
        rfl
      · rw [if_neg reported, List.filter_cons_of_neg (by simpa [LongLines.reports, enabled] using reported),
          List.nil_append]

/-- What is found in a script is decided by its text, apart from the file that findings are in. -/
theorem findingsIn_inFile (longLines : AreLongLines rules) (same : script.text = other.text) :
    findingsIn (Strings.shippedFor preferred) rules other =
      (findingsIn (Strings.shippedFor preferred) rules script).map (Record.inFile other.file) := by
  have own : ∀ rule ∈ Rule.active rules, rule.found (Strings.shippedFor preferred) other =
      (rule.found (Strings.shippedFor preferred) script).map (Record.inFile other.file) := by
    intro rule active
    obtain ⟨own, rfl⟩ := longLines rule (List.mem_filter.mp active).1
    rw [Rule.found_longLines, Rule.found_longLines, same]
    split
    · rw [LongLines.findings, LongLines.findings, List.map_map]
      rfl
    · rfl
  -- The order of an analysis does not look at files.
  have sorted (found : List Record) :
      sortStable Record.before (found.map (Record.inFile other.file)) =
        (sortStable Record.before found).map (Record.inFile other.file) :=
    sortStable_map (fun _ _ => rfl) found
  rw [findingsIn, findingsIn, ← sorted, List.map_flatMap]
  exact congrArg _ (List.flatMap_congr own)

theorem map_remark_findingsIn (longLines : AreLongLines rules) (same : script.text = other.text) :
    (findingsIn (Strings.shippedFor preferred) rules script).map Record.remark =
      (findingsIn (Strings.shippedFor preferred) rules other).map Record.remark := by
  rw [findingsIn_inFile longLines same, List.map_map]
  rfl

end Rules

end ScriptLint
