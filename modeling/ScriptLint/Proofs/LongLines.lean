import ScriptLint.Proofs.Strings
import ScriptLint.Proofs.Text.Digits
import ScriptLint.Proofs.Text.Line
import ScriptLint.Rule

/-! # What the rule against long lines reports

The findings for a script are determined by its lines, the maximum and two texts, the message and the
name of the rule. The texts are looked up only when there is something to report, so a script without
long lines has no findings even where the texts cannot be shown. The message tells the maximum, so under a
maximum with too many digits the rule fails as soon as there is something to report.
-/

namespace ScriptLint.LongLines

/-- The finding that a line is too long, in given words. -/
def finding (message ruleName : String) (file : Option String) (number : Nat) (line : String) : Record where
  message := message
  extent := ⟨⟨file, number, 1, line⟩, ⟨file, number, line.length, line⟩⟩
  ruleName := ruleName
  severity := .warning
  scriptPath := file

/-- The lines that are longer than a maximum, with their numbers. -/
def tooLong (lineLength : Int) (number : Nat) (lines : List String) : List (String × Nat) :=
  (lines.zipIdx number).filter fun entry => decide (lineLength < entry.1.length)

def findings (message ruleName : String) (lineLength : Int) (file : Option String) (number : Nat)
    (lines : List String) : List Record :=
  (tooLong lineLength number lines).map fun entry => finding message ruleName file entry.2 entry.1

/-- The message and the name that a finding needs. -/
def wording (strings : Strings) (rule : LongLines) : Except Failure (String × String) :=
  (strings.text .longLinesError [.int rule.lineLength]).result.bind fun message =>
    (name strings).result.map (message, ·)

theorem tooLong_cons (lineLength : Int) (number : Nat) (line : String) (rest : List String) :
    tooLong lineLength number (line :: rest) =
      if lineLength < line.length then (line, number) :: tooLong lineLength (number + 1) rest
      else tooLong lineLength (number + 1) rest := by
  simp only [tooLong, List.zipIdx_cons, List.filter_cons, decide_eq_true_eq]

theorem result_record (strings : Strings) (rule : LongLines) (file : Option String) (number : Nat)
    (line : String) :
    (record strings rule file number line).result =
      (wording strings rule).map fun words => finding words.1 words.2 file number line := by
  simp only [record, wording, Traced.result_bind, Traced.result_pure]
  cases (strings.text .longLinesError [.int rule.lineLength]).result with
  | error cause => rfl
  | ok message => cases (name strings).result <;> rfl

theorem result_recordsFrom_of_worded {strings : Strings} {rule : LongLines} {message ruleName : String}
    (worded : wording strings rule = .ok (message, ruleName)) (file : Option String) (number : Nat)
    (lines : List String) :
    (recordsFrom strings rule file number lines).result =
      .ok (findings message ruleName rule.lineLength file number lines) := by
  induction lines generalizing number with
  | nil => rfl
  | cons line rest ih =>
    by_cases long : rule.lineLength < line.length
    · have exceeds : rule.exceeds line = true := decide_eq_true long
      simp only [recordsFrom, exceeds, ↓reduceIte, Traced.result_bind, result_record, worded, ih,
        Traced.result_pure, findings, tooLong_cons, long]
      rfl
    · have within : rule.exceeds line = false := decide_eq_false long
      simp only [recordsFrom, within, Bool.false_eq_true, ↓reduceIte, ih, findings, tooLong_cons, long]

theorem result_recordsFrom_of_unworded {strings : Strings} {rule : LongLines} {cause : Failure}
    (unworded : wording strings rule = .error cause) (file : Option String) (number : Nat)
    (lines : List String) :
    (recordsFrom strings rule file number lines).result =
      if tooLong rule.lineLength number lines = [] then .ok [] else .error cause := by
  induction lines generalizing number with
  | nil => rfl
  | cons line rest ih =>
    by_cases long : rule.lineLength < line.length
    · have exceeds : rule.exceeds line = true := decide_eq_true long
      simp only [recordsFrom, exceeds, ↓reduceIte, Traced.result_bind, result_record, unworded,
        tooLong_cons, long, List.cons_ne_nil]
      rfl
    · have within : rule.exceeds line = false := decide_eq_false long
      simp only [recordsFrom, within, Bool.false_eq_true, ↓reduceIte, ih, tooLong_cons, long]

/-- The rule fails exactly on scripts with a line that is too long, and only if its texts fail. -/
theorem analyze_fails_iff (strings : Strings) (rule : LongLines) (script : Script) (cause : Failure) :
    (rule.analyze strings script).result = .error cause ↔
      tooLong rule.lineLength 1 (Text.lines script.text) ≠ [] ∧ wording strings rule = .error cause := by
  unfold analyze
  cases words : wording strings rule with
  | ok words =>
    rw [result_recordsFrom_of_worded words]
    simp only [reduceCtorEq, and_false]
  | error other =>
    rw [result_recordsFrom_of_unworded words]
    split <;> simp_all

theorem findings_cons (message ruleName : String) (lineLength : Int) (file : Option String) (number : Nat)
    (line : String) (rest : List String) :
    findings message ruleName lineLength file number (line :: rest) =
      (if lineLength < line.length then [finding message ruleName file number line] else []) ++
        findings message ruleName lineLength file (number + 1) rest := by
  unfold findings
  rw [tooLong_cons]
  split <;> rfl

section
variable {message ruleName : String} {lineLength : Int} {file : Option String}

theorem mem_findings_iff {number : Nat} {lines : List String} {record : Record} :
    record ∈ findings message ruleName lineLength file number lines ↔
      ∃ index line, lines[index]? = some line ∧ lineLength < line.length ∧
        record = finding message ruleName file (number + index) line := by
  constructor
  · intro member
    obtain ⟨⟨line, found⟩, listed, rfl⟩ := List.mem_map.mp member
    obtain ⟨indexed, long⟩ := List.mem_filter.mp listed
    obtain ⟨bound, present⟩ := List.mk_mem_zipIdx_iff_le_and_getElem?_sub.mp indexed
    refine ⟨found - number, line, present, of_decide_eq_true long, ?_⟩
    rw [Nat.add_sub_cancel' bound]
  · rintro ⟨index, line, present, long, rfl⟩
    have indexed : (line, number + index) ∈ lines.zipIdx number := by
      refine List.mk_mem_zipIdx_iff_le_and_getElem?_sub.mpr ⟨Nat.le_add_right .., ?_⟩
      rwa [Nat.add_sub_cancel_left]
    exact List.mem_map.mpr ⟨_, List.mem_filter.mpr ⟨indexed, decide_eq_true long⟩, rfl⟩

theorem le_line_of_mem_findings {number : Nat} {lines : List String} {record : Record}
    (member : record ∈ findings message ruleName lineLength file number lines) :
    (number : Int) ≤ record.line := by
  obtain ⟨index, line, -, -, rfl⟩ := mem_findings_iff.mp member
  exact Int.ofNat_le.mpr (Nat.le_add_right ..)

/-- Findings come in the order of lines, at most one for each. -/
theorem findings_pairwise (number : Nat) (lines : List String) :
    (findings message ruleName lineLength file number lines).Pairwise fun first second =>
      first.line < second.line := by
  induction lines generalizing number with
  | nil => exact .nil
  | cons line rest ih =>
    rw [findings_cons]
    refine List.pairwise_append.mpr ⟨?_, ih (number + 1), ?_⟩
    · split
      · exact List.pairwise_singleton ..
      · exact .nil
    · intro first head second member
      have later := le_line_of_mem_findings member
      split at head
      · obtain rfl := List.mem_singleton.mp head
        change (number : Int) < second.line
        omega
      · exact absurd head List.not_mem_nil

variable (message ruleName lineLength file) in
/-- The findings at one line: its own if it is too long, and no other. -/
theorem findings_filter_line {lines : List String} {index : Nat} {line : String}
    (present : lines[index]? = some line) (number : Nat) :
    (findings message ruleName lineLength file number lines).filter
        (fun record => record.line = ((number + index : Nat) : Int)) =
      if lineLength < line.length then [finding message ruleName file (number + index) line] else [] := by
  induction lines generalizing number index with
  | nil => simp only [List.getElem?_nil, reduceCtorEq] at present
  | cons first rest ih =>
    rw [findings_cons, List.filter_append]
    cases index with
    | zero =>
      -- The findings for the lines below have greater numbers.
      obtain rfl := Option.some.inj present
      have others : (findings message ruleName lineLength file (number + 1) rest).filter
          (fun record => record.line = ((number + 0 : Nat) : Int)) = [] := by
        refine List.filter_eq_nil_iff.mpr fun record member same => ?_
        have later := le_line_of_mem_findings member
        rw [decide_eq_true_eq] at same
        omega
      rw [others, List.append_nil]
      split
      · exact List.filter_eq_self.mpr fun record member => by
          obtain rfl := List.mem_singleton.mp member
          exact decide_eq_true rfl
      · rfl
    | succ index =>
      have own : (if lineLength < first.length then [finding message ruleName file number first] else []).filter
          (fun record => record.line = ((number + (index + 1) : Nat) : Int)) = [] := by
        refine List.filter_eq_nil_iff.mpr fun record member same => ?_
        split at member
        · obtain rfl := List.mem_singleton.mp member
          rw [decide_eq_true_eq] at same
          change (number : Int) = _ at same
          omega
        · exact absurd member List.not_mem_nil
      have shifted : number + (index + 1) = number + 1 + index := by omega
      rw [own, List.nil_append, shifted]
      exact ih present (number + 1)

end

/-- Telling the name logs nothing but notes about cultures. -/
theorem channel_of_mem_log_name {strings : Strings} :
    ∀ entry ∈ (name strings).log, entry.channel = .strings := by
  unfold name sourceName
  exact Traced.forall_log_bind Strings.log_text fun _ _ =>
    Traced.forall_log_bind Strings.log_text fun _ _ => Strings.log_text

/-- A run of the rule logs nothing but notes about cultures. -/
theorem channel_of_mem_log_analyze {strings : Strings} (rule : LongLines) (script : Script) :
    ∀ entry ∈ (rule.analyze strings script).log, entry.channel = .strings := by
  have reports (number : Nat) (lines : List String) :
      ∀ entry ∈ (recordsFrom strings rule script.file number lines).log, entry.channel = .strings := by
    induction lines generalizing number with
    | nil => exact fun entry member => absurd member List.not_mem_nil
    | cons line rest ih =>
      unfold recordsFrom
      split
      · refine Traced.forall_log_bind ?_ fun _ _ => Traced.forall_log_bind (ih (number + 1)) fun _ _ => ?_
        · unfold record
          refine Traced.forall_log_bind Strings.log_text fun _ _ =>
            Traced.forall_log_bind channel_of_mem_log_name fun _ _ => ?_
          exact fun entry member => absurd member List.not_mem_nil
        · exact fun entry member => absurd member List.not_mem_nil
      · exact ih (number + 1)
  exact reports 1 (Text.lines script.text)

/-- Under the shipped texts the rule has its words unless its maximum has too many digits. -/
theorem wording_shipped (preferred : Option String) (rule : LongLines) :
    wording (Strings.shippedFor preferred) rule =
      if Text.IsShort rule.lineLength then .ok (shippedMessage rule.lineLength, shippedName)
      else .error (.template .integerTooLong) := by
  simp only [wording, result_message_shipped, result_name_shipped]
  split <;> rfl

theorem tooLong_eq_nil_iff {lineLength : Int} {number : Nat} {lines : List String} :
    tooLong lineLength number lines = [] ↔ ∀ line ∈ lines, (line.length : Int) ≤ lineLength := by
  induction lines generalizing number with
  | nil => exact iff_of_true rfl fun _ member => absurd member List.not_mem_nil
  | cons line rest ih =>
    rw [tooLong_cons, List.forall_mem_cons, ← Int.not_lt, ← @ih (number + 1)]
    split
    next long => exact iff_of_false (List.cons_ne_nil _ _) fun both => both.1 long
    next within => exact (and_iff_right within).symm

/-- Whether what the rule finds in a text can be put into words. -/
def CanTell (rule : LongLines) (text : String) : Prop :=
  Text.IsShort rule.lineLength ∨ ∀ line ∈ Text.measuredLines text, (line.length : Int) ≤ rule.lineLength

instance (rule : LongLines) (text : String) : Decidable (rule.CanTell text) :=
  inferInstanceAs (Decidable (_ ∨ _))

/-- A run of the rule, under the shipped texts: its findings if it can tell them. -/
theorem result_analyze_shipped (preferred : Option String) (rule : LongLines) (file fileName : Option String)
    (text : String) :
    (Rule.analyze (Strings.shippedFor preferred) (some ⟨text, file⟩) fileName (.longLines rule)).result =
      if rule.CanTell text then
        .ok (findings (shippedMessage rule.lineLength) shippedName rule.lineLength file 1 (Text.lines text))
      else .error (.template .integerTooLong) := by
  change (recordsFrom _ rule file 1 (Text.lines text)).result = _
  have words := wording_shipped preferred rule
  by_cases short : Text.IsShort rule.lineLength
  · rw [if_pos short] at words
    have told : rule.CanTell text := .inl short
    rw [result_recordsFrom_of_worded words, if_pos told]
  · rw [if_neg short] at words
    have answer := result_recordsFrom_of_unworded words file 1 (Text.lines text)
    by_cases within : ∀ line ∈ Text.measuredLines text, (line.length : Int) ≤ rule.lineLength
    · have told : rule.CanTell text := .inr within
      have nothing : tooLong rule.lineLength 1 (Text.lines text) = [] := by
        rwa [Text.lines_eq_measuredLines, tooLong_eq_nil_iff]
      rw [answer, if_pos nothing, if_pos told, findings, nothing]
      rfl
    · have untold : ¬ rule.CanTell text := not_or.mpr ⟨short, within⟩
      have something : tooLong rule.lineLength 1 (Text.lines text) ≠ [] := by
        rwa [Text.lines_eq_measuredLines, ne_eq, tooLong_eq_nil_iff]
      rw [answer, if_neg something, if_neg untold]

/-- Runs of the rule that go through, under the shipped texts. -/
theorem exists_result_analyze_shipped_iff (preferred : Option String) (rule : LongLines)
    (file fileName : Option String) (text : String) :
    (∃ found, (Rule.analyze (Strings.shippedFor preferred) (some ⟨text, file⟩) fileName (.longLines rule)).result =
        .ok found) ↔ rule.CanTell text := by
  rw [result_analyze_shipped]
  split
  next told => exact iff_of_true ⟨_, rfl⟩ told
  next untold => exact iff_of_false (Traced.not_exists_error_eq_ok _) untold

theorem eq_findings_of_result_analyze_shipped {preferred : Option String} {rule : LongLines}
    {file fileName : Option String} {text : String} {found : List Record}
    (success : (Rule.analyze (Strings.shippedFor preferred) (some ⟨text, file⟩) fileName (.longLines rule)).result =
      .ok found) :
    found = findings (shippedMessage rule.lineLength) shippedName rule.lineLength file 1 (Text.lines text) := by
  rw [result_analyze_shipped] at success
  split at success
  · exact (Except.ok.inj success).symm
  · contradiction

/-- Whether findings are those of a rule for a text, by the lines between its line feeds: they come in the order
of lines, every line that is longer than the maximum has exactly one, and no other line has any. -/
structure IsReport (rule : LongLines) (text : String) (file : Option String) (found : List Record) : Prop where
  ordered : found.Pairwise fun first second => first.line < second.line
  placed : ∀ record ∈ found, ∃ (index : Nat) (line : String), (Text.measuredLines text)[index]? = some line ∧
    record.line = (index : Int) + 1
  each : ∀ (index : Nat) (line : String), (Text.measuredLines text)[index]? = some line →
    found.filter (fun record => record.line = (index : Int) + 1) =
      if rule.lineLength < line.length then
        [{ message := "Line exceeds the configured maximum length of " ++ toString rule.lineLength ++ " characters"
           extent := ⟨⟨file, index + 1, 1, line⟩, ⟨file, index + 1, line.length, line⟩⟩
           ruleName := "PSAvoidLongLines"
           severity := .warning
           scriptPath := file
           suppressionId := none }]
      else []

theorem isReport_findings (rule : LongLines) (text : String) (file : Option String) :
    IsReport rule text file
      (findings (shippedMessage rule.lineLength) shippedName rule.lineLength file 1 (Text.lines text)) := by
  rw [Text.lines_eq_measuredLines]
  refine ⟨findings_pairwise 1 _, ?_, ?_⟩
  · intro record member
    obtain ⟨index, line, present, -, rfl⟩ := mem_findings_iff.mp member
    refine ⟨index, line, present, ?_⟩
    change ((1 + index : Nat) : Int) = _
    omega
  · intro index line present
    have number : ((1 + index : Nat) : Int) = (index : Int) + 1 := by omega
    have own := findings_filter_line (shippedMessage rule.lineLength) shippedName rule.lineLength file present 1
    simp only [finding, number] at own
    exact own

/-- What the rule finds in a text under the shipped texts is what the lines between its line feeds say, exactly if
its maximum can be shown or no line is longer; otherwise the run fails. Neither the file name that the host knows
nor whether the rule is enabled matters. -/
theorem analyze_measuredLines (preferred : Option String) (rule : LongLines) (text : String)
    (file fileName : Option String) :
    (Text.measuredLines text).length = 1 + text.toList.count '\n' ∧
    ((∃ found, (Rule.analyze (Strings.shippedFor preferred) (some ⟨text, file⟩) fileName (.longLines rule)).result =
        .ok found ∧ IsReport rule text file found) ↔
      Text.IsShort rule.lineLength ∨ ∀ line ∈ Text.measuredLines text, (line.length : Int) ≤ rule.lineLength) ∧
    (¬ (Text.IsShort rule.lineLength ∨ ∀ line ∈ Text.measuredLines text, (line.length : Int) ≤ rule.lineLength) →
      (Rule.analyze (Strings.shippedFor preferred) (some ⟨text, file⟩) fileName (.longLines rule)).result =
        .error (.template .integerTooLong)) := by
  refine ⟨Text.length_measuredLines text, ⟨?_, fun told => ?_⟩, fun untold => ?_⟩
  · rintro ⟨found, success, -⟩
    exact (exists_result_analyze_shipped_iff preferred rule file fileName text).mp ⟨found, success⟩
  · exact ⟨_, (result_analyze_shipped ..).trans (if_pos told), isReport_findings rule text file⟩
  · exact (result_analyze_shipped ..).trans (if_neg untold)

/-- Under a negative maximum with too many digits the rule fails even on the empty text. -/
theorem analyze_fails_longMaximum :
    (Rule.analyze Strings.shipped (some ⟨"", none⟩) none (.longLines { lineLength := -Text.leastLong })).result =
      .error (.template .integerTooLong) := by
  refine (analyze_measuredLines none _ "" none none).2.2 (not_or.mpr ⟨Text.not_isShort_neg_leastLong, ?_⟩)
  intro within
  have empty : "" ∈ Text.measuredLines "" := by decide +kernel
  have bound := within "" empty
  have positive := Text.leastLong_pos
  rw [String.length_empty] at bound
  dsimp only at bound
  omega

end ScriptLint.LongLines
