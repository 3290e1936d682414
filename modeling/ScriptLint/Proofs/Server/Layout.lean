import ScriptLint.Proofs.Server.Diagnostic

/-! # How diagnostics are laid out

What variants of the rule against long lines publish for a text covers lines of this text as a whole, in order,
and each line as often as enabled variants report it. A variant whose maximum has too many digits reports nothing,
however many lines it finds too long.
-/

namespace ScriptLint.Server

variable {framework : Framework} {preferred : Option String} {rules : List LongLines} {uri text line : String}
variable {file : Option String} {index : Nat} {document : Document}
variable {diagnostic : Diagnostic} {diagnostics : List Diagnostic}

/-- Whether a diagnostic covers a line of a text that one of some rules finds too long. -/
structure Covers (text : String) (rules : List LongLines) (diagnostic : Diagnostic) (line : String) : Prop where
  present : (Text.measuredLines text)[diagnostic.start.line]? = some line
  start : diagnostic.start.character = 0
  stop : diagnostic.stop = ⟨diagnostic.start.line, line.length⟩
  /-- The rule that says so. An empty line is too long only under a negative maximum. -/
  reported : ∃ rule ∈ rules, rule.enable = true ∧ rule.lineLength < line.length ∧
    diagnostic.message = LongLines.shippedMessage rule.lineLength ∧
    (diagnostic.start = diagnostic.stop → line = "" ∧ rule.lineLength < 0)

/-- Whether diagnostics are those of rules for a text, as far as it goes by their starts. -/
structure AreLaidOut (text : String) (rules : List LongLines) (diagnostics : List Diagnostic) : Prop where
  covers : ∀ diagnostic ∈ diagnostics, ∃ line, Covers text rules diagnostic line
  ordered : diagnostics.Pairwise fun diagnostic later =>
    diagnostic.start.line < later.start.line ∨
      diagnostic.start.line = later.start.line ∧ diagnostic.start.character ≤ later.start.character
  counted : ∀ index line, (Text.measuredLines text)[index]? = some line →
    (diagnostics.filter fun diagnostic => diagnostic.start.line = index).length =
      (rules.filter fun rule => rule.enable && decide (rule.lineLength < (line.length : Int))).length

/-- The rules whose maximum can be shown. -/
def shortOnes (rules : List LongLines) : List LongLines := rules.filter fun rule => Text.IsShort rule.lineLength

/-- The diagnostic that a rule gives for a line covers it. -/
theorem covers_of_finding (points : framework.TakesPoints) {rule : LongLines} (member : rule ∈ rules)
    (enabled : rule.enable = true) (present : (Text.lines text)[index]? = some line)
    (long : rule.lineLength < line.length)
    (sent : Diagnostic.ofRecord framework (LongLines.finding (LongLines.shippedMessage rule.lineLength)
      LongLines.shippedName file (1 + index) line) = .ok diagnostic) : Covers text rules diagnostic line := by
  obtain ⟨start, stop⟩ := Diagnostic.range_of_ofRecord_finding points sent
  have message : diagnostic.message = LongLines.shippedMessage rule.lineLength :=
    congrArg Remark.message (Diagnostic.remark_of_ofRecord points sent)
  rw [Text.lines_eq_measuredLines] at present
  refine ⟨by rw [start, present], by rw [start], by rw [start, stop], rule, member, enabled, long, message, ?_⟩
  intro same
  have empty : line.length = 0 := by
    rw [start, stop, Point.mk.injEq] at same
    exact same.2.symm
  refine ⟨String.length_eq_zero_iff.mp empty, ?_⟩
  omega

section Sent
variable (points : framework.TakesPoints) (sent : Diagnostic.ofRecords framework
  (findingsIn (Strings.shippedFor preferred) (rules.map .longLines) ⟨text, file⟩) = .ok diagnostics)
include points sent

theorem exists_covers_of_mem (member : diagnostic ∈ diagnostics) :
    ∃ line, Covers text (shortOnes rules) diagnostic line := by
  obtain ⟨record, found, own⟩ := Diagnostic.exists_of_mem_ofRecords sent member
  obtain ⟨rule, listed, enabled, short, index, line, present, long, rfl⟩ :=
    (mem_findingsIn_iff (areLongLines_map rules)).mp found
  have kept : rule ∈ shortOnes rules := List.mem_filter.mpr ⟨mem_map_longLines.mp listed, decide_eq_true short⟩
  exact ⟨line, covers_of_finding points kept enabled present long own⟩

theorem pairwise_start : diagnostics.Pairwise fun diagnostic later =>
    diagnostic.start.line < later.start.line ∨
      diagnostic.start.line = later.start.line ∧ diagnostic.start.character ≤ later.start.character := by
  have found := findingsIn_pairwise (Strings.shippedFor preferred) (rules.map .longLines) ⟨text, file⟩
  have remarks : ((findingsIn (Strings.shippedFor preferred) (rules.map .longLines) ⟨text, file⟩).map
      Record.remark).Pairwise fun remark later =>
        remark.line < later.line ∨ remark.line = later.line ∧ remark.column ≤ later.column :=
    List.pairwise_map.mpr found
  rw [← Diagnostic.map_remark_of_ofRecords points sent, List.pairwise_map] at remarks
  refine remarks.imp fun {diagnostic later} inOrder => ?_
  simp only [Diagnostic.remark] at inOrder
  omega

theorem length_filter_start (present : (Text.lines text)[index]? = some line) :
    (diagnostics.filter fun diagnostic => diagnostic.start.line = index).length =
      (rules.filter (LongLines.reports line)).length := by
  -- A diagnostic is on the line of its finding, counted from zero.
  have aligned : Relator.LiftFun (fun record diagnostic => Diagnostic.ofRecord framework record = .ok diagnostic) Iff
      (fun record => decide (record.line = ((1 + index : Nat) : Int)) = true)
      (fun diagnostic => decide (diagnostic.start.line = index) = true) := by
    intro record diagnostic own
    have line : (diagnostic.start.line : Int) + 1 = record.line :=
      congrArg Remark.line (Diagnostic.remark_of_ofRecord points own)
    simp only [decide_eq_true_eq]
    omega
  have counted := (List.rel_filter aligned (Diagnostic.forall₂_of_ofRecords sent)).length_eq
  have found := (@findingsIn_filter_line_perm preferred ⟨text, file⟩ rules index line present).length_eq
  rw [← counted, found, List.length_map]

theorem areLaidOut_shortOnes : AreLaidOut text (shortOnes rules) diagnostics := by
  refine ⟨fun _ => exists_covers_of_mem points sent, pairwise_start points sent, fun index line present => ?_⟩
  rw [← Text.lines_eq_measuredLines] at present
  rw [length_filter_start points sent present, shortOnes, List.filter_filter]
  congr 2
  funext rule
  rw [LongLines.reports, Bool.and_right_comm]

/-- All rules have their diagnostics exactly if none of them is enabled, finds a line too long, and cannot show its
maximum. -/
theorem areLaidOut_iff :
    AreLaidOut text rules diagnostics ↔ ∀ rule ∈ rules, rule.enable = true →
      Text.IsShort rule.lineLength ∨ ∀ line ∈ Text.measuredLines text, (line.length : Int) ≤ rule.lineLength := by
  have short := areLaidOut_shortOnes points sent
  have same (line : String) :
      ((shortOnes rules).filter fun rule => rule.enable && decide (rule.lineLength < (line.length : Int))).length =
          (rules.filter fun rule => rule.enable && decide (rule.lineLength < (line.length : Int))).length ↔
        ∀ rule ∈ rules, rule.enable = true → rule.lineLength < line.length → Text.IsShort rule.lineLength := by
    rw [shortOnes, List.filter_comm, List.length_filter_eq_length_iff]
    simp only [List.mem_filter, Bool.and_eq_true, decide_eq_true_eq, and_imp]
  constructor
  · intro whole rule member enabled
    by_cases shown : Text.IsShort rule.lineLength
    · exact .inl shown
    · refine .inr fun line listed => ?_
      obtain ⟨index, present⟩ := List.mem_iff_getElem?.mp listed
      have counts := (short.counted index line present).symm.trans (whole.counted index line present)
      exact Int.not_lt.mp fun long => shown ((same line).mp counts rule member enabled long)
  · intro tells
    refine ⟨fun diagnostic member => ?_, short.ordered, fun index line present => ?_⟩
    · obtain ⟨line, present, start, stop, rule, kept, more⟩ := short.covers diagnostic member
      exact ⟨line, present, start, stop, rule, List.mem_of_mem_filter kept, more⟩
    · rw [short.counted index line present, same]
      intro rule member enabled long
      exact (tells rule member enabled).resolve_right fun within =>
        absurd (within line (List.mem_of_getElem? present)) (Int.not_le.mpr long)

end Sent

section Publishing

theorem result_publish_longLines_iff {publication : Publication} :
    (publish framework (Strings.shippedFor preferred) (rules.map .longLines) uri document).result =
        .ok publication ↔
      publication.uri = uri ∧ Diagnostic.ofRecords framework (findingsIn (Strings.shippedFor preferred)
        (rules.map .longLines) ⟨document.text, some document.file⟩) = .ok publication.diagnostics := by
  have answer := result_analyze_of_longLines preferred (areLongLines_map rules) ⟨document.text, some document.file⟩
  simp only [result_publish_iff, answer, Except.ok.injEq, exists_eq_left']

variable (preferred rules uri document) in
/-- Diagnostics are published exactly if the reported lines lie within the points of a document. -/
theorem exists_publish_longLines_iff (points : framework.TakesPoints) :
    (∃ publication, (publish framework (Strings.shippedFor preferred) (rules.map .longLines) uri document).result =
        .ok publication) ↔
      ∀ rule ∈ rules, rule.enable = true → Text.IsShort rule.lineLength →
        ∀ index line, (Text.measuredLines document.text)[index]? = some line → rule.lineLength < line.length →
          index ≤ maxCoordinate ∧ line.length ≤ maxCoordinate := by
  have sendable := @Diagnostic.exists_ofRecords_findingsIn_iff _ points preferred _ (areLongLines_map rules)
    ⟨document.text, some document.file⟩
  simp only [mem_map_longLines, Text.lines_eq_measuredLines] at sendable
  rw [← sendable]
  constructor
  · rintro ⟨publication, published⟩
    exact ⟨_, (result_publish_longLines_iff.mp published).2⟩
  · rintro ⟨diagnostics, sent⟩
    exact ⟨⟨uri, diagnostics⟩, result_publish_longLines_iff.mpr ⟨rfl, sent⟩⟩

end Publishing

/-- The diagnostics that variants of the rule publish for a text, whatever their maxima are and which of them are
enabled. They are published exactly if the reported lines lie within the points of a document, as they do in all
texts that are not longer than the greatest coordinate. Then they are those of the variants whose maximum can be
shown: each of them covers a line from its first character to its last, and is empty only at an empty line under a
negative maximum; they are ordered by their starts; and each line has as many of them as there are enabled rules
whose maximum its length exceeds. They are those of all variants exactly if every enabled one can show its maximum
or finds no line too long. -/
theorem publish_wellFormed (points : framework.TakesPoints) (preferred : Option String) (rules : List LongLines)
    (uri : String) (document : Document) :
    (Text.measuredLines document.text).length = 1 + document.text.toList.count '\n' ∧
    ((∃ publication, (publish framework (Strings.shippedFor preferred) (rules.map .longLines) uri document).result =
        .ok publication) ↔
      ∀ rule ∈ rules, rule.enable = true → Text.IsShort rule.lineLength →
        ∀ index line, (Text.measuredLines document.text)[index]? = some line → rule.lineLength < line.length →
          index ≤ maxCoordinate ∧ line.length ≤ maxCoordinate) ∧
    (document.text.length ≤ maxCoordinate →
      ∃ publication, (publish framework (Strings.shippedFor preferred) (rules.map .longLines) uri document).result =
        .ok publication) ∧
    ∀ publication, (publish framework (Strings.shippedFor preferred) (rules.map .longLines) uri document).result =
        .ok publication →
      publication.uri = uri ∧ AreLaidOut document.text (shortOnes rules) publication.diagnostics ∧
      (AreLaidOut document.text rules publication.diagnostics ↔ ∀ rule ∈ rules, rule.enable = true →
        Text.IsShort rule.lineLength ∨
          ∀ line ∈ Text.measuredLines document.text, (line.length : Int) ≤ rule.lineLength) := by
  have within := exists_publish_longLines_iff preferred rules uri document points
  refine ⟨Text.length_measuredLines document.text, within, fun short => within.mpr ?_, ?_⟩
  · intro rule _ _ _ index line present _
    rw [← Text.lines_eq_measuredLines] at present
    obtain ⟨row, column⟩ := Text.bounds_of_getElem?_lines present
    exact ⟨row.trans short, column.trans short⟩
  · intro publication published
    obtain ⟨address, sent⟩ := result_publish_longLines_iff.mp published
    exact ⟨address, areLaidOut_shortOnes points sent, areLaidOut_iff points sent⟩

/-- Rules with a negative maximum, without effect, and with the same maximum twice. -/
def mixedMaxima : List LongLines := [⟨true, 2⟩, ⟨true, -1⟩, ⟨false, -5⟩, ⟨true, 2⟩]

theorem publish_wellFormed_mixedMaxima :
    Framework.byUri.TakesPoints ∧
    ∃ publication, (publish .byUri (Strings.shippedFor none) (mixedMaxima.map .longLines) "file:///a.ps1"
        ⟨"ab\r\n\nabc", "/a.ps1"⟩).result = .ok publication ∧
      (publication.diagnostics.filter fun diagnostic => diagnostic.start.line = 1).length = 1 ∧
      (publication.diagnostics.filter fun diagnostic => diagnostic.start.line = 2).length = 3 := by
  have lines : Text.measuredLines "ab\r\n\nabc" = ["ab", "", "abc"] := by decide +kernel
  have shown : ∀ rule ∈ mixedMaxima, Text.IsShort rule.lineLength := by decide +kernel
  obtain ⟨-, -, short, every⟩ :=
    publish_wellFormed takesPoints_byUri none mixedMaxima "file:///a.ps1" ⟨"ab\r\n\nabc", "/a.ps1"⟩
  obtain ⟨publication, published⟩ := short (by decide)
  obtain ⟨-, -, whole⟩ := every publication published
  have counted := (whole.mpr fun rule member _ => .inl (shown rule member)).counted
  rw [lines] at counted
  exact ⟨takesPoints_byUri, publication, published, counted 1 "" rfl, counted 2 "abc" rfl⟩

/-- A rule whose maximum is negative and has too many digits. -/
def longMaximum : List LongLines := [⟨true, -Text.leastLong⟩]

/-- Such a rule finds every line too long and is not heard. -/
theorem publish_drops_longMaximum :
    (publish .byUri (Strings.shippedFor none) (longMaximum.map .longLines) "file:///a.ps1" ⟨"", "/a.ps1"⟩).result =
        .ok ⟨"file:///a.ps1", []⟩ ∧
      ¬ AreLaidOut "" longMaximum [] := by
  have unshown : ∀ rule ∈ longMaximum, ¬ Text.IsShort rule.lineLength :=
    List.forall_mem_singleton.mpr Text.not_isShort_neg_leastLong
  have silent : findingsIn (Strings.shippedFor none) (longMaximum.map .longLines) ⟨"", some "/a.ps1"⟩ = [] := by
    refine List.eq_nil_iff_forall_not_mem.mpr fun record member => ?_
    obtain ⟨own, listed, -, short, -⟩ := (mem_findingsIn_iff (areLongLines_map _)).mp member
    exact unshown own (mem_map_longLines.mp listed) short
  have sent : Diagnostic.ofRecords .byUri (findingsIn (Strings.shippedFor none) (longMaximum.map .longLines)
      ⟨"", some "/a.ps1"⟩) = .ok [] := by
    rw [silent]
    rfl
  refine ⟨result_publish_longLines_iff.mpr ⟨rfl, sent⟩, fun whole => ?_⟩
  have heard := (areLaidOut_iff takesPoints_byUri sent).mp whole ⟨true, -Text.leastLong⟩
    (List.mem_singleton.mpr rfl) rfl
  have bound := heard.resolve_left Text.not_isShort_neg_leastLong "" (by decide +kernel)
  have positive := Text.leastLong_pos
  rw [String.length_empty] at bound
  dsimp only at bound
  omega

end ScriptLint.Server
