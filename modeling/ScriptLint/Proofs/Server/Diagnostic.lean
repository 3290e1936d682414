import Mathlib.Data.List.Forall2
import ScriptLint.Proofs.Analysis.LongLines
import ScriptLint.Proofs.Server.Framework

/-! # Findings that can be published

A finding can be published if its two ends are points of a document, and a list of findings if all of
them can. What is published says what the findings say, counted from zero. The file that a finding is in
does not matter.
-/

namespace ScriptLint.Server

variable {framework : Framework} (points : framework.TakesPoints)

namespace Diagnostic

/-- A finding is published with its two ends as points of a document, and else as it is. -/
theorem ofRecord_eq_ok_iff {record : Record} {diagnostic : Diagnostic} :
    ofRecord framework record = .ok diagnostic ↔
      framework.point (record.extent.start.line - 1) (record.extent.start.column - 1) = .ok diagnostic.start ∧
        framework.point (record.extent.stop.line - 1) record.extent.stop.column = .ok diagnostic.stop ∧
        diagnostic.message = record.message ∧ diagnostic.severity = .ofSeverity record.severity ∧
        diagnostic.code = record.ruleName ∧ diagnostic.source = "pslint" := by
  obtain ⟨start, stop, message, severity, code, source⟩ := diagnostic
  rw [ofRecord]
  cases framework.point (record.extent.start.line - 1) (record.extent.start.column - 1) with
  | error fault => simp only [reduceCtorEq, false_and]
  | ok first =>
    cases framework.point (record.extent.stop.line - 1) record.extent.stop.column with
    | error fault => simp only [Except.map, reduceCtorEq, false_and, and_false]
    | ok last =>
      simp only [Except.map, Except.ok.injEq, mk.injEq, eq_comm (a := message), eq_comm (a := severity),
        eq_comm (a := code), eq_comm (a := source)]

include points in
/-- The diagnostic for a line goes from its start over as many characters as it has. -/
theorem range_of_ofRecord_finding {message ruleName line : String} {file : Option String} {index : Nat}
    {diagnostic : Diagnostic}
    (success : ofRecord framework (LongLines.finding message ruleName file (1 + index) line) = .ok diagnostic) :
    diagnostic.start = ⟨index, 0⟩ ∧ diagnostic.stop = ⟨index, line.length⟩ := by
  obtain ⟨⟨firstLine, firstCharacter⟩, ⟨lastLine, lastCharacter⟩, _⟩ := diagnostic
  obtain ⟨start, stop, -⟩ := ofRecord_eq_ok_iff.mp success
  simp only [points _ _ _, LongLines.finding] at start stop
  simp only [Point.mk.injEq]
  omega

include points in
/-- The finding for a line can be published if the line is not too far down and not too long. -/
theorem exists_ofRecord_finding_iff {message ruleName line : String} {file : Option String} {index : Nat} :
    (∃ diagnostic, ofRecord framework (LongLines.finding message ruleName file (1 + index) line) = .ok diagnostic) ↔
      index ≤ maxCoordinate ∧ line.length ≤ maxCoordinate := by
  constructor
  · rintro ⟨diagnostic, success⟩
    obtain ⟨-, stop, -⟩ := ofRecord_eq_ok_iff.mp success
    simp only [points _ _ _, LongLines.finding] at stop
    omega
  · rintro ⟨bound, short⟩
    refine ⟨⟨⟨index, 0⟩, ⟨index, line.length⟩, message, .warning, ruleName, "pslint"⟩, ofRecord_eq_ok_iff.mpr ?_⟩
    simp only [points _ _ _, LongLines.finding, DiagnosticSeverity.ofSeverity, and_true, true_and]
    omega

theorem exists_ofRecords_iff {records : List Record} :
    (∃ diagnostics, ofRecords framework records = .ok diagnostics) ↔
      ∀ record ∈ records, ∃ diagnostic, ofRecord framework record = .ok diagnostic := by
  induction records with
  | nil => exact iff_of_true ⟨[], rfl⟩ fun record member => absurd member List.not_mem_nil
  | cons record rest ih =>
    rw [List.forall_mem_cons, ← ih, ofRecords]
    cases ofRecord framework record with
    | error fault => simp only [reduceCtorEq, exists_false, false_and]
    | ok diagnostic =>
      cases ofRecords framework rest <;>
        simp only [Except.map, reduceCtorEq, exists_false, Except.ok.injEq, exists_eq', and_false, and_self]

/-- Findings and diagnostics correspond one to one and in order. -/
theorem forall₂_of_ofRecords {records : List Record} {diagnostics : List Diagnostic}
    (success : ofRecords framework records = .ok diagnostics) :
    List.Forall₂ (fun record diagnostic => ofRecord framework record = .ok diagnostic) records diagnostics := by
  induction records generalizing diagnostics with
  | nil =>
    obtain rfl := Except.ok.inj success
    exact .nil
  | cons record rest ih =>
    unfold ofRecords at success
    split at success
    next => contradiction
    next diagnostic own =>
      cases later : ofRecords framework rest with
      | error fault =>
        rw [later] at success
        contradiction
      | ok others =>
        rw [later] at success
        obtain rfl := Except.ok.inj success
        exact .cons own (ih later)

theorem exists_of_mem_ofRecords {records : List Record} {diagnostics : List Diagnostic} {diagnostic : Diagnostic}
    (success : ofRecords framework records = .ok diagnostics) (member : diagnostic ∈ diagnostics) :
    ∃ record ∈ records, ofRecord framework record = .ok diagnostic := by
  have each := forall₂_of_ofRecords success
  clear success
  induction each with
  | nil => exact absurd member List.not_mem_nil
  | cons own _ ih =>
    obtain rfl | later := List.mem_cons.mp member
    · exact ⟨_, List.mem_cons_self .., own⟩
    · obtain ⟨record, listed, sent⟩ := ih later
      exact ⟨record, List.mem_cons_of_mem _ listed, sent⟩

/-- What a diagnostic says, counted from one. -/
def remark (diagnostic : Diagnostic) : Remark where
  line := diagnostic.start.line + 1
  column := diagnostic.start.character + 1
  ruleName := diagnostic.code
  message := diagnostic.message

include points in
/-- A diagnostic says what its finding says. -/
theorem remark_of_ofRecord {record : Record} {diagnostic : Diagnostic}
    (success : ofRecord framework record = .ok diagnostic) : diagnostic.remark = record.remark := by
  obtain ⟨start, -, message, -, code, -⟩ := ofRecord_eq_ok_iff.mp success
  obtain ⟨⟨line, -⟩, character, -⟩ := (points ..).mp start
  simp only [remark, Record.remark, Record.line, Record.column, line, character, message, code, Int.sub_add_cancel]

include points in
theorem map_remark_of_ofRecords {records : List Record} {diagnostics : List Diagnostic}
    (success : ofRecords framework records = .ok diagnostics) :
    diagnostics.map remark = records.map Record.remark := by
  have each := forall₂_of_ofRecords success
  clear success
  induction each with
  | nil => rfl
  | cons own _ ih => rw [List.map_cons, List.map_cons, remark_of_ofRecord points own, ih]

include points in
/-- The findings of rules in a text can be published exactly if the lines that they report lie within the points
of a document. -/
theorem exists_ofRecords_findingsIn_iff {preferred : Option String} {rules : List Rule}
    (longLines : AreLongLines rules) {script : Script} :
    (∃ diagnostics, ofRecords framework (findingsIn (Strings.shippedFor preferred) rules script) = .ok diagnostics) ↔
      ∀ own, Rule.longLines own ∈ rules → own.enable = true → Text.IsShort own.lineLength →
        ∀ index line, (Text.lines script.text)[index]? = some line → own.lineLength < line.length →
          index ≤ maxCoordinate ∧ line.length ≤ maxCoordinate := by
  rw [exists_ofRecords_iff]
  constructor
  · intro publishable own member enabled short index line present long
    have record := publishable _
      ((mem_findingsIn_iff longLines).mpr ⟨own, member, enabled, short, index, line, present, long, rfl⟩)
    exact (exists_ofRecord_finding_iff points).mp record
  · intro within record member
    obtain ⟨own, listed, enabled, short, index, line, present, long, rfl⟩ := (mem_findingsIn_iff longLines).mp member
    exact (exists_ofRecord_finding_iff points).mpr (within own listed enabled short index line present long)

/-- What is published does not tell the file of findings. -/
theorem ofRecords_map_inFile (file : Option String) (records : List Record) :
    ofRecords framework (records.map (Record.inFile file)) = ofRecords framework records := by
  induction records with
  | nil => rfl
  | cons record rest ih =>
    have own : ofRecord framework (record.inFile file) = ofRecord framework record := rfl
    rw [List.map_cons, ofRecords, ofRecords, own, ih]

theorem ofRecords_findingsIn_congr {preferred : Option String} {rules : List Rule} (longLines : AreLongLines rules)
    {script other : Script} (same : script.text = other.text) :
    ofRecords framework (findingsIn (Strings.shippedFor preferred) rules other) =
      ofRecords framework (findingsIn (Strings.shippedFor preferred) rules script) := by
  rw [findingsIn_inFile longLines same, ofRecords_map_inFile]

end Diagnostic

/-- A document is published exactly if its analysis has findings that can all be published. -/
theorem result_publish_iff {strings : Strings} {rules : List Rule} {uri : String} {document : Document}
    {publication : Publication} :
    (publish framework strings rules uri document).result = .ok publication ↔
      publication.uri = uri ∧ ∃ records,
        (analyze strings rules ⟨document.text, some document.file⟩).result = .ok records ∧
        Diagnostic.ofRecords framework records = .ok publication.diagnostics := by
  have sent (records : List Record) :
      (do
        Traced.note (.publishing records.length uri)
        return ⟨uri, ← Traced.ofResult (Diagnostic.ofRecords framework records)⟩ :
          Traced Publication).result = .ok publication ↔
      publication.uri = uri ∧ Diagnostic.ofRecords framework records = .ok publication.diagnostics := by
    obtain ⟨other, others⟩ := publication
    simp only [Traced.result_bind, Traced.result_note, Except.bind]
    cases Diagnostic.ofRecords framework records with
    | error fault => simp [Traced.ofResult]
    | ok found => simp [Traced.ofResult, eq_comm]
  unfold publish
  rw [Traced.result_bind_eq_ok_iff]
  simp only [sent]
  constructor
  · rintro ⟨records, analyzed, same, found⟩
    exact ⟨same, records, analyzed, found⟩
  · rintro ⟨same, records, analyzed, found⟩
    exact ⟨records, analyzed, same, found⟩

end ScriptLint.Server
