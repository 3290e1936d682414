import ScriptLint.Proofs.Server.Client
import ScriptLint.Proofs.Server.Diagnostic

/-! # What published ranges select

The range of a diagnostic counts lines as the rule does and columns in characters. A client that reads it
finds the reported line exactly if that line is basic and the client's own line of the same number starts
with it. Without carriage returns that stand alone, up to the line, being basic is enough.
-/

namespace ScriptLint.Server

open Text.Utf16 (units IsBasic)

variable {framework : Framework} {rules : List Rule} {document : Document} {uri text line message ruleName : String}
variable {scriptFile : Option String} {index : Nat} {record : Record} {diagnostic : Diagnostic}
variable {publication : Publication}

/-- Whether a client finds the line of a finding in the range of a diagnostic. -/
def Selects (text : String) (record : Record) (diagnostic : Diagnostic) : Prop :=
  Client.selected? text.toList diagnostic.start diagnostic.stop =
    some (units record.extent.start.lineText.toList)

/-- Whether the client's line of a number starts with the line of a finding. -/
def StandsAt (text : String) (record : Record) (number : Nat) : Prop :=
  ∃ shown, (Client.lines text.toList)[number]? = some shown ∧
    record.extent.start.lineText.toList <+: shown.content

theorem selects_finding_iff (points : framework.TakesPoints) (present : (Text.lines text)[index]? = some line)
    (sent : Diagnostic.ofRecord framework (LongLines.finding message ruleName scriptFile (1 + index) line) =
      .ok diagnostic) :
    Selects text (LongLines.finding message ruleName scriptFile (1 + index) line) diagnostic ↔
      IsBasic line.toList ∧
        StandsAt text (LongLines.finding message ruleName scriptFile (1 + index) line) diagnostic.start.line := by
  obtain ⟨start, stop⟩ := Diagnostic.range_of_ofRecord_finding points sent
  have bound : index < (Client.lines text.toList).length := by
    have inside := (List.getElem?_eq_some_iff.mp present).1
    rw [Text.lines, List.length_map] at inside
    exact inside.trans_le (Client.length_splitLines_le text.toList)
  have shown : (Client.lines text.toList)[index]? = some (Client.lines text.toList)[index] :=
    List.getElem?_eq_getElem bound
  unfold Selects StandsAt
  rw [start, stop, Client.selected?_of_line shown, Option.some.injEq, ← String.length_toList]
  simp only [LongLines.finding, shown, Option.some.injEq, exists_eq_left', Text.Utf16.take_units_eq_iff]

/-- As far as no carriage return stands alone, a client finds the line of a finding where it is. -/
theorem standsAt_of_clear (present : (Text.lines text)[index]? = some line)
    (clear : ∀ other ∈ (Text.lines text).take (index + 1), '\r' ∉ other.toList) :
    StandsAt text (LongLines.finding message ruleName scriptFile (1 + index) line) index := by
  rw [Text.lines, List.getElem?_map] at present
  obtain ⟨content, here, rfl⟩ := Option.map_eq_some_iff.mp present
  have found := @Client.getElem?_lines_of_clear text.toList index fun other member => by
    have inside := clear (String.ofList other) (by
      rw [Text.lines, ← List.map_take]
      exact List.mem_map_of_mem member)
    rwa [String.toList_ofList] at inside
  rw [here] at found
  obtain ⟨shown, held, same⟩ := Option.map_eq_some_iff.mp found
  refine ⟨shown, held, ?_⟩
  rw [same, LongLines.finding, String.toList_ofList]

/-- The ranges that are published for a text select the reported lines exactly if these are basic and
stand, for a client, at the start of the lines with their numbers. -/
theorem publish_selects_iff (points : framework.TakesPoints) (preferred : Option String)
    (longLines : AreLongLines rules)
    (published : (publish framework (Strings.shippedFor preferred) rules uri document).result = .ok publication) :
    ∃ records, (analyze (Strings.shippedFor preferred) rules ⟨document.text, some document.file⟩).result =
        .ok records ∧
      List.Forall₂ (fun record diagnostic => Diagnostic.ofRecord framework record = .ok diagnostic ∧
        (Text.lines document.text)[diagnostic.start.line]? = some record.extent.start.lineText ∧
        (Selects document.text record diagnostic ↔
          IsBasic record.extent.start.lineText.toList ∧ StandsAt document.text record diagnostic.start.line) ∧
        ((∀ line ∈ (Text.lines document.text).take (diagnostic.start.line + 1), '\r' ∉ line.toList) →
          (Selects document.text record diagnostic ↔ IsBasic record.extent.start.lineText.toList)))
        records publication.diagnostics := by
  obtain ⟨-, records, analyzed, sent⟩ := result_publish_iff.mp published
  refine ⟨records, analyzed, ?_⟩
  obtain rfl := Except.ok.inj ((result_analyze_of_longLines preferred longLines _).symm.trans analyzed)
  have found (record : Record) :=
    (@mem_findingsIn_iff preferred rules ⟨document.text, some document.file⟩ longLines record).mp
  refine ((List.forall₂_and_left _ _).mpr ⟨found, Diagnostic.forall₂_of_ofRecords sent⟩).imp ?_
  rintro record diagnostic ⟨⟨own, -, -, -, index, line, present, -, rfl⟩, converted⟩
  obtain ⟨start, -⟩ := Diagnostic.range_of_ofRecord_finding points converted
  have selects := selects_finding_iff points present converted
  refine ⟨converted, by rw [start]; exact present, selects, fun clear => ?_⟩
  rw [start] at clear
  rw [selects, start]
  exact and_iff_left (standsAt_of_clear present clear)

section Samples

/-- The rule with a maximum of one character. -/
def oneCharacter : List Rule := [.longLines { enable := true, lineLength := 1 }]

/-- The diagnostic for a line of a length, under that maximum. -/
def overOne (number length : Nat) : Diagnostic where
  start := ⟨number, 0⟩
  stop := ⟨number, length⟩
  message := "Line exceeds the configured maximum length of 1 characters"
  severity := .warning
  code := "PSAvoidLongLines"
  source := "pslint"

/-- What is published for a text under that maximum. -/
theorem result_publish_oneCharacter {diagnostics : List Diagnostic}
    (sent : Diagnostic.ofRecords .byUri (findingsIn (Strings.shippedFor none) oneCharacter ⟨text, some "/a.ps1"⟩) =
      .ok diagnostics) :
    (publish .byUri (Strings.shippedFor none) oneCharacter "file:///a.ps1" ⟨text, "/a.ps1"⟩).result =
      .ok ⟨"file:///a.ps1", diagnostics⟩ :=
  result_publish_iff.mpr ⟨rfl, _, result_analyze_of_longLines none (areLongLines_ite true _) _, sent⟩

theorem publish_selects_iff_mixed :
    Framework.byUri.TakesPoints ∧ AreLongLines oneCharacter ∧
      (∃ publication, (publish .byUri (Strings.shippedFor none) oneCharacter "file:///a.ps1"
        ⟨"bcé\r\n😀😀", "/a.ps1"⟩).result = .ok publication) ∧
      Client.selected? "bcé\r\n😀😀".toList ⟨0, 0⟩ ⟨0, 3⟩ = some (units "bcé".toList) ∧
      Client.selected? "bcé\r\n😀😀".toList ⟨1, 0⟩ ⟨1, 2⟩ ≠ some (units "😀😀".toList) := by
  have sent : Diagnostic.ofRecords .byUri (findingsIn (Strings.shippedFor none) oneCharacter
      ⟨"bcé\r\n😀😀", some "/a.ps1"⟩) = .ok [overOne 0 3, overOne 1 2] := by
    decide +kernel
  have lines : Text.lines "bcé\r\n😀😀" = ["bcé", "😀😀"] := by decide +kernel
  obtain ⟨records, -, pairs⟩ :=
    publish_selects_iff takesPoints_byUri none (areLongLines_ite true _) (result_publish_oneCharacter sent)
  cases pairs with
  | cons first rest =>
    cases rest with
    | cons second _ =>
      obtain ⟨-, firstLine, -, firstSelects⟩ := first
      obtain ⟨-, secondLine, -, secondSelects⟩ := second
      rw [lines] at firstLine secondLine firstSelects secondSelects
      have basic := firstSelects (by decide +kernel)
      have astral := secondSelects (by decide +kernel)
      unfold Selects at basic astral
      rw [← Option.some.inj firstLine] at basic
      rw [← Option.some.inj secondLine] at astral
      exact ⟨takesPoints_byUri, areLongLines_ite true _, ⟨_, result_publish_oneCharacter sent⟩,
        basic.mpr (by decide +kernel), astral.not.mpr (by decide +kernel)⟩

/-- A line outside the basic plane is selected in part, and so is a line with a carriage return. -/
theorem publish_selects_fragment :
    (∃ record, (analyze (Strings.shippedFor none) oneCharacter ⟨"😀😀", some "/a.ps1"⟩).result = .ok [record] ∧
      (publish .byUri (Strings.shippedFor none) oneCharacter "file:///a.ps1" ⟨"😀😀", "/a.ps1"⟩).result =
        .ok ⟨"file:///a.ps1", [overOne 0 2]⟩ ∧
      Client.selected? "😀😀".toList ⟨0, 0⟩ ⟨0, 2⟩ = some (units "😀".toList) ∧
      ¬ Selects "😀😀" record (overOne 0 2)) ∧
    ∃ record, (analyze (Strings.shippedFor none) oneCharacter ⟨"a\rbcd", some "/a.ps1"⟩).result = .ok [record] ∧
      (publish .byUri (Strings.shippedFor none) oneCharacter "file:///a.ps1" ⟨"a\rbcd", "/a.ps1"⟩).result =
        .ok ⟨"file:///a.ps1", [overOne 0 5]⟩ ∧
      Client.selected? "a\rbcd".toList ⟨0, 0⟩ ⟨0, 5⟩ = some (units "a".toList) ∧
      ¬ Selects "a\rbcd" record (overOne 0 5) := by
  refine ⟨⟨LongLines.finding (LongLines.shippedMessage 1) LongLines.shippedName (some "/a.ps1") 1 "😀😀", ?_⟩,
    LongLines.finding (LongLines.shippedMessage 1) LongLines.shippedName (some "/a.ps1") 1 "a\rbcd", ?_⟩
  all_goals
    refine ⟨by decide +kernel, result_publish_oneCharacter (by decide +kernel), by decide +kernel, ?_⟩
    unfold Selects
    decide +kernel

end Samples

end ScriptLint.Server
