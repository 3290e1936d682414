import ScriptLint.Proofs.Check.Findings
import ScriptLint.Proofs.Server.Session
import ScriptLint.Proofs.Text.Terminal
import ScriptLint.Proofs.Text.Utf8

/-! # The command and the server agree

Checking a file and opening it in the server report the same: for every diagnostic one line, at the same
place counted from one, with the same rule and message. Neither the byte order mark of the file nor the
URI under which the document is opened makes a difference, nor how lines are printed, as long as nothing
but terminal sequences is left out. Where the configuration keeps the server from starting, the command
ends for the same reason and prints nothing.
-/

namespace ScriptLint

/-- The line for a remark about the file at a path. -/
def Remark.lineIn (remark : Remark) (path : Path) : String :=
  path.toString ++ ":" ++ (toString remark.line ++ ":" ++ toString remark.column ++ ": " ++
    remark.ruleName ++ " " ++ remark.message)

theorem Record.lineIn_eq (record : Record) (path : Path) : record.lineIn path = record.remark.lineIn path := by
  simp only [lineIn, Remark.lineIn, remark, String.append_assoc]

def Transcript.printed (print : String → String) (transcript : Transcript) : List String :=
  transcript.events.filterMap (Event.outputLine? print)

theorem Transcript.printed_eq_shown (print : String → String) (transcript : Transcript) :
    transcript.printed print = transcript.shown.filterMap (Event.outputLine? print) :=
  (filterMap_shown (fun _ => rfl) transcript).symm

namespace Server

variable {framework : Framework} {naming : Naming} {print : String → String} {preferred : Option String}
variable {strings : Strings} {workspace : Workspace} {rules : List Rule} {path : Path} {location : Location}
variable {bytes : List UInt8} {uri text : String}

namespace Diagnostic

/-- The line that is printed for a diagnostic of the file at a path. -/
def lineIn (print : String → String) (diagnostic : Diagnostic) (path : Path) : String :=
  print path.toString ++ ":" ++ (toString (diagnostic.start.line + 1) ++ ":" ++
    toString (diagnostic.start.character + 1) ++ ": " ++ diagnostic.code ++ " " ++ diagnostic.message)

/-- Where no terminal sequence starts in the texts of a diagnostic, its line is printed as it is. -/
theorem print_lineIn (spares : Text.Terminal.Spares print) {diagnostic : Diagnostic} (path : Path)
    (code : Text.Terminal.escape ∉ diagnostic.code.toList)
    (message : Text.Terminal.escape ∉ diagnostic.message.toList) :
    print (diagnostic.remark.lineIn path) = diagnostic.lineIn print path := by
  have line : toString diagnostic.remark.line = toString (diagnostic.start.line + 1) := rfl
  have column : toString diagnostic.remark.column = toString (diagnostic.start.character + 1) := rfl
  unfold Remark.lineIn
  rw [spares.append_colon, line, column]
  · rfl
  · rw [line, column]
    simp only [String.toList_append, List.mem_append, not_or]
    exact ⟨⟨⟨⟨⟨⟨Text.Terminal.escape_not_mem_nat _, by decide⟩, Text.Terminal.escape_not_mem_nat _⟩,
      by decide⟩, code⟩, by decide⟩, message⟩

end Diagnostic

section Command

theorem result_rules_none (strings : Strings) (workspace : Workspace) :
    (Check.rules strings workspace none).result = (configuredRules strings workspace).result := by
  simp only [Check.rules, Check.withLineLength, configuredRules, Traced.result_bind]
  cases (Config.load workspace none).result <;> rfl

theorem find?_hasNull_of_find {content : Content} (leads : workspace.find path = .ok (location, content)) :
    [path].find? Path.hasNull = none := by
  refine List.find?_eq_none.mpr fun other member => ?_
  rw [List.mem_singleton.mp member, Workspace.hasNull_of_find leads]
  exact Bool.false_ne_true

theorem targets_of_file (leads : workspace.find path = .ok (location, .file bytes)) :
    Check.targets workspace [path] = .ok [path] := by
  have undirected : workspace.directory? path = .ok none := by
    simp only [Workspace.directory?, Workspace.probe, leads, Except.map]
  simp only [Check.targets, Check.expandAll, Check.expand, undirected, Except.map, List.append_nil,
    Check.distinctFrom, List.not_mem_nil, ↓reduceIte]

/-- Without rules the command breaks off. -/
theorem run_of_unconfigured {cause : Failure} (print : String → String)
    (leads : workspace.find path = .ok (location, .file bytes))
    (fails : (configuredRules strings workspace).result = .error cause) :
    (Check.run strings workspace none [path]).crash = some cause ∧
      (Check.run strings workspace none [path]).printed print = [] := by
  rw [← result_rules_none] at fails
  simp only [Check.run, find?_hasNull_of_find leads, Transcript.follow, fails, Transcript.printed, true_and]
  rw [List.filterMap_map]
  exact List.filterMap_eq_nil_iff.mpr fun _ _ => rfl

/-- The command prints the findings in a file that holds a text. -/
theorem run_of_configured (print : String → String) (leads : workspace.find path = .ok (location, .file bytes))
    (read : Text.Utf8.decode (Text.Utf8.withoutMark bytes) = .ok text)
    (configured : (configuredRules (Strings.shippedFor preferred) workspace).result = .ok rules) :
    (Check.run (Strings.shippedFor preferred) workspace none [path]).crash = none ∧
      (Check.run (Strings.shippedFor preferred) workspace none [path]).printed print =
        ((findingsIn (Strings.shippedFor preferred) rules ⟨text, some path.toString⟩).map Record.remark).map
          fun remark => print (remark.lineIn path) := by
  have clean : path.hasNull = false := Workspace.hasNull_of_find leads
  have loaded : Script.load workspace path = .ok ⟨text, some path.toString⟩ := by
    simp only [Script.load, Workspace.read, leads, Script.ofBytes, read]
  have shown := @Check.shown_files preferred workspace rules [path] (areLongLines_of_configured configured)
    (List.forall_mem_singleton.mpr clean)
  rw [← result_rules_none] at configured
  simp only [Check.run, find?_hasNull_of_find leads, Transcript.follow, configured, targets_of_file leads]
  refine ⟨shown.1, ?_⟩
  rw [Transcript.printed_eq_shown, Transcript.shown_after_logged, shown.2, List.flatMap_singleton]
  simp only [Check.shownFor, Check.recordsAt, Check.loadFailure?, loaded, Option.toList_none, List.map_nil,
    List.append_nil, List.filterMap_map, List.map_map]
  rw [← List.filterMap_eq_map]
  exact List.filterMap_congr fun record _ => congrArg (some <| print ·) (record.lineIn_eq path)

end Command

section Opening

/-- The lines for the findings in a script are those for its diagnostics. -/
theorem map_print_lineIn (points : framework.TakesPoints) (spares : Text.Terminal.Spares print) {script : Script}
    {diagnostics : List Diagnostic} (longLines : AreLongLines rules)
    (sent : Diagnostic.ofRecords framework (findingsIn (Strings.shippedFor preferred) rules script) = .ok diagnostics)
    (path : Path) :
    ((findingsIn (Strings.shippedFor preferred) rules script).map Record.remark).map
        (fun remark => print (remark.lineIn path)) =
      diagnostics.map fun diagnostic => diagnostic.lineIn print path := by
  have remarks := Diagnostic.map_remark_of_ofRecords points sent
  rw [← remarks, List.map_map]
  refine List.map_congr_left fun diagnostic member => ?_
  have reported : diagnostic.remark ∈ (findingsIn (Strings.shippedFor preferred) rules script).map Record.remark :=
    remarks ▸ List.mem_map_of_mem member
  obtain ⟨record, found, same⟩ := List.mem_map.mp reported
  obtain ⟨own, -, -, -, index, line, -, -, rfl⟩ := (mem_findingsIn_iff longLines).mp found
  have code : LongLines.shippedName = diagnostic.code := congrArg Remark.ruleName same
  have message : LongLines.shippedMessage own.lineLength = diagnostic.message := congrArg Remark.message same
  exact Diagnostic.print_lineIn spares path (code ▸ Text.Terminal.escape_not_mem_shippedName)
    (message ▸ Text.Terminal.escape_not_mem_shippedMessage _)

/-- Opening a document that the framework takes publishes its analysis exactly if the text fits, or fails. -/
theorem session_opened (keeps : framework.KeepsDocuments naming) (points : framework.TakesPoints)
    (configured : (configuredRules (Strings.shippedFor preferred) workspace).result = .ok rules)
    (names : naming.isUri uri = true) (text : String) :
    ∃ outcome, (session framework (Strings.shippedFor preferred) workspace [.opened uri text]).result = .ok [outcome] ∧
      (outcome.result.toOption.isSome = true ↔ Fits (Strings.shippedFor preferred) workspace text) ∧
      ∀ publications, outcome.result = .ok publications → ∃ publication, publications = [publication] ∧
        IsAnalysis framework (Strings.shippedFor preferred) workspace uri text publication := by
  have loads : StartsLoad workspace [] [.opened uri text] :=
    .of_goesOn (loads_of_configured configured) (List.forall_mem_singleton.mpr rfl)
  obtain ⟨outcomes, ran, course⟩ := session_course preferred keeps points loads
  obtain ⟨outcome, rfl⟩ : ∃ outcome, outcomes = [outcome] :=
    List.length_eq_one_iff.mp ((List.length_map _).symm.trans course.length_eq)
  rw [published, List.map_singleton] at course
  cases course with
  | cons publishes later =>
    refine ⟨outcome, ran, ?_, fun publications success => ?_⟩
    · rw [publishes.isSome_iff points loads.now]
      refine ⟨fun answered => answered.2 uri text rfl, fun fits => ⟨names, fun _ _ told => ?_⟩⟩
      obtain ⟨rfl, rfl⟩ := Prod.mk.inj (Option.some.inj told)
      exact fits
    · rw [success] at publishes
      generalize heard : (Except.ok publications : Except Failure (List Publication)).toOption = given at publishes
      cases publishes with
      | told told taken analysis =>
        obtain ⟨rfl, rfl⟩ := Prod.mk.inj (Option.some.inj told)
        exact ⟨_, Option.some.inj heard, analysis⟩
      | refused | unfit => contradiction

end Opening

/-- Checking a file prints one line for each diagnostic that the server publishes on opening its text, over any
framework that keeps documents and takes points. The server publishes unless something reported lies outside the
points of a document, which takes a text with more characters than these. -/
theorem run_agrees_with_session (keeps : framework.KeepsDocuments naming) (points : framework.TakesPoints)
    (spares : Text.Terminal.Spares print) (preferred : Option String)
    (leads : workspace.find path = .ok (location, .file bytes)) (stored : Text.Utf8.IsStored text bytes)
    (unmarked : text.toList.head? ≠ some Text.Utf8.mark) :
    (∀ cause, (configuredRules (Strings.shippedFor preferred) workspace).result = .error cause →
      (Check.run (Strings.shippedFor preferred) workspace none [path]).crash = some cause ∧
        (Check.run (Strings.shippedFor preferred) workspace none [path]).printed print = [] ∧
        ∀ steps, (session framework (Strings.shippedFor preferred) workspace steps).result = .error cause) ∧
    (∀ rules, (configuredRules (Strings.shippedFor preferred) workspace).result = .ok rules →
      (Check.run (Strings.shippedFor preferred) workspace none [path]).crash = none ∧
      ∀ uri, naming.isUri uri = true →
        ∃ outcome, (session framework (Strings.shippedFor preferred) workspace [.opened uri text]).result =
            .ok [outcome] ∧
          ((∃ publications, outcome.result = .ok publications) ↔ Fits (Strings.shippedFor preferred) workspace text) ∧
          ∀ publications, outcome.result = .ok publications →
            ∃ diagnostics, publications = [⟨uri, diagnostics⟩] ∧
              (Check.run (Strings.shippedFor preferred) workspace none [path]).printed print =
                diagnostics.map fun diagnostic => diagnostic.lineIn print path) ∧
    (text.length ≤ maxCoordinate → Fits (Strings.shippedFor preferred) workspace text) ∧
    ∀ rest, naming.isUri ("file:///" ++ rest) = true := by
  refine ⟨fun cause fails => ?_, fun rules configured => ?_, fits_of_length_le _ _, keeps.local_file⟩
  · obtain ⟨crash, printed⟩ := run_of_unconfigured print leads fails
    refine ⟨crash, printed, fun steps => ?_⟩
    simp only [session, start, Traced.result_bind, fails, Except.bind]
  have read := Text.Utf8.decode_of_isStored stored unmarked
  obtain ⟨complete, printed⟩ := run_of_configured print leads read configured
  refine ⟨complete, fun uri names => ?_⟩
  obtain ⟨outcome, ran, fits, sent⟩ := session_opened keeps points configured names text
  refine ⟨outcome, ran, ?_, fun publications success => ?_⟩
  · rw [← fits]
    cases outcome.result with
    | ok publications => exact iff_of_true ⟨_, rfl⟩ rfl
    | error cause => exact iff_of_false (Traced.not_exists_error_eq_ok cause) Bool.false_ne_true
  · obtain ⟨⟨_, diagnostics⟩, rfl, analysis⟩ := sent publications success
    obtain ⟨rfl, reported⟩ := (isAnalysis_iff (some path.toString) configured).mp analysis
    have longLines := areLongLines_of_configured configured
    exact ⟨diagnostics, rfl, by rw [printed, map_print_lineIn points spares longLines reported]⟩

section Samples

/-- A configuration next to a script whose bytes start with a byte order mark. -/
def marked : Workspace where
  tree := ⟨[([Config.fileName], .file (Text.Utf8.encode limiting)),
    (["a.ps1"], .file (String.utf8EncodeChar Text.Utf8.mark ++ Text.Utf8.encode "é\r\nab"))]⟩
  directory := []

/-- Lines that are printed as they are. -/
theorem spares_id : Text.Terminal.Spares id where
  plain _ _ := rfl
  apart _ _ := rfl

theorem run_agrees_with_session_marked :
    ∃ outcome,
      (session .byUri (Strings.shippedFor none) marked [.opened "file:///a.ps1" "é\r\nab"]).result =
        .ok [outcome] ∧
      outcome.result = .ok [⟨"file:///a.ps1", [secondLine]⟩] ∧
      (Check.run (Strings.shippedFor none) marked none [⟨"", ["a.ps1"]⟩]).printed id =
        ["a.ps1:2:1: PSAvoidLongLines Line exceeds the configured maximum length of 1 characters"] := by
  have closest : Config.closest? marked marked.currentPath = .ok (some ⟨"/", [Config.fileName]⟩) := rfl
  have configured : (configuredRules (Strings.shippedFor none) marked).result =
      .ok [.longLines { enable := true, lineLength := 1 }] := result_configuredRules_limiting closest rfl
  have leads : marked.find ⟨"", ["a.ps1"]⟩ =
      .ok (["a.ps1"], .file (String.utf8EncodeChar Text.Utf8.mark ++ Text.Utf8.encode "é\r\nab")) := rfl
  obtain ⟨-, answers, short, -⟩ :=
    run_agrees_with_session keepsDocuments_byUri takesPoints_byUri spares_id none leads (.inr rfl) (by decide)
  have isUri : Naming.byUri.isUri "file:///a.ps1" = true := by decide +kernel
  obtain ⟨outcome, ran, fits, agrees⟩ := (answers _ configured).2 "file:///a.ps1" isUri
  obtain ⟨publications, success⟩ := fits.mpr (short (by decide))
  obtain ⟨diagnostics, rfl, printed⟩ := agrees publications success
  obtain ⟨_, ran', -, analysed⟩ := session_opened keepsDocuments_byUri takesPoints_byUri configured isUri "é\r\nab"
  obtain rfl := List.singleton_inj.mp (Except.ok.inj (ran.symm.trans ran'))
  obtain ⟨_, alone, analysis⟩ := analysed _ success
  obtain rfl := List.singleton_inj.mp alone
  have reported := ((isAnalysis_iff none configured).mp analysis).2
  obtain rfl : [secondLine] = diagnostics := Except.ok.inj <| Eq.trans (by decide +kernel) reported
  exact ⟨outcome, ran, success, printed.trans (by decide +kernel)⟩

end Samples

end Server

end ScriptLint
