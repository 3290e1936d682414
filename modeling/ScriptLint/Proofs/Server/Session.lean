import Mathlib
import ScriptLint.Proofs.Server.Course

/-! # What sessions publish

A session whose starts all load their configuration takes the course that its steps decide: each step
publishes what the history says, and a step that fails publishes nothing and changes nothing.
-/

namespace ScriptLint.Server

variable {framework : Framework} {naming : Naming} {preferred : Option String} {strings : Strings}
variable {workspace : Workspace} {state : State framework} {done steps : List Step} {step : Step} {uri text : String}
variable {publication : Publication}

section Steps

/-- What a state keeps of the steps that led to it. -/
structure Reflects (strings : Strings) (workspace : Workspace) (done : List Step) (state : State framework) : Prop where
  files : state.workspace = filesNow workspace done
  rules : (configuredRules strings (filesAtStart workspace done)).result = .ok state.rules
  documents : state.documents = framework.after done

theorem reflects_start (started : (start framework strings workspace).result = .ok state) :
    Reflects strings workspace [] state := by
  obtain ⟨rules, configured, same⟩ := Traced.result_bind_eq_ok_iff.mp started
  obtain rfl := Except.ok.inj same
  exact ⟨rfl, configured, rfl⟩

/-- A step that is about a document is kept in the documents alone. -/
theorem Reflects.concat_of_about (reflects : Reflects strings workspace done state) (about : step.uri? = some uri)
    {documents : framework.Documents} (same : framework.received state.documents step = documents) :
    Reflects strings workspace (done ++ [step]) { state with documents } := by
  have kept : step.isRestart = false ∧ step.filesAfter (filesNow workspace done) = filesNow workspace done := by
    cases step with
    | written | restarted => contradiction
    | _ => exact ⟨rfl, rfl⟩
  refine ⟨?_, ?_, ?_⟩
  · rw [filesNow_concat, kept.2]
    exact reflects.files
  · rw [filesAtStart_concat, kept.1]
    exact reflects.rules
  · rw [Framework.after_concat, ← reflects.documents]
    exact same.symm

/-- Publishing a document that the framework just took in publishes its analysis, if there is one. -/
theorem Reflects.publishes_told (points : framework.TakesPoints)
    (reflects : Reflects (Strings.shippedFor preferred) workspace done state) (told : step.told? = some (uri, text))
    (taken : naming.Takes done step) {documents : framework.Documents} {file : String}
    (held : framework.document documents uri = .ok ⟨text, file⟩) :
    Publishes framework naming (Strings.shippedFor preferred) workspace done step
      ({ state with documents }.publishAt (Strings.shippedFor preferred) uri).result.toOption := by
  have analysis (publication : Publication) :
      (publish framework (Strings.shippedFor preferred) state.rules uri ⟨text, file⟩).result = .ok publication ↔
        IsAnalysis framework (Strings.shippedFor preferred) (filesAtStart workspace done) uri text publication := by
    have answer := result_analyze_of_longLines preferred (areLongLines_of_configured reflects.rules) ⟨text, some file⟩
    rw [result_publish_iff, isAnalysis_iff (some file) reflects.rules]
    simp only [answer, Except.ok.injEq, exists_eq_left']
  have whole : ({ state with documents }.publishAt (Strings.shippedFor preferred) uri).result =
      (publish framework (Strings.shippedFor preferred) state.rules uri ⟨text, file⟩).result.map ([·]) := by
    rw [State.publishAt, Traced.bind_of_ok (by rw [held]; rfl), Traced.result_bind]
    cases (publish framework (Strings.shippedFor preferred) state.rules uri ⟨text, file⟩).result <;> rfl
  rw [whole]
  cases published : (publish framework (Strings.shippedFor preferred) state.rules uri ⟨text, file⟩).result with
  | ok publication => exact .told told taken ((analysis publication).mp published)
  | error cause =>
    refine .unfit told fun fits => ?_
    obtain ⟨publication, also⟩ := (exists_isAnalysis_iff points uri text reflects.rules).mpr fits
    rw [← analysis, published] at also
    contradiction

/-- What a step publishes, and what the state keeps of it. -/
theorem Reflects.publishes (keeps : framework.KeepsDocuments naming) (points : framework.TakesPoints)
    (reflects : Reflects (Strings.shippedFor preferred) workspace done state)
    (loads : Loads (filesAtStart workspace (done ++ [step]))) :
    Publishes framework naming (Strings.shippedFor preferred) workspace done step
        (state.step (Strings.shippedFor preferred) step).1.result.toOption ∧
      ∃ next, (state.step (Strings.shippedFor preferred) step).2 = some next ∧
        Reflects (Strings.shippedFor preferred) workspace (done ++ [step]) next := by
  have takes := keeps.takes_iff done step
  have heard := keeps.document done step
  rw [← reflects.documents] at takes heard
  unfold State.step
  cases taken : framework.receive state.documents step with
  | error cause =>
    have refused : ¬ naming.Takes done step := by
      rw [← takes, taken]
      exact Traced.not_exists_error_eq_ok cause
    refine ⟨.refused refused, state, rfl, ?_⟩
    cases about : step.uri? with
    | some uri => exact reflects.concat_of_about about (Framework.received_of_error taken)
    | none =>
      cases step with
      | written | restarted => exact absurd trivial refused
      | _ => contradiction
  | ok documents =>
    have mayTake := takes.mp ⟨documents, taken⟩
    have received := Framework.received_of_ok taken
    cases step with
    | opened uri text | changed uri text =>
      obtain ⟨file, held⟩ := heard uri text documents rfl taken
      exact ⟨reflects.publishes_told points rfl mayTake held, _, rfl, reflects.concat_of_about rfl received⟩
    | closed uri => exact ⟨.closed, _, rfl, reflects.concat_of_about rfl received⟩
    | written location content =>
      obtain rfl := Except.ok.inj taken
      refine ⟨.written, _, rfl, ?_, ?_, ?_⟩
      · rw [filesNow_concat, ← reflects.files]
        rfl
      · rw [filesAtStart_concat]
        exact reflects.rules
      · rw [Framework.after_concat, ← reflects.documents]
        rfl
    | restarted =>
      obtain rfl := Except.ok.inj taken
      have files : filesAtStart workspace (done ++ [.restarted]) = state.workspace := by
        rw [filesAtStart_concat, reflects.files]
        rfl
      obtain ⟨rules, configured, -⟩ := result_configuredRules_of_loads preferred loads
      rw [files] at configured
      simp only [State.handle, configured]
      refine ⟨.restarted, _, rfl, ?_, ?_, ?_⟩
      · rw [filesNow_concat]
        exact reflects.files
      · rw [files]
        exact configured
      · rw [Framework.after_concat, ← reflects.documents]
        rfl

end Steps

section Runs

/-- What the steps of a session publish, as far as they do not fail. -/
def published (outcomes : List (Traced (List Publication))) : List (Option (List Publication)) :=
  outcomes.map fun outcome => outcome.result.toOption

/-- A run takes the course that its steps decide. -/
theorem Reflects.run (keeps : framework.KeepsDocuments naming) (points : framework.TakesPoints)
    (reflects : Reflects (Strings.shippedFor preferred) workspace done state)
    (loads : StartsLoad workspace done steps) :
    Course framework naming (Strings.shippedFor preferred) workspace done steps
      (published (state.run (Strings.shippedFor preferred) steps)) := by
  induction steps generalizing done state with
  | nil => exact .nil
  | cons step rest ih =>
    have afterwards : StartsLoad workspace (done ++ [step]) rest := loads.drop
    obtain ⟨publishes, next, after, kept⟩ := reflects.publishes keeps points afterwards.now
    have later := ih kept afterwards
    have whole : state.run (Strings.shippedFor preferred) (step :: rest) =
        (state.step (Strings.shippedFor preferred) step).1 :: next.run (Strings.shippedFor preferred) rest := by
      rw [State.run]
      split
      next outcome gone =>
        rw [gone] at after
        contradiction
      next outcome other goesOn =>
        rw [goesOn] at after ⊢
        rw [Option.some.inj after]
    rw [whole, published, List.map_cons]
    exact .cons publishes later

/-- A session whose starts load their configuration takes the course that its steps decide. -/
theorem session_course (preferred : Option String) (keeps : framework.KeepsDocuments naming)
    (points : framework.TakesPoints) (loads : StartsLoad workspace [] steps) :
    ∃ outcomes, (session framework (Strings.shippedFor preferred) workspace steps).result = .ok outcomes ∧
      Course framework naming (Strings.shippedFor preferred) workspace [] steps
        (published outcomes) := by
  obtain ⟨rules, configured, -⟩ := result_configuredRules_of_loads preferred loads.now
  have started : (start framework (Strings.shippedFor preferred) workspace).result =
      .ok { workspace, rules, documents := framework.empty } :=
    Traced.result_bind_eq_ok_iff.mpr ⟨rules, configured, rfl⟩
  exact ⟨_, Traced.result_bind_eq_ok_iff.mpr ⟨_, started, rfl⟩, (reflects_start started).run keeps points loads⟩

end Runs

section Samples

/-- A configuration that enables the rule with a maximum of one character. -/
def limiting : String := "tool.pslint.rules.PSAvoidLongLines=\x7bEnable=true,LineLength=1\x7d"

def strict : Workspace := ⟨⟨[([Config.fileName], .file (Text.Utf8.encode limiting))]⟩, []⟩

/-- What that configuration says, wherever it is found. -/
theorem result_load_limiting {path : Path} {location : Location}
    (closest : Config.closest? workspace workspace.currentPath = .ok (some path))
    (leads : workspace.find path = .ok (location, .file (Text.Utf8.encode limiting))) :
    (Config.load workspace none).result =
      .ok { options := [(LongLines.shippedKey, [("Enable", .bool true), ("LineLength", .int 1)])] } := by
  have parsed : Config.document (Text.Utf8.encode limiting) = .ok (some
      [("tool", .table [("pslint", .table [("rules", .table
        [("PSAvoidLongLines", .table [("Enable", .boolean true), ("LineLength", .integer 1)])])])])]) := by
    cbv
  exact Config.result_load closest leads parsed (by decide +kernel)

theorem result_configuredRules_limiting {path : Path} {location : Location}
    (closest : Config.closest? workspace workspace.currentPath = .ok (some path))
    (leads : workspace.find path = .ok (location, .file (Text.Utf8.encode limiting))) :
    (configuredRules (Strings.shippedFor none) workspace).result =
      .ok [.longLines { enable := true, lineLength := 1 }] := by
  rw [result_configuredRules_of_load none (result_load_limiting closest leads)]
  rfl

/-- A second line of two characters as a diagnostic. -/
def secondLine : Diagnostic where
  start := ⟨1, 0⟩
  stop := ⟨1, 2⟩
  message := "Line exceeds the configured maximum length of 1 characters"
  severity := .warning
  code := "PSAvoidLongLines"
  source := "pslint"

/-- A document is opened and changed while the configuration is emptied, and another one is closed and then
changed. -/
def edited : List Step :=
  [.opened "file:///a.ps1" "a", .written [Config.fileName] (.file []), .changed "file:///a.ps1" "é\r\nab",
    .closed "file:///b.ps1", .changed "file:///b.ps1" "ab"]

end Samples

end ScriptLint.Server
