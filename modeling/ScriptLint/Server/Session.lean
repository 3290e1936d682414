import ScriptLint.Config.Load
import ScriptLint.Analysis
import ScriptLint.Server.Diagnostic

/-! # Sessions of the language server

A server holds the rules that the configuration gave when it was started. Once the framework has taken
in that a document was opened or changed, the diagnostics of its text are published, and an empty list
once it has taken in that a document was closed. A notification that fails, be it in the framework or in
the program, publishes nothing, and the session goes on. Files may change while a session runs, but the
configuration is read again only by a restart, which leaves documents open. A server that cannot be started
again is gone.
-/

namespace ScriptLint.Server

inductive Step where
  | opened (uri text : String)
  | changed (uri text : String)
  | closed (uri : String)
  | written (location : Location) (content : Content)
  | restarted

/-- Diagnostics that are sent to the client. -/
structure Publication where
  uri : String
  /-- Its diagnostics, in place of all earlier ones. -/
  diagnostics : List Diagnostic
  deriving DecidableEq, Repr

/-- What the framework makes of a step before the program hears of it. -/
def Framework.receive (framework : Framework) (documents : framework.Documents) :
    Step → Except Failure framework.Documents
  | .opened uri text => framework.opened documents uri text
  | .changed uri text => framework.changed documents uri text
  | .closed uri => framework.closed documents uri
  | .written .. => .ok documents
  | .restarted => .ok documents

/-- A running server. -/
structure State (framework : Framework) where
  workspace : Workspace
  /-- The rules, as configured at the last start. -/
  rules : List Rule
  documents : framework.Documents

/-- The rules that the configuration of the working directory gives. -/
def configuredRules (strings : Strings) (workspace : Workspace) : Traced (List Rule) := do
  let config ← Config.load workspace none
  config.apply strings Rule.builtin

def start (framework : Framework) (strings : Strings) (workspace : Workspace) :
    Traced (State framework) := do
  let rules ← configuredRules strings workspace
  return { workspace, rules, documents := framework.empty }

def publish (framework : Framework) (strings : Strings) (rules : List Rule) (uri : String)
    (document : Document) : Traced Publication := do
  let records ← analyze strings rules ⟨document.text, some document.file⟩
  Traced.note (.publishing records.length uri)
  return ⟨uri, ← Traced.ofResult (Diagnostic.ofRecords framework records)⟩

namespace State

variable {framework : Framework}

/-- Publish the document at a URI as it is now. -/
def publishAt (strings : Strings) (state : State framework) (uri : String) :
    Traced (List Publication) := do
  let document ← Traced.ofResult (framework.document state.documents uri)
  return [← publish framework strings state.rules uri document]

/-- What a step that the framework has taken in publishes, and the state after it if there still is a server. -/
def handle (strings : Strings) (state : State framework) :
    Step → Traced (List Publication) × Option (State framework)
  | .opened uri _ => (state.publishAt strings uri, state)
  | .changed uri _ => (state.publishAt strings uri, state)
  | .closed uri => (pure [⟨uri, []⟩], state)
  | .written location content =>
    (pure [], some { state with workspace := state.workspace.write location content })
  | .restarted =>
    let configured := configuredRules strings state.workspace
    match configured.result with
    | .error cause => (⟨configured.log, .error cause⟩, none)
    | .ok rules => (⟨configured.log, .ok []⟩, some { state with rules })

/-- What a step publishes, and the state after it. -/
def step (strings : Strings) (state : State framework) (step : Step) :
    Traced (List Publication) × Option (State framework) :=
  match framework.receive state.documents step with
  | .error cause => (Traced.fail cause, state)
  | .ok documents => { state with documents }.handle strings step

/-- What each step of a session publishes, or why it fails. -/
def run (strings : Strings) (state : State framework) : List Step → List (Traced (List Publication))
  | [] => []
  | step :: rest =>
    match state.step strings step with
    | (outcome, none) => [outcome]
    | (outcome, some next) => outcome :: next.run strings rest

end State

/-- What each step of a session publishes, from the start of the server on. -/
def session (framework : Framework) (strings : Strings) (workspace : Workspace) (steps : List Step) :
    Traced (List (Traced (List Publication))) := do
  let state ← start framework strings workspace
  return state.run strings steps

end ScriptLint.Server
