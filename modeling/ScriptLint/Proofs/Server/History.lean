import Mathlib.Data.List.DropRight
import ScriptLint.Server.Session

/-! # Histories of sessions

What a session has come to can be read off the steps that were taken: the files as they are, the files
as they were at the latest start of the server, and whether a document is open. A step adds to one of
these at most, and the steps about some documents say nothing about any other.
-/

namespace ScriptLint.Server

/-- How URIs stand for documents. -/
structure Naming where
  /-- Whether a text is a URI that names a file. -/
  isUri : String → Bool
  /-- The name of a document, the same for all its URIs. -/
  name : String → String

namespace Step

def uri? : Step → Option String
  | .opened uri _ => some uri
  | .changed uri _ => some uri
  | .closed uri => some uri
  | .written .. => none
  | .restarted => none

/-- The URI and the text of a document that a step opens or changes. -/
def told? : Step → Option (String × String)
  | .opened uri text => some (uri, text)
  | .changed uri text => some (uri, text)
  | _ => none

def isRestart : Step → Bool
  | .restarted => true
  | _ => false

def filesAfter (workspace : Workspace) : Step → Workspace
  | .written location content => workspace.write location content
  | _ => workspace

/-- What a step says about the document of a name: that it is open from now on, or that it is not. -/
def opening? (naming : Naming) (name : String) : Step → Option Bool
  | .opened uri _ => if naming.isUri uri = true ∧ naming.name uri = name then some true else none
  | .closed uri => if naming.name uri = name then some false else none
  | _ => none

/-- Whether a step is about one of some URIs, or about none at all. -/
def concerns (keep : String → Bool) (step : Step) : Bool :=
  match step.uri? with
  | some uri => keep uri
  | none => true

theorem uri?_of_told {step : Step} {uri text : String} (told : step.told? = some (uri, text)) :
    step.uri? = some uri := by
  cases step with
  | opened | changed =>
    obtain ⟨rfl, rfl⟩ := Prod.mk.inj (Option.some.inj told)
    rfl
  | _ => contradiction

end Step

def filesNow (workspace : Workspace) (done : List Step) : Workspace :=
  done.foldl Step.filesAfter workspace

/-- The files as they were at the latest start of the server. -/
def filesAtStart (workspace : Workspace) (done : List Step) : Workspace :=
  filesNow workspace (done.rdropWhile fun step => !step.isRestart)

/-- Whether the document of a name is open after steps: it was opened and not closed since. -/
def Naming.isOpen (naming : Naming) (name : String) (done : List Step) : Bool :=
  ((done.filterMap (Step.opening? naming name)).getLast?).getD false

/-- Whether a step can be taken after other steps: URIs of documents that are opened name files, and only
open documents are changed. -/
def Naming.Takes (naming : Naming) (done : List Step) : Step → Prop
  | .opened uri _ => naming.isUri uri = true
  | .changed uri _ => naming.isOpen (naming.name uri) done = true
  | _ => True

instance (naming : Naming) (done : List Step) : (step : Step) → Decidable (naming.Takes done step)
  | .opened uri _ => inferInstanceAs (Decidable (naming.isUri uri = true))
  | .changed uri _ => inferInstanceAs (Decidable (naming.isOpen (naming.name uri) done = true))
  | .closed _ => .isTrue trivial
  | .written .. => .isTrue trivial
  | .restarted => .isTrue trivial

section Concat
variable (workspace : Workspace) (done : List Step) (step : Step)

theorem filesNow_concat : filesNow workspace (done ++ [step]) = step.filesAfter (filesNow workspace done) := by
  rw [filesNow, List.foldl_append]
  rfl

theorem filesAtStart_concat :
    filesAtStart workspace (done ++ [step]) =
      if step.isRestart then filesNow workspace done else filesAtStart workspace done := by
  unfold filesAtStart
  rw [List.rdropWhile_concat]
  cases step with
  | restarted => exact filesNow_concat workspace done .restarted
  | _ => rfl

/-- The latest start stays the latest until the next one. -/
theorem filesAtStart_append {more : List Step} (goesOn : ∀ step ∈ more, step.isRestart = false) :
    filesAtStart workspace (done ++ more) = filesAtStart workspace done := by
  induction more using List.reverseRecOn with
  | nil => rw [List.append_nil]
  | append_singleton more step ih =>
    obtain ⟨others, own⟩ := List.forall_mem_append.mp goesOn
    rw [← List.append_assoc, filesAtStart_concat, own step (List.mem_singleton.mpr rfl), ih others]
    rfl

theorem isOpen_concat (naming : Naming) (name : String) :
    naming.isOpen name (done ++ [step]) = (step.opening? naming name).getD (naming.isOpen name done) := by
  unfold Naming.isOpen
  rw [List.filterMap_append]
  cases said : step.opening? naming name with
  | none =>
    rw [List.filterMap_cons_none said, List.filterMap_nil, List.append_nil]
    rfl
  | some now =>
    rw [List.filterMap_cons_some said, List.filterMap_nil, List.getLast?_concat]
    rfl

end Concat

section Filter
variable (keep : String → Bool) (workspace : Workspace) (done : List Step)

/-- A step about a document that is left out is no restart and writes nothing. -/
theorem exists_uri_of_not_concerns {keep : String → Bool} {step : Step} (dropped : step.concerns keep = false) :
    (∃ uri, step.uri? = some uri ∧ keep uri = false) ∧ step.isRestart = false ∧
      ∀ workspace, step.filesAfter workspace = workspace := by
  cases step with
  | opened uri | changed uri | closed uri => exact ⟨⟨uri, rfl, dropped⟩, rfl, fun _ => rfl⟩
  | written | restarted => exact absurd dropped.symm Bool.false_ne_true

theorem filesNow_filter : filesNow workspace (done.filter (Step.concerns keep)) = filesNow workspace done := by
  induction done using List.reverseRecOn with
  | nil => rfl
  | append_singleton done step ih =>
    rw [List.filter_append, filesNow_concat]
    cases concerned : step.concerns keep with
    | true => rw [List.filter_cons_of_pos concerned, List.filter_nil, filesNow_concat, ih]
    | false =>
      obtain ⟨-, -, unwritten⟩ := exists_uri_of_not_concerns concerned
      rw [List.filter_cons_of_neg (Bool.eq_false_iff.mp concerned), List.filter_nil, List.append_nil, ih, unwritten]

theorem filesAtStart_filter :
    filesAtStart workspace (done.filter (Step.concerns keep)) = filesAtStart workspace done := by
  induction done using List.reverseRecOn with
  | nil => rfl
  | append_singleton done step ih =>
    rw [List.filter_append, filesAtStart_concat]
    cases concerned : step.concerns keep with
    | true =>
      rw [List.filter_cons_of_pos concerned, List.filter_nil, filesAtStart_concat, filesNow_filter, ih]
    | false =>
      obtain ⟨-, goesOn, -⟩ := exists_uri_of_not_concerns concerned
      rw [List.filter_cons_of_neg (Bool.eq_false_iff.mp concerned), List.filter_nil, List.append_nil, ih, goesOn]
      rfl

variable {keep done}

/-- The steps that are left out do not matter to a document whose steps are all kept. -/
theorem isOpen_filter {naming : Naming} {name : String}
    (kept : ∀ step ∈ done, ∀ uri, step.uri? = some uri → naming.name uri = name → keep uri = true) :
    naming.isOpen name (done.filter (Step.concerns keep)) = naming.isOpen name done := by
  unfold Naming.isOpen
  rw [List.filterMap_filter]
  refine congrArg (fun said => said.getLast?.getD false) (List.filterMap_congr fun step member => ?_)
  cases concerned : step.concerns keep with
  | true => rfl
  | false =>
    obtain ⟨⟨uri, about, dropped⟩, -⟩ := exists_uri_of_not_concerns concerned
    have other : naming.name uri ≠ name := fun same => by
      rw [kept step member uri about same] at dropped
      contradiction
    cases step with
    | opened =>
      obtain rfl := Option.some.inj about
      exact (if_neg fun both => other both.2).symm
    | closed =>
      obtain rfl := Option.some.inj about
      exact (if_neg other).symm
    | _ => rfl

/-- Whether a step can be taken is decided by which documents are open. -/
theorem Naming.takes_congr (naming : Naming) {done other : List Step} {step : Step}
    (opened : ∀ name, naming.isOpen name other = naming.isOpen name done) :
    naming.Takes other step ↔ naming.Takes done step := by
  cases step with
  | changed uri text => rw [Naming.Takes, Naming.Takes, opened]
  | _ => rfl

/-- Whether a step can be taken does not depend on the steps about other documents. -/
theorem takes_filter_iff {naming : Naming} {step : Step}
    (kept : ∀ uri, step.uri? = some uri → ∀ earlier ∈ done, ∀ other, earlier.uri? = some other →
      naming.name other = naming.name uri → keep other = true) :
    naming.Takes (done.filter (Step.concerns keep)) step ↔ naming.Takes done step := by
  cases step with
  | changed uri text => rw [Naming.Takes, Naming.Takes, isOpen_filter (kept uri rfl)]
  | _ => rfl

end Filter

end ScriptLint.Server
