import ScriptLint.Proofs.Server.History
import ScriptLint.Proofs.Traced

/-! # What is relied on

A server relies on two things. Its framework keeps documents: it takes in every step that can be taken and no
other, and has the text of a document that was just opened or changed. And it takes the points that the
protocol has, as they are, and no others.
-/

namespace ScriptLint.Server

/-- The greatest line and the greatest character that a point can have in the protocol. -/
def maxCoordinate : Nat := 0x7fffffff

namespace Framework

variable (framework : Framework)

/-- The documents after a step. One that is not taken in leaves them as they are. -/
def received (documents : framework.Documents) (step : Step) : framework.Documents :=
  match framework.receive documents step with
  | .ok next => next
  | .error _ => documents

def after (done : List Step) : framework.Documents := done.foldl framework.received framework.empty

/-- What a framework makes of the steps of a session. -/
structure KeepsDocuments (naming : Naming) : Prop where
  takes_iff : ∀ done step, (∃ next, framework.receive (framework.after done) step = .ok next) ↔ naming.Takes done step
  document : ∀ done step uri text next, step.told? = some (uri, text) →
    framework.receive (framework.after done) step = .ok next → ∃ file, framework.document next uri = .ok ⟨text, file⟩
  /-- A URI without a host names a file. -/
  local_file : ∀ rest, naming.isUri ("file:///" ++ rest) = true

/-- What a framework makes of the ends of ranges. -/
def TakesPoints : Prop :=
  ∀ line character point, framework.point line character = .ok point ↔
    (point.line = line ∧ point.line ≤ maxCoordinate) ∧ point.character = character ∧ point.character ≤ maxCoordinate

variable {framework} in
theorem received_of_ok {documents next : framework.Documents} {step : Step}
    (taken : framework.receive documents step = .ok next) : framework.received documents step = next := by
  simp only [received, taken]

variable {framework} in
theorem received_of_error {documents : framework.Documents} {step : Step} {cause : Failure}
    (refused : framework.receive documents step = .error cause) : framework.received documents step = documents := by
  simp only [received, refused]

theorem after_concat (done : List Step) (step : Step) :
    framework.after (done ++ [step]) = framework.received (framework.after done) step := by
  rw [after, List.foldl_append]
  rfl

end Framework

section Sample

/-- Every URI without a host names a file, and itself as a document. -/
def Naming.byUri : Naming where
  isUri uri := "file:///".toList.isPrefixOf uri.toList
  name := id

def placed (uri : String) (document? : Option Document) (documents : String → Option Document) :
    String → Option Document :=
  fun other => if uri = other then document? else documents other

/-- A framework that keeps documents by their URIs. -/
def Framework.byUri : Framework where
  Documents := String → Option Document
  empty _ := none
  opened documents uri text :=
    if Naming.byUri.isUri uri then .ok (placed uri (some ⟨text, String.ofList (uri.toList.drop 7)⟩) documents)
    else .error (.framework "ValueError" uri)
  changed documents uri text :=
    match documents uri with
    | none => .error (.framework "KeyError" uri)
    | some document => .ok (placed uri (some { document with text }) documents)
  closed documents uri := .ok (placed uri none documents)
  document documents uri :=
    match documents uri with
    | none => .error (.framework "KeyError" uri)
    | some document => .ok document
  point line character :=
    if (0 ≤ line ∧ line ≤ maxCoordinate) ∧ 0 ≤ character ∧ character ≤ maxCoordinate then
      .ok ⟨line.toNat, character.toNat⟩
    else .error (.framework "ValueError" (toString line))

theorem isSome_placed (uri other : String) (document? : Option Document) (documents : String → Option Document) :
    (placed uri document? documents other).isSome =
      if uri = other then document?.isSome else (documents other).isSome := by
  unfold placed
  split <;> rfl

theorem received_opened_byUri (documents : String → Option Document) (uri text : String) :
    Framework.byUri.received documents (.opened uri text) =
      if Naming.byUri.isUri uri then placed uri (some ⟨text, String.ofList (uri.toList.drop 7)⟩) documents
      else documents := by
  by_cases names : Naming.byUri.isUri uri = true
  · have taken : Framework.byUri.receive documents (.opened uri text) = .ok _ := if_pos names
    rw [if_pos names]
    exact Framework.received_of_ok taken
  · have refused : Framework.byUri.receive documents (.opened uri text) = .error _ := if_neg names
    rw [if_neg names]
    exact Framework.received_of_error refused

theorem received_changed_byUri (documents : String → Option Document) (uri text : String) :
    Framework.byUri.received documents (.changed uri text) =
      match documents uri with
      | none => documents
      | some document => placed uri (some { document with text }) documents := by
  cases held : documents uri with
  | none =>
    have refused : Framework.byUri.receive documents (.changed uri text) = .error (.framework "KeyError" uri) := by
      simp only [Framework.receive, Framework.byUri, held]
    exact Framework.received_of_error refused
  | some document =>
    have taken : Framework.byUri.receive documents (.changed uri text) =
        .ok (placed uri (some { document with text }) documents) := by
      simp only [Framework.receive, Framework.byUri, held]
    exact Framework.received_of_ok taken

/-- A step changes whether a document is there as it says. -/
theorem isSome_received_byUri (documents : String → Option Document) (step : Step) (uri : String) :
    ((Framework.byUri.received documents step : String → Option Document) uri).isSome =
      (step.opening? Naming.byUri uri).getD (documents uri).isSome := by
  cases step with
  | opened other text =>
    have name : Naming.byUri.name other = other := rfl
    rw [received_opened_byUri, Step.opening?, name]
    by_cases names : Naming.byUri.isUri other = true
    · rw [if_pos names, isSome_placed]
      by_cases own : other = uri
      · rw [if_pos own, if_pos ⟨names, own⟩]
        rfl
      · rw [if_neg own, if_neg fun both => own both.2]
        rfl
    · rw [if_neg names, if_neg fun both => names both.1]
      rfl
  | changed other text =>
    rw [received_changed_byUri]
    cases held : documents other with
    | none => rfl
    | some document =>
      refine (isSome_placed ..).trans ?_
      split
      next own =>
        rw [← own, held]
        rfl
      next => rfl
  | closed other =>
    refine (isSome_placed ..).trans ?_
    have name : Naming.byUri.name other = other := rfl
    rw [Step.opening?, name]
    split <;> rfl
  | _ => rfl

theorem isSome_after_byUri (uri : String) (done : List Step) :
    ((Framework.byUri.after done : String → Option Document) uri).isSome = Naming.byUri.isOpen uri done := by
  induction done using List.reverseRecOn with
  | nil => rfl
  | append_singleton done step ih =>
    rw [Framework.after_concat, isOpen_concat, ← ih]
    exact isSome_received_byUri ..

theorem keepsDocuments_byUri : Framework.byUri.KeepsDocuments Naming.byUri where
  takes_iff done step := by
    have isOpen (uri : String) := isSome_after_byUri uri done
    generalize Framework.byUri.after done = documents at isOpen ⊢
    cases step with
    | opened uri text =>
      simp only [Naming.Takes, Framework.receive, Framework.byUri]
      split
      next names => exact iff_of_true ⟨_, rfl⟩ names
      next refused => exact iff_of_false (Traced.not_exists_error_eq_ok _) refused
    | changed uri text =>
      rw [Naming.Takes, ← isOpen]
      simp only [Naming.byUri, id_eq, Framework.receive, Framework.byUri]
      cases (documents : String → Option Document) uri with
      | none => exact iff_of_false (Traced.not_exists_error_eq_ok _) Bool.false_ne_true
      | some document => exact iff_of_true ⟨_, rfl⟩ rfl
    | _ => exact iff_of_true ⟨_, rfl⟩ trivial
  document done step uri text next told taken := by
    generalize Framework.byUri.after done = documents at taken
    have held : ∃ file, (next : String → Option Document) uri = some ⟨text, file⟩ := by
      cases step with
      | opened other given =>
        obtain ⟨rfl, rfl⟩ := Prod.mk.inj (Option.some.inj told)
        simp only [Framework.receive, Framework.byUri] at taken
        split at taken
        · obtain rfl := Except.ok.inj taken
          exact ⟨_, if_pos rfl⟩
        · contradiction
      | changed other given =>
        obtain ⟨rfl, rfl⟩ := Prod.mk.inj (Option.some.inj told)
        simp only [Framework.receive, Framework.byUri] at taken
        split at taken
        · contradiction
        · obtain rfl := Except.ok.inj taken
          exact ⟨_, if_pos rfl⟩
      | _ => contradiction
    obtain ⟨file, same⟩ := held
    refine ⟨file, ?_⟩
    simp only [Framework.byUri, same]
  local_file rest := by
    simp only [Naming.byUri, String.toList_append, List.isPrefixOf_iff_prefix, List.prefix_append]

theorem takesPoints_byUri : Framework.byUri.TakesPoints := by
  rintro line character ⟨row, column⟩
  simp only [Framework.byUri]
  split
  · simp only [Except.ok.injEq, Point.mk.injEq]
    omega
  · simp only [reduceCtorEq, false_iff]
    omega

end Sample

end ScriptLint.Server
