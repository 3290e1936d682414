import ScriptLint.Proofs.Config.Section
import ScriptLint.Proofs.Server.Diagnostic

/-! # Courses of sessions

A step publishes what the history of the session decides: opening or changing a document, its analysis
under the configuration of the latest start; closing it, an empty list. A step that cannot be taken fails,
and so does one whose findings lie outside the points of a document. So the last publication for a URI is
that of the last step about it that publishes, files that are written do not matter before the next start,
and what is published for some documents does not depend on the steps about others.
-/

namespace ScriptLint.Server

variable {framework : Framework} {naming : Naming} {preferred : Option String} {strings : Strings}
variable {workspace : Workspace} {rules : List Rule} {done other steps : List Step} {step : Step} {uri text : String}
variable {publication : Publication} {outcome : Option (List Publication)} {outcomes : List (Option (List Publication))}

def Loads (files : Workspace) : Prop := ∃ config, (Config.load files none).result = .ok config

/-- Whether a publication is the analysis of a text under the configuration that files give. The file that the
text is in does not matter. -/
def IsAnalysis (framework : Framework) (strings : Strings) (files : Workspace) (uri text : String)
    (publication : Publication) : Prop :=
  publication.uri = uri ∧ ∃ rules, (configuredRules strings files).result = .ok rules ∧
    ∀ file, ∃ records, (analyze strings rules ⟨text, file⟩).result = .ok records ∧
      Diagnostic.ofRecords framework records = .ok publication.diagnostics

/-- Whether what the configuration of files reports in a text lies within the points of a document. -/
def Fits (strings : Strings) (files : Workspace) (text : String) : Prop :=
  ∀ rules, (configuredRules strings files).result = .ok rules →
    ∀ own, Rule.longLines own ∈ rules → own.enable = true → Text.IsShort own.lineLength →
      ∀ index line, (Text.lines text)[index]? = some line → own.lineLength < line.length →
        index ≤ maxCoordinate ∧ line.length ≤ maxCoordinate

/-- Whether a step publishes after other steps: it can be taken, and the text that it tells fits. -/
def IsAnswered (naming : Naming) (strings : Strings) (workspace : Workspace) (done : List Step) (step : Step) : Prop :=
  naming.Takes done step ∧
    ∀ uri text, step.told? = some (uri, text) → Fits strings (filesAtStart workspace done) text

/-- What a step publishes after other steps, if it does not fail. -/
inductive Publishes (framework : Framework) (naming : Naming) (strings : Strings) (workspace : Workspace)
    (done : List Step) : Step → Option (List Publication) → Prop
  /-- Opening or changing a document publishes its analysis under the configuration of the latest start. -/
  | told {step : Step} {uri text : String} {publication : Publication} (told : step.told? = some (uri, text))
      (taken : naming.Takes done step)
      (analysis : IsAnalysis framework strings (filesAtStart workspace done) uri text publication) :
      Publishes framework naming strings workspace done step (some [publication])
  | closed {uri : String} : Publishes framework naming strings workspace done (.closed uri) (some [⟨uri, []⟩])
  | written {location : Location} {content : Content} :
      Publishes framework naming strings workspace done (.written location content) (some [])
  | restarted : Publishes framework naming strings workspace done .restarted (some [])
  | refused {step : Step} (refused : ¬ naming.Takes done step) :
      Publishes framework naming strings workspace done step none
  | unfit {step : Step} {uri text : String} (told : step.told? = some (uri, text))
      (unfit : ¬ Fits strings (filesAtStart workspace done) text) :
      Publishes framework naming strings workspace done step none

/-- What steps publish after other steps, each in its turn. -/
inductive Course (framework : Framework) (naming : Naming) (strings : Strings) (workspace : Workspace) :
    List Step → List Step → List (Option (List Publication)) → Prop
  | nil {done : List Step} : Course framework naming strings workspace done [] []
  | cons {done rest : List Step} {step : Step} {outcome : Option (List Publication)}
      {outcomes : List (Option (List Publication))}
      (publishes : Publishes framework naming strings workspace done step outcome)
      (later : Course framework naming strings workspace (done ++ [step]) rest outcomes) :
      Course framework naming strings workspace done (step :: rest) (outcome :: outcomes)

def sent (outcomes : List (Option (List Publication))) : List Publication :=
  outcomes.flatMap fun outcome => outcome.getD []

section Analyses

theorem result_configuredRules_of_load {files : Workspace} {config : Config} (preferred : Option String)
    (loaded : (Config.load files none).result = .ok config) :
    (configuredRules (Strings.shippedFor preferred) files).result =
      .ok (if config.allows LongLines.shippedKey then
        [.longLines (LongLines.configuredBy ((config.options.find? LongLines.shippedKey).getD []))] else []) :=
  Config.result_rulesAt preferred loaded

theorem result_configuredRules_of_loads (preferred : Option String) {files : Workspace} (loads : Loads files) :
    ∃ rules, (configuredRules (Strings.shippedFor preferred) files).result = .ok rules ∧ AreLongLines rules := by
  obtain ⟨config, loaded⟩ := loads
  exact ⟨_, result_configuredRules_of_load preferred loaded, areLongLines_ite _ _⟩

theorem loads_of_configured {files : Workspace} (configured : (configuredRules strings files).result = .ok rules) :
    Loads files := by
  cases loaded : (Config.load files none).result with
  | ok config => exact ⟨config, loaded⟩
  | error cause =>
    simp only [configuredRules, Traced.result_bind, loaded, Except.bind, reduceCtorEq] at configured

theorem areLongLines_of_configured {files : Workspace}
    (configured : (configuredRules (Strings.shippedFor preferred) files).result = .ok rules) :
    AreLongLines rules := by
  obtain ⟨others, found, longLines⟩ := result_configuredRules_of_loads preferred (loads_of_configured configured)
  obtain rfl := Except.ok.inj (found.symm.trans configured)
  exact longLines

/-- An analysis under rules that are configured is what is published of their findings, in whatever file. -/
theorem isAnalysis_iff {files : Workspace} (file : Option String)
    (configured : (configuredRules (Strings.shippedFor preferred) files).result = .ok rules) :
    IsAnalysis framework (Strings.shippedFor preferred) files uri text publication ↔
      publication.uri = uri ∧ Diagnostic.ofRecords framework
        (findingsIn (Strings.shippedFor preferred) rules ⟨text, file⟩) = .ok publication.diagnostics := by
  have longLines := areLongLines_of_configured configured
  have answer (file : Option String) := result_analyze_of_longLines preferred longLines ⟨text, file⟩
  refine and_congr_right fun _ => ⟨?_, fun sent => ⟨rules, configured, fun other => ⟨_, answer other, ?_⟩⟩⟩
  · rintro ⟨others, found, every⟩
    obtain rfl := Except.ok.inj (found.symm.trans configured)
    obtain ⟨records, analyzed, sent⟩ := every file
    obtain rfl := Except.ok.inj ((answer file).symm.trans analyzed)
    exact sent
  · rw [← sent]
    exact Diagnostic.ofRecords_findingsIn_congr longLines rfl

/-- There is one analysis of a text at most. -/
theorem IsAnalysis.unique {files : Workspace} {others : Publication}
    (first : IsAnalysis framework strings files uri text publication)
    (second : IsAnalysis framework strings files uri text others) : publication = others := by
  obtain ⟨uri, diagnostics⟩ := publication
  obtain ⟨same, rules, configured, every⟩ := first
  obtain ⟨also, others, found, all⟩ := second
  obtain rfl := Except.ok.inj (found.symm.trans configured)
  obtain ⟨records, analyzed, sent⟩ := every none
  obtain ⟨others, again, resent⟩ := all none
  obtain rfl := Except.ok.inj (again.symm.trans analyzed)
  obtain rfl := Except.ok.inj (resent.symm.trans sent)
  obtain rfl := also.trans same.symm
  rfl

/-- A text with no more characters than a document has points fits. -/
theorem fits_of_length_le (strings : Strings) (workspace : Workspace) (short : text.length ≤ maxCoordinate) :
    Fits strings workspace text := by
  intro _ _ _ _ _ _ index line present _
  obtain ⟨before, within⟩ := Text.bounds_of_getElem?_lines present
  exact ⟨before.trans short, within.trans short⟩

/-- The analysis of a text can be published exactly if it fits. -/
theorem exists_isAnalysis_iff (points : framework.TakesPoints) {files : Workspace} (uri text : String)
    (configured : (configuredRules (Strings.shippedFor preferred) files).result = .ok rules) :
    (∃ publication, IsAnalysis framework (Strings.shippedFor preferred) files uri text publication) ↔
      Fits (Strings.shippedFor preferred) files text := by
  have sendable := @Diagnostic.exists_ofRecords_findingsIn_iff _ points preferred rules
    (areLongLines_of_configured configured) ⟨text, none⟩
  have fits : Fits (Strings.shippedFor preferred) files text ↔
      ∃ diagnostics, Diagnostic.ofRecords framework
        (findingsIn (Strings.shippedFor preferred) rules ⟨text, none⟩) = .ok diagnostics := by
    rw [sendable]
    refine ⟨fun within => within rules configured, fun within others found => ?_⟩
    obtain rfl := Except.ok.inj (found.symm.trans configured)
    exact within
  rw [fits]
  simp only [isAnalysis_iff none configured]
  exact ⟨fun ⟨_, _, sent⟩ => ⟨_, sent⟩, fun ⟨diagnostics, sent⟩ => ⟨⟨uri, diagnostics⟩, rfl, sent⟩⟩

end Analyses

section Steps

/-- A step about a document publishes once, for its URI, and any other step nothing, unless they fail. -/
theorem Publishes.about (publishes : Publishes framework naming strings workspace done step outcome) :
    outcome = none ∨ (step.uri? = none ∧ outcome = some []) ∨
      ∃ publication, step.uri? = some publication.uri ∧ outcome = some [publication] := by
  cases publishes with
  | told told taken analysis => exact .inr (.inr ⟨_, analysis.1 ▸ Step.uri?_of_told told, rfl⟩)
  | closed => exact .inr (.inr ⟨_, rfl, rfl⟩)
  | written | restarted => exact .inr (.inl ⟨rfl, rfl⟩)
  | refused | unfit => exact .inl rfl

/-- Under a configuration that loads, the steps that are answered publish. -/
theorem Publishes.isSome_iff (points : framework.TakesPoints) (loads : Loads (filesAtStart workspace done))
    (publishes : Publishes framework naming (Strings.shippedFor preferred) workspace done step outcome) :
    outcome.isSome = true ↔ IsAnswered naming (Strings.shippedFor preferred) workspace done step := by
  obtain ⟨rules, configured, -⟩ := result_configuredRules_of_loads preferred loads
  cases publishes with
  | told told taken analysis =>
    refine iff_of_true rfl ⟨taken, fun uri text again => ?_⟩
    obtain ⟨rfl, rfl⟩ := Prod.mk.inj (Option.some.inj (told.symm.trans again))
    exact (exists_isAnalysis_iff points _ _ configured).mp ⟨_, analysis⟩
  | refused refused => exact iff_of_false Bool.false_ne_true fun answered => refused answered.1
  | unfit told unfit => exact iff_of_false Bool.false_ne_true fun answered => unfit (answered.2 _ _ told)
  | _ => exact iff_of_true rfl ⟨trivial, fun uri text told => nomatch told⟩

/-- What a step publishes is decided. -/
theorem Publishes.unique (points : framework.TakesPoints) (loads : Loads (filesAtStart workspace done))
    {others : Option (List Publication)}
    (first : Publishes framework naming (Strings.shippedFor preferred) workspace done step outcome)
    (second : Publishes framework naming (Strings.shippedFor preferred) workspace done step others) :
    outcome = others := by
  have both := (first.isSome_iff points loads).trans (second.isSome_iff points loads).symm
  cases first with
  | told told _ analysis =>
    cases second with
    | told again _ other =>
      obtain ⟨rfl, rfl⟩ := Prod.mk.inj (Option.some.inj (told.symm.trans again))
      rw [analysis.unique other]
    | refused | unfit => exact absurd (both.mp rfl) Bool.false_ne_true
    | _ => contradiction
  | refused | unfit =>
    cases others with
    | none => rfl
    | some _ => exact absurd (both.mpr rfl) Bool.false_ne_true
  | _ =>
    cases second with
    | told told => contradiction
    | refused | unfit => exact absurd (both.mp rfl) Bool.false_ne_true
    | _ => rfl

/-- A step publishes the same after all steps that agree on what it looks at. -/
theorem Publishes.congr (publishes : Publishes framework naming strings workspace done step outcome)
    (atStart : filesAtStart workspace other = filesAtStart workspace done)
    (takes : naming.Takes other step ↔ naming.Takes done step) :
    Publishes framework naming strings workspace other step outcome := by
  cases publishes with
  | told told taken analysis => exact .told told (takes.mpr taken) (atStart ▸ analysis)
  | closed => exact .closed
  | written => exact .written
  | restarted => exact .restarted
  | refused refused => exact .refused (mt takes.mp refused)
  | unfit told unfit => exact .unfit told (atStart ▸ unfit)

end Steps

section Starts

/-- Whether every start loads its configuration while steps are taken after others. -/
def StartsLoad (workspace : Workspace) (done steps : List Step) : Prop :=
  ∀ more, more <+: steps → Loads (filesAtStart workspace (done ++ more))

theorem StartsLoad.now (loads : StartsLoad workspace done steps) : Loads (filesAtStart workspace done) := by
  have now := loads [] (List.nil_prefix ..)
  rwa [List.append_nil] at now

theorem StartsLoad.drop {front back : List Step} (loads : StartsLoad workspace done (front ++ back)) :
    StartsLoad workspace (done ++ front) back := by
  intro more shorter
  rw [List.append_assoc]
  exact loads (front ++ more) ((List.prefix_append_right_inj front).mpr shorter)

theorem StartsLoad.append {front back : List Step} (first : StartsLoad workspace done front)
    (second : StartsLoad workspace (done ++ front) back) : StartsLoad workspace done (front ++ back) := by
  intro more shorter
  rcases List.prefix_or_prefix_of_prefix shorter (List.prefix_append front back) with within | ⟨later, rfl⟩
  · exact first more within
  · rw [← List.append_assoc]
    exact second later ((List.prefix_append_right_inj front).mp shorter)

/-- Without another start there is only the latest one. -/
theorem StartsLoad.of_goesOn (loads : Loads (filesAtStart workspace done))
    (goesOn : ∀ step ∈ steps, step.isRestart = false) : StartsLoad workspace done steps := by
  intro more shorter
  rw [filesAtStart_append workspace done fun step member => goesOn step (shorter.subset member)]
  exact loads

end Starts

section Courses

theorem Course.split {front back : List Step}
    (course : Course framework naming strings workspace done (front ++ back) outcomes) :
    ∃ early late, outcomes = early ++ late ∧ Course framework naming strings workspace done front early ∧
      Course framework naming strings workspace (done ++ front) back late := by
  induction front generalizing done outcomes with
  | nil => exact ⟨[], outcomes, rfl, .nil, by rwa [List.append_nil]⟩
  | cons step rest ih =>
    cases course with
    | cons publishes later =>
      obtain ⟨early, late, rfl, first, second⟩ := ih later
      rw [List.append_cons]
      exact ⟨_ :: early, late, rfl, .cons publishes first, second⟩

theorem Course.append {front back : List Step} {early late : List (Option (List Publication))}
    (first : Course framework naming strings workspace done front early)
    (second : Course framework naming strings workspace (done ++ front) back late) :
    Course framework naming strings workspace done (front ++ back) (early ++ late) := by
  induction first with
  | nil => rwa [List.append_nil] at second
  | cons publishes later ih =>
    rw [List.append_cons] at second
    exact .cons publishes (ih second)

theorem Course.length_eq (course : Course framework naming strings workspace done steps outcomes) :
    outcomes.length = steps.length := by
  induction course with
  | nil => rfl
  | cons publishes later ih => rw [List.length_cons, List.length_cons, ih]

/-- The course of steps is decided if all starts load their configuration. -/
theorem Course.unique (points : framework.TakesPoints) (loads : StartsLoad workspace done steps)
    {others : List (Option (List Publication))}
    (first : Course framework naming (Strings.shippedFor preferred) workspace done steps outcomes)
    (second : Course framework naming (Strings.shippedFor preferred) workspace done steps others) :
    outcomes = others := by
  induction first generalizing others with
  | nil =>
    cases second
    rfl
  | @cons done rest step _ _ publishes _ ih =>
    cases second with
    | cons also later =>
      have afterwards : StartsLoad workspace (done ++ [step]) rest := loads.drop
      rw [publishes.unique points loads.now also, ih afterwards later]

/-- Until the next start a course depends on the files of the latest one and on which documents are open. -/
theorem Course.congr (course : Course framework naming strings workspace done steps outcomes)
    (goesOn : ∀ step ∈ steps, step.isRestart = false)
    (atStart : filesAtStart workspace other = filesAtStart workspace done)
    (opened : ∀ name, naming.isOpen name other = naming.isOpen name done) :
    Course framework naming strings workspace other steps outcomes := by
  induction course generalizing other with
  | nil => exact .nil
  | cons publishes later ih =>
    obtain ⟨own, others⟩ := List.forall_mem_cons.mp goesOn
    refine .cons (publishes.congr atStart (naming.takes_congr opened)) (ih others ?_ fun name => ?_)
    · rw [filesAtStart_concat, filesAtStart_concat, own]
      exact atStart
    · rw [isOpen_concat, isOpen_concat, opened]

/-- A file that is written does not matter before the next start. -/
theorem Course.exists_of_written {front back : List Step} {location : Location} {content : Content}
    (course : Course framework naming strings workspace [] (front ++ .written location content :: back) outcomes)
    (goesOn : ∀ step ∈ back, step.isRestart = false) :
    ∃ early late, outcomes = early ++ some [] :: late ∧ early.length = front.length ∧
      Course framework naming strings workspace [] (front ++ back) (early ++ late) := by
  have atStart : filesAtStart workspace (front ++ [.written location content]) = filesAtStart workspace front := by
    rw [filesAtStart_concat]
    rfl
  have opened (name : String) :
      naming.isOpen name (front ++ [.written location content]) = naming.isOpen name front := by
    rw [isOpen_concat]
    rfl
  obtain ⟨early, _, rfl, before, after⟩ := course.split
  cases after with
  | cons publishes later =>
    have later := before.append (later.congr goesOn atStart.symm fun name => (opened name).symm)
    cases publishes with
    | written => exact ⟨early, _, rfl, before.length_eq, later⟩
    | refused refused => exact absurd trivial refused
    | told told => contradiction
    | unfit told => contradiction

end Courses

section Publications

theorem sent_append (early late : List (Option (List Publication))) : sent (early ++ late) = sent early ++ sent late :=
  List.flatMap_append

theorem sent_cons (outcome : Option (List Publication)) (outcomes : List (Option (List Publication))) :
    sent (outcome :: outcomes) = outcome.getD [] ++ sent outcomes :=
  List.flatMap_cons

/-- Where no step about a URI is answered, nothing is published for it. -/
theorem Course.filter_uri_eq_nil (points : framework.TakesPoints)
    (course : Course framework naming (Strings.shippedFor preferred) workspace done steps outcomes)
    (loads : StartsLoad workspace done steps)
    (silent : ∀ front step back, steps = front ++ step :: back → step.uri? = some uri →
      ¬ IsAnswered naming (Strings.shippedFor preferred) workspace (done ++ front) step) :
    (sent outcomes).filter (fun publication => publication.uri = uri) = [] := by
  induction course with
  | nil => rfl
  | @cons done rest step outcome outcomes publishes later ih =>
    have afterwards : StartsLoad workspace (done ++ [step]) rest := loads.drop
    have others := ih afterwards fun front later back split about => by
      rw [← List.append_cons]
      exact silent (step :: front) later back (congrArg _ split) about
    rw [sent_cons, List.filter_append, others, List.append_nil]
    rcases publishes.about with rfl | ⟨-, rfl⟩ | ⟨publication, about, rfl⟩
    · rfl
    · rfl
    · refine List.filter_cons_of_neg fun same => ?_
      have unanswered := silent [] step rest rfl (of_decide_eq_true same ▸ about)
      rw [List.append_nil] at unanswered
      exact unanswered ((publishes.isSome_iff points loads.now).mp rfl)

/-- The last publication for a URI is that of the last step about it that is answered. -/
theorem Course.last_of_uri (points : framework.TakesPoints) {front back : List Step}
    (course : Course framework naming (Strings.shippedFor preferred) workspace [] (front ++ step :: back) outcomes)
    (loads : StartsLoad workspace [] (front ++ step :: back))
    (about : step.uri? = some uri) (answered : IsAnswered naming (Strings.shippedFor preferred) workspace front step)
    (silent : ∀ middle later rest, back = middle ++ later :: rest → later.uri? = some uri →
      ¬ IsAnswered naming (Strings.shippedFor preferred) workspace (front ++ step :: middle) later) :
    ∃ publication,
      Publishes framework naming (Strings.shippedFor preferred) workspace front step (some [publication]) ∧
      ((sent outcomes).filter fun publication => publication.uri = uri).getLast? = some publication := by
  obtain ⟨early, _, rfl, -, second⟩ := course.split
  have onwards : StartsLoad workspace front (step :: back) := loads.drop
  cases second with
  | @cons _ _ _ outcome late publishes later =>
    have afterwards : StartsLoad workspace (front ++ [step]) back := onwards.drop
    have nothing := later.filter_uri_eq_nil points afterwards fun middle other rest split concerns => by
      rw [List.append_assoc]
      exact silent middle other rest split concerns
    have some := (publishes.isSome_iff points onwards.now).mpr answered
    rcases publishes.about with rfl | ⟨unrelated, -⟩ | ⟨publication, own, rfl⟩
    · exact absurd some Bool.false_ne_true
    · rw [unrelated] at about
      contradiction
    · obtain rfl := Option.some.inj (own.symm.trans about)
      have kept : [publication].filter (fun other => other.uri = publication.uri) = [publication] :=
        List.filter_cons_of_pos (decide_eq_true rfl)
      refine ⟨publication, publishes, ?_⟩
      rw [sent_append, sent_cons, List.filter_append, List.filter_append, nothing, List.append_nil]
      exact (congrArg (List.getLast? <| _ ++ ·) kept).trans (List.getLast?_concat ..)

/-- What is published for some URIs is decided by the steps about them, together with the files that are written
and the starts, if they are all URIs of their documents in the session. -/
theorem Course.exists_filter {keep : String → Bool} {all : List Step}
    (course : Course framework naming strings workspace done steps outcomes)
    (whole : ∀ step ∈ done ++ steps, step ∈ all)
    (together : ∀ step ∈ all, ∀ other ∈ all, ∀ uri another, step.uri? = some uri → other.uri? = some another →
      naming.name uri = naming.name another → keep uri = keep another) :
    ∃ others, Course framework naming strings workspace (done.filter (Step.concerns keep))
        (steps.filter (Step.concerns keep)) others ∧
      sent others = (sent outcomes).filter fun publication => keep publication.uri := by
  induction course with
  | nil => exact ⟨[], .nil, rfl⟩
  | @cons done rest step outcome outcomes publishes later ih =>
    obtain ⟨others, course, same⟩ := ih fun other member => whole other (by rwa [List.append_cons])
    rw [List.filter_append] at course
    rw [sent_cons, List.filter_append, ← same]
    have present : step ∈ all := whole step (List.mem_append_right _ (List.mem_cons_self ..))
    cases concerned : step.concerns keep with
    | true =>
      rw [List.filter_cons_of_pos concerned] at course ⊢
      have own : (outcome.getD []).filter (fun publication => keep publication.uri) = outcome.getD [] := by
        rcases publishes.about with rfl | ⟨-, rfl⟩ | ⟨publication, about, rfl⟩
        · rfl
        · rfl
        · simp only [Step.concerns, about] at concerned
          exact List.filter_cons_of_pos concerned
      have takes : naming.Takes (done.filter (Step.concerns keep)) step ↔ naming.Takes done step := by
        refine takes_filter_iff fun uri about earlier member another concerns name => ?_
        have alike := together earlier (whole earlier (List.mem_append_left _ member)) step present another uri
          concerns about name
        simp only [Step.concerns, about] at concerned
        rw [alike, concerned]
      exact ⟨outcome :: others, .cons (publishes.congr (filesAtStart_filter keep workspace done) takes) course, by
        rw [own, sent_cons]⟩
    | false =>
      have dropped := Bool.eq_false_iff.mp concerned
      rw [List.filter_cons_of_neg dropped, List.filter_nil, List.append_nil] at course
      rw [List.filter_cons_of_neg dropped]
      obtain ⟨⟨uri, about, left⟩, -⟩ := exists_uri_of_not_concerns concerned
      have own : (outcome.getD []).filter (fun publication => keep publication.uri) = [] := by
        rcases publishes.about with rfl | ⟨-, rfl⟩ | ⟨publication, other, rfl⟩
        · rfl
        · rfl
        · obtain rfl := Option.some.inj (other.symm.trans about)
          exact List.filter_cons_of_neg (Bool.eq_false_iff.mp left)
      exact ⟨others, course, by rw [own, List.nil_append]⟩

end Publications

end ScriptLint.Server
