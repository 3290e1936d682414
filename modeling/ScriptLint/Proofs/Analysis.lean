import ScriptLint.Analysis
import ScriptLint.Proofs.Traced

/-! # What an analysis keeps of its rules

A rule takes part in an analysis through four things: its findings, whether it fails, whether its name
can be told after that, and what it logs itself. An analysis goes through unless some enabled rule
fails and cannot be named. Then its findings are those of the rules in sorted order, and its log is
what the rules and the analysis itself logged, one part for each rule.
-/

namespace ScriptLint

namespace Rule

section Part
variable (strings : Strings) (script : Script)

/-- What a rule answers when it is shown a script. -/
def answer (rule : Rule) : Except Failure (List Record) :=
  (rule.analyze strings (some script) script.file).result

def fails (rule : Rule) : Bool :=
  match rule.answer strings script with
  | .ok _ => false
  | .error _ => true

/-- Whether the name of a rule can be told. -/
def isNamed (rule : Rule) : Bool :=
  match (rule.name strings).result with
  | .ok _ => true
  | .error _ => false

def found (rule : Rule) : List Record :=
  match rule.answer strings script with
  | .ok records => records
  | .error _ => []

/-- Why a rule breaks off an analysis: it fails, and telling its name fails as well. -/
def breakage? (rule : Rule) : Option Failure :=
  match rule.answer strings script, (rule.name strings).result with
  | .error _, .error cause => some cause
  | _, _ => none

/-- The error that is logged for a rule that fails. -/
def failureNote? (rule : Rule) : Option LogEntry :=
  match rule.answer strings script, (rule.name strings).result with
  | .error cause, .ok name => some (.ruleFailed name script.file cause)
  | _, _ => none

/-- What a rule logs itself while it is run and, if it fails, while it is asked for its name. -/
def ownLog (rule : Rule) : List LogEntry :=
  (rule.analyze strings (some script) script.file).log ++
    if rule.fails strings script then (rule.name strings).log else []

def partLog (rule : Rule) : List LogEntry :=
  rule.ownLog strings script ++ (rule.failureNote? strings script).toList

end Part

variable {strings : Strings} {script : Script}

theorem breakage?_eq_some_iff {rule : Rule} {cause : Failure} :
    rule.breakage? strings script = some cause ↔
      rule.fails strings script = true ∧ (rule.name strings).result = .error cause := by
  unfold breakage? fails
  cases rule.answer strings script <;> cases (rule.name strings).result <;> simp

theorem breakage?_eq_none_iff {rule : Rule} :
    rule.breakage? strings script = none ↔
      (rule.fails strings script = true → rule.isNamed strings = true) := by
  unfold breakage? fails isNamed
  cases rule.answer strings script <;> cases (rule.name strings).result <;> simp

theorem found_of_fails {rule : Rule} (failure : rule.fails strings script = true) :
    rule.found strings script = [] := by
  unfold fails at failure
  unfold found
  cases answered : rule.answer strings script with
  | ok records => simp only [answered, Bool.false_eq_true] at failure
  | error cause => rfl

/-- The part of one rule in an analysis. -/
theorem contribution_eq (rule : Rule) :
    rule.contribution strings script = ⟨rule.partLog strings script,
      match rule.breakage? strings script with
      | some cause => .error cause
      | none => .ok (rule.found strings script)⟩ := by
  cases answered : (rule.analyze strings (some script) script.file).result with
  | ok records =>
    have same : rule.answer strings script = .ok records := answered
    rw [contribution, Traced.recover_of_ok answered]
    simp only [partLog, ownLog, fails, failureNote?, breakage?, found, same, Bool.false_eq_true, ↓reduceIte,
      Option.toList_none, List.append_nil]
    rw [← answered]
  | error cause =>
    have same : rule.answer strings script = .error cause := answered
    rw [contribution, Traced.recover_of_error answered]
    simp only [partLog, ownLog, fails, failureNote?, breakage?, found, same, ↓reduceIte]
    cases named : (rule.name strings).result with
    | ok name =>
      rw [Traced.bind_of_ok named]
      simp only [Option.toList_some, List.append_assoc]
      rfl
    | error other =>
      rw [Traced.bind_of_error named]
      simp only [Option.toList_none, List.append_nil]

/-- Rules one after the other: the first one that breaks off decides, else everything is kept. -/
theorem result_contributions (rules : List Rule) :
    (contributions strings script rules).result =
      match rules.findSome? (breakage? strings script) with
      | some cause => .error cause
      | none => .ok (rules.flatMap (found strings script)) := by
  induction rules with
  | nil => rfl
  | cons rule rest ih =>
    simp only [contributions, Traced.result_bind, contribution_eq, List.findSome?_cons, ih]
    cases rule.breakage? strings script with
    | some cause => rfl
    | none => cases rest.findSome? (breakage? strings script) <;> rfl

theorem log_contributions {rules : List Rule}
    (unbroken : rules.findSome? (breakage? strings script) = none) :
    (contributions strings script rules).log = rules.flatMap (partLog strings script) := by
  induction rules with
  | nil => rfl
  | cons rule rest ih =>
    have own : rule.breakage? strings script = none :=
      List.findSome?_eq_none_iff.mp unbroken rule (List.mem_cons_self ..)
    have others : rest.findSome? (breakage? strings script) = none :=
      List.findSome?_eq_none_iff.mpr fun other member =>
        List.findSome?_eq_none_iff.mp unbroken other (List.mem_cons_of_mem _ member)
    have first : (rule.contribution strings script).result = .ok (rule.found strings script) := by
      simp only [contribution_eq, own]
    have later : (contributions strings script rest).result = .ok (rest.flatMap (found strings script)) := by
      simp only [result_contributions, others]
    rw [contributions, Traced.bind_of_ok first, Traced.bind_of_ok later, ih others, contribution_eq]
    simp only [Traced.log_pure, List.append_nil, List.flatMap_cons]

end Rule

variable {strings : Strings} {script : Script}

theorem result_analyze (rules : List Rule) :
    (analyze strings rules script).result =
      match (Rule.active rules).findSome? (Rule.breakage? strings script) with
      | some cause => .error cause
      | none => .ok (sortStable Record.before ((Rule.active rules).flatMap (Rule.found strings script))) := by
  simp only [analyze, Traced.result_bind, Rule.result_contributions]
  cases (Rule.active rules).findSome? (Rule.breakage? strings script) <;> rfl

theorem log_analyze {rules : List Rule}
    (unbroken : (Rule.active rules).findSome? (Rule.breakage? strings script) = none) :
    (analyze strings rules script).log =
      (Rule.active rules).flatMap (Rule.partLog strings script) ++
        [.analyzed ((Rule.active rules).flatMap (Rule.found strings script)).length script.file] := by
  have all : (Rule.contributions strings script (Rule.active rules)).result =
      .ok ((Rule.active rules).flatMap (Rule.found strings script)) := by
    simp only [Rule.result_contributions, unbroken]
  rw [analyze, Traced.bind_of_ok all, Rule.log_contributions unbroken]
  rfl

/-- An analysis is not broken off exactly if every enabled rule that fails can be named. -/
theorem unbroken_iff {rules : List Rule} :
    (Rule.active rules).findSome? (Rule.breakage? strings script) = none ↔
      ∀ rule ∈ rules, rule.isEnabled = true → rule.fails strings script = true →
        rule.isNamed strings = true := by
  rw [List.findSome?_eq_none_iff]
  constructor
  · intro unbroken rule member enabled
    exact Rule.breakage?_eq_none_iff.mp (unbroken rule (List.mem_filter.mpr ⟨member, enabled⟩))
  · intro named rule active
    obtain ⟨member, enabled⟩ := List.mem_filter.mp active
    exact Rule.breakage?_eq_none_iff.mpr (named rule member enabled)

end ScriptLint
