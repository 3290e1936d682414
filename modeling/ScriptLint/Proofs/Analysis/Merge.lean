import Mathlib.Data.List.Forall2
import Mathlib.Data.Prod.Lex
import ScriptLint.Proofs.Analysis
import ScriptLint.Proofs.LongLines
import ScriptLint.Proofs.Order

/-! # Analyses as stable merges

The findings of an analysis are the findings of its enabled rules that do not fail, in the order of
their places, and at each place in the order of rules and of what each rule reported. Rules that are
not enabled do not matter, and reordering rules moves findings only within one place. The log names
the rules that failed, in order, and ends with the number of findings.
-/

namespace ScriptLint

namespace Record

def place (record : Record) : Int ×ₗ Int := toLex (record.line, record.column)

theorem before_iff_place_le (record other : Record) :
    record.before other = true ↔ record.place ≤ other.place := by
  simp only [before, place, Prod.Lex.toLex_le_toLex, Bool.or_eq_true, Bool.and_eq_true, decide_eq_true_eq,
    beq_iff_eq]

/-- Whether a finding starts at a line and a column. -/
def startsAt (line column : Int) (record : Record) : Bool :=
  decide (record.line = line) && decide (record.column = column)

theorem before_of_startsAt {line column : Int} {record other : Record}
    (first : record.startsAt line column = true) (second : other.startsAt line column = true) :
    record.before other = true := by
  simp only [startsAt, Bool.and_eq_true, decide_eq_true_eq] at first second
  simp only [before, first, second, Std.le_refl, decide_true, BEq.rfl, Bool.and_true, Bool.or_true]

end Record

/-- A list of findings is the stable merge of others: the same findings, ordered by line and column,
with those of one place as they came. -/
structure IsStableMerge (sources merged : List Record) : Prop where
  /-- Nothing is lost and nothing doubled. -/
  perm : merged.Perm sources
  /-- Findings stand in the order of their places. -/
  ordered : merged.Pairwise fun first second =>
    first.line < second.line ∨ first.line = second.line ∧ first.column ≤ second.column
  /-- Findings of one place stand as they came. -/
  stable : ∀ line column, merged.filter (Record.startsAt line column) = sources.filter (Record.startsAt line column)

theorem isStableMerge_sortStable (sources : List Record) :
    IsStableMerge sources (sortStable Record.before sources) where
  perm := sortStable_perm ..
  ordered := by
    have sorted := @sortStable_pairwise _ Record.before ?_ ?_ sources
    · refine sorted.imp fun {first second} ahead => ?_
      simpa only [Record.before, Bool.or_eq_true, Bool.and_eq_true, decide_eq_true_eq, beq_iff_eq] using ahead
    · intro first second
      rw [Record.before_iff_place_le, Record.before_iff_place_le]
      exact le_total ..
    · intro first second third ahead further
      rw [Record.before_iff_place_le] at ahead further ⊢
      exact le_trans ahead further
  stable line column := sortStable_filter (fun _ _ => Record.before_of_startsAt) sources

/-- Where the findings of a merge start depends on what is merged only, not on its order. -/
theorem map_place_sortStable_of_perm {sources others : List Record} (perm : others.Perm sources) :
    (sortStable Record.before others).map (fun record => (record.line, record.column)) =
      (sortStable Record.before sources).map fun record => (record.line, record.column) := by
  have places := congrArg (List.map ofLex) (sortStable_map_key_of_perm Record.before_iff_place_le perm)
  rwa [List.map_map, List.map_map] at places

namespace Rule

variable {strings : Strings} {script : Script}

/-- The rule against long lines logs nothing about analyses. -/
theorem channel_of_mem_ownLog_longLines (rule : LongLines) :
    ∀ entry ∈ (longLines rule).ownLog strings script, entry.channel = .strings := by
  intro entry member
  rcases List.mem_append.mp member with run | named
  · exact LongLines.channel_of_mem_log_analyze rule script entry run
  · split at named
    · exact LongLines.channel_of_mem_log_name entry named
    · exact absurd named List.not_mem_nil

theorem filter_partLog_analyzer {rule : Rule}
    (reserved : ∀ entry ∈ rule.ownLog strings script, entry.channel ≠ .analyzer) :
    (rule.partLog strings script).filter (fun entry => entry.channel = .analyzer) =
      (rule.failureNote? strings script).toList := by
  have own : (rule.ownLog strings script).filter (fun entry => entry.channel = .analyzer) = [] :=
    List.filter_eq_nil_iff.mpr fun entry member same => reserved entry member (of_decide_eq_true same)
  rw [partLog, List.filter_append, own, List.nil_append]
  unfold failureNote?
  split <;> rfl

theorem filter_partLogs_analyzer {rules : List Rule}
    (reserved : ∀ rule ∈ rules, ∀ entry ∈ rule.ownLog strings script, entry.channel ≠ .analyzer) :
    (rules.flatMap (partLog strings script)).filter (fun entry => entry.channel = .analyzer) =
      rules.filterMap (failureNote? strings script) := by
  induction rules with
  | nil => rfl
  | cons rule rest ih =>
    rw [List.flatMap_cons, List.filter_append, filter_partLog_analyzer (reserved rule (List.mem_cons_self ..)),
      ih fun other member => reserved other (List.mem_cons_of_mem _ member)]
    cases entry : rule.failureNote? strings script with
    | none => rw [List.filterMap_cons_none entry]; rfl
    | some logged => rw [List.filterMap_cons_some entry]; rfl

/-- Whether a log entry is the error for a rule that fails. -/
def Reports (strings : Strings) (script : Script) (rule : Rule) (entry : LogEntry) : Prop :=
  ∃ name cause, (rule.name strings).result = .ok name ∧ rule.answer strings script = .error cause ∧
    entry = .ruleFailed name script.file cause

/-- There is one error for each rule that fails, in the order of the rules. -/
theorem forall₂_reports {rules : List Rule}
    (named : ∀ rule ∈ rules, rule.fails strings script = true → rule.isNamed strings = true) :
    List.Forall₂ (Reports strings script) (rules.filter (fails strings script))
      (rules.filterMap (failureNote? strings script)) := by
  induction rules with
  | nil => exact .nil
  | cons rule rest ih =>
    have others := ih fun other member => named other (List.mem_cons_of_mem _ member)
    have own := named rule (List.mem_cons_self ..)
    cases answered : rule.answer strings script with
    | ok records =>
      have works : rule.fails strings script = false := by simp only [fails, answered]
      have quiet : rule.failureNote? strings script = none := by simp only [failureNote?, answered]
      rw [List.filter_cons_of_neg (Bool.eq_false_iff.mp works), List.filterMap_cons_none quiet]
      exact others
    | error cause =>
      have broken : rule.fails strings script = true := by simp only [fails, answered]
      cases told : (rule.name strings).result with
      | error other =>
        have unnamed : rule.isNamed strings = false := by simp only [isNamed, told]
        rw [own broken] at unnamed
        contradiction
      | ok name =>
        have logged : rule.failureNote? strings script = some (.ruleFailed name script.file cause) := by
          simp only [failureNote?, answered, told]
        rw [List.filter_cons_of_pos broken, List.filterMap_cons_some logged]
        exact .cons ⟨name, cause, told, answered, rfl⟩ others

theorem active_insert_of_disabled {rule : Rule} (disabled : rule.isEnabled = false) (front back : List Rule) :
    active (front ++ rule :: back) = active (front ++ back) := by
  simp only [active, List.filter_append, List.filter_cons, disabled, Bool.false_eq_true, ↓reduceIte]

end Rule

def Rule.outOfOrder : Rule :=
  .supplied {
    name := pure "OutOfOrder"
    commonName := pure "Out of order"
    description := pure "Always fails"
    severity := .error
    sourceName := pure "Test"
    analyze := fun _ _ _ => Traced.fail (.ruleBroken "out of order") }

/-- Rules of all kinds: enabled, disabled, repeated and failing. -/
def Rule.mixed : List Rule :=
  [.longLines ⟨true, 1⟩, .outOfOrder, .longLines ⟨false, 0⟩, .longLines ⟨true, 0⟩]

end ScriptLint
