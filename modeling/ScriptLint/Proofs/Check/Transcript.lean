import Mathlib.Algebra.Ring.Nat
import ScriptLint.Check.Transcript

/-! # What a transcript shows

The log of an operation is no part of the standard output and has no say in the exit code: both are
those of what follows the answer of the operation.
-/

namespace ScriptLint

theorem textOfLines_append (lines others : List String) :
    textOfLines (lines ++ others) = textOfLines lines ++ textOfLines others := by
  simp only [textOfLines, List.map_append, String.join_append]

theorem length_textOfLines (lines : List String) :
    (textOfLines lines).length = (lines.map fun line => line.length + 1).sum := by
  induction lines with
  | nil => rfl
  | cons line rest ih =>
    have first : textOfLines (line :: rest) = line ++ "\n" ++ textOfLines rest := by
      simp only [textOfLines, List.map_cons, String.join_cons]
    rw [first, String.length_append, String.length_append, ih, List.map_cons, List.sum_cons]
    rfl

theorem textOfLines_eq_empty_iff {lines : List String} : textOfLines lines = "" ↔ lines = [] := by
  constructor
  · intro empty
    cases lines with
    | nil => rfl
    | cons line rest =>
      have length := length_textOfLines (line :: rest)
      rw [empty, List.map_cons, List.sum_cons, String.length_empty] at length
      omega
  · rintro rfl
    rfl

/-- Whether an event is more than a log entry. -/
def Event.isShown : Event → Bool
  | .logged _ => false
  | _ => true

namespace Transcript

/-- What a command does apart from logging. -/
def shown (transcript : Transcript) : List Event := transcript.events.filter Event.isShown

theorem shown_after_logged (log : List LogEntry) (transcript : Transcript) :
    (after (log.map .logged) transcript).shown = transcript.shown := by
  have silent : (log.map Event.logged).filter Event.isShown = [] := by
    rw [List.filter_map]
    exact congrArg _ (List.filter_eq_nil_iff.mpr fun _ _ => Bool.false_ne_true)
  simp only [shown, after, List.filter_append, silent, List.nil_append]

/-- What log entries have no part in is the same for what is shown. -/
theorem filterMap_shown {α : Type} {read : Event → Option α} (silent : ∀ entry, read (.logged entry) = none)
    (transcript : Transcript) : transcript.shown.filterMap read = transcript.events.filterMap read := by
  unfold shown
  induction transcript.events with
  | nil => rfl
  | cons event rest ih =>
    cases event with
    | logged entry =>
      rw [List.filterMap_cons_none (silent entry), ← ih]
      rfl
    | printed line => rw [List.filter_cons_of_pos rfl, List.filterMap_cons, List.filterMap_cons, ih]
    | reported path record => rw [List.filter_cons_of_pos rfl, List.filterMap_cons, List.filterMap_cons, ih]
    | unreadable cause => rw [List.filter_cons_of_pos rfl, List.filterMap_cons, List.filterMap_cons, ih]

theorem output_eq_shown (print : String → String) (transcript : Transcript) :
    transcript.output print = textOfLines (transcript.shown.filterMap (Event.outputLine? print)) := by
  rw [filterMap_shown fun _ => rfl, output]

theorem exitCode_eq_shown (transcript : Transcript) :
    transcript.exitCode = if transcript.crash.isSome || transcript.shown.any Event.isFinding then 1 else 0 := by
  have same : transcript.shown.any Event.isFinding = transcript.events.any Event.isFinding := by
    unfold shown
    induction transcript.events with
    | nil => rfl
    | cons event rest ih => cases event <;> simp [List.filter_cons, Event.isShown, Event.isFinding, ih]
  rw [exitCode, same]

theorem output_after_logged (print : String → String) (log : List LogEntry) (transcript : Transcript) :
    (after (log.map .logged) transcript).output print = transcript.output print := by
  have silent : (log.map Event.logged).filterMap (Event.outputLine? print) = [] := by
    rw [List.filterMap_map]
    exact List.filterMap_eq_nil_iff.mpr fun _ _ => rfl
  simp only [output, after, List.filterMap_append, silent, List.nil_append]

theorem exitCode_after_logged (log : List LogEntry) (transcript : Transcript) :
    (after (log.map .logged) transcript).exitCode = transcript.exitCode := by
  have clean : (log.map Event.logged).any Event.isFinding = false := by
    rw [List.any_map]
    exact List.any_eq_false.mpr fun _ _ => Bool.false_ne_true
  simp only [exitCode, after, List.any_append, clean, Bool.false_or]

/-- Two transcripts look the same from outside, apart from what is written to the error output. -/
def SameAnswer (print : String → String) (first second : Transcript) : Prop :=
  first.output print = second.output print ∧ first.exitCode = second.exitCode

/-- Operations with equal results are followed by the same answer, whatever they log. -/
theorem sameAnswer_follow {print : String → String} {α : Type} {first second : Traced α}
    (same : first.result = second.result)
    {next other : α → Transcript} (answers : ∀ value, first.result = .ok value →
      SameAnswer print (next value) (other value)) :
    SameAnswer print (follow first next) (follow second other) := by
  unfold follow
  rw [← same]
  cases answer : first.result with
  | error cause =>
    have quiet (log : List LogEntry) : (⟨log.map .logged, some cause⟩ : Transcript) =
        after (log.map .logged) ⟨[], some cause⟩ := by
      simp only [after, List.append_nil]
    show SameAnswer print ⟨first.log.map .logged, some cause⟩ ⟨second.log.map .logged, some cause⟩
    rw [quiet, quiet]
    exact ⟨by rw [output_after_logged, output_after_logged], rfl⟩
  | ok value =>
    obtain ⟨output, exitCode⟩ := answers value answer
    exact ⟨by rw [output_after_logged, output_after_logged, output],
      by rw [exitCode_after_logged, exitCode_after_logged, exitCode]⟩

end Transcript

end ScriptLint
