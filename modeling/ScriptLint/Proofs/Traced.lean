import ScriptLint.Traced

/-! # Equations of traced operations

What a sequence of operations answers does not depend on their logs, and what it logs depends on the
answers only where they decide how it goes on.
-/

namespace ScriptLint.Traced

variable {α β : Type}

@[simp] theorem result_bind (operation : Traced α) (next : α → Traced β) :
    (operation >>= next).result = operation.result.bind fun value => (next value).result := by
  cases answer : operation.result with
  | error cause => rw [bind_of_error answer]; rfl
  | ok value => rw [bind_of_ok answer]; rfl

theorem ok_bind (log : List LogEntry) (value : α) (next : α → Traced β) :
    (⟨log, .ok value⟩ : Traced α) >>= next = ⟨log ++ (next value).log, (next value).result⟩ := rfl

/-- Sequences of operations may be regrouped, as their logs are put together in the same order. -/
instance : LawfulMonad Traced := by
  apply LawfulMonad.mk' Traced
  case id_map =>
    rintro α ⟨log, result⟩
    cases result with
    | error cause => rfl
    | ok value => exact congrArg (Traced.mk · (.ok value)) (List.append_nil log)
  case pure_bind =>
    intro α β value next
    rfl
  case bind_assoc =>
    rintro α β γ ⟨log, result⟩ next later
    cases result with
    | error cause => rfl
    | ok value =>
      simp only [ok_bind]
      obtain ⟨others, answer⟩ := next value
      cases answer with
      | error cause => rfl
      | ok answer => simp only [ok_bind, List.append_assoc]

/-- A sequence of operations has an answer if each of them has one. -/
theorem result_bind_eq_ok_iff {operation : Traced α} {next : α → Traced β} {answer : β} :
    (operation >>= next).result = .ok answer ↔
      ∃ value, operation.result = .ok value ∧ (next value).result = .ok answer := by
  rw [result_bind]
  cases operation.result with
  | error cause => simp only [Except.bind, reduceCtorEq, false_and, exists_false]
  | ok value => simp only [Except.bind, Except.ok.injEq, exists_eq_left']

@[simp] theorem result_note (entry : LogEntry) : (note entry).result = .ok () := rfl

/-- A failure is no answer. -/
theorem not_exists_error_eq_ok (cause : Failure) : ¬ ∃ value : α, Except.error cause = .ok value := by
  rintro ⟨value, success⟩
  contradiction

/-- Every entry of a sequence of operations comes from one of them. -/
theorem forall_log_bind {holds : LogEntry → Prop} {operation : Traced α} {next : α → Traced β}
    (first : ∀ entry ∈ operation.log, holds entry)
    (second : ∀ value, operation.result = .ok value → ∀ entry ∈ (next value).log, holds entry) :
    ∀ entry ∈ (operation >>= next).log, holds entry := by
  cases answer : operation.result with
  | error cause => rw [bind_of_error answer]; exact first
  | ok value =>
    rw [bind_of_ok answer]
    intro entry member
    rcases List.mem_append.mp member with member | member
    · exact first entry member
    · exact second value answer entry member

theorem recover_of_ok {operation : Traced α} {value : α} (success : operation.result = .ok value)
    (handler : Failure → Traced α) : operation.recover handler = operation := by
  obtain ⟨log, result⟩ := operation
  cases success
  rfl

theorem recover_of_error {operation : Traced α} {cause : Failure}
    (failure : operation.result = .error cause) (handler : Failure → Traced α) :
    operation.recover handler = ⟨operation.log ++ (handler cause).log, (handler cause).result⟩ := by
  unfold recover
  rw [failure]

end ScriptLint.Traced
