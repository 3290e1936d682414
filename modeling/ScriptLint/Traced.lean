import ScriptLint.Log

/-! # Operations that leave a log

A `Traced` operation has an answer or a failure and, either way, the log entries it wrote. Doing one
operation after the other concatenates their logs; a failure keeps what was logged before it.
-/

namespace ScriptLint

/-- An operation with its log. -/
structure Traced (α : Type) where
  log : List LogEntry
  /-- The answer, or why there is none. -/
  result : Except Failure α

namespace Traced

variable {α β : Type}

/-- An answer without a log. -/
protected def pure (value : α) : Traced α := ⟨[], .ok value⟩

def fail (cause : Failure) : Traced α := ⟨[], .error cause⟩

/-- An answer or a failure that was found elsewhere. -/
def ofResult (result : Except Failure α) : Traced α := ⟨[], result⟩

def note (entry : LogEntry) : Traced Unit := ⟨[entry], .ok ()⟩

protected def bind (operation : Traced α) (next : α → Traced β) : Traced β :=
  match operation.result with
  | .error cause => ⟨operation.log, .error cause⟩
  | .ok value => ⟨operation.log ++ (next value).log, (next value).result⟩

/-- Go on with a failure. -/
def recover (operation : Traced α) (handler : Failure → Traced α) : Traced α :=
  match operation.result with
  | .error cause => ⟨operation.log ++ (handler cause).log, (handler cause).result⟩
  | .ok value => ⟨operation.log, .ok value⟩

instance : Monad Traced where
  pure := Traced.pure
  bind := Traced.bind

@[simp] theorem log_pure (value : α) : (pure value : Traced α).log = [] := rfl

@[simp] theorem result_pure (value : α) : (pure value : Traced α).result = .ok value := rfl

theorem bind_of_ok {operation : Traced α} {value : α} (success : operation.result = .ok value)
    (next : α → Traced β) :
    operation >>= next = ⟨operation.log ++ (next value).log, (next value).result⟩ := by
  show Traced.bind operation next = _
  unfold Traced.bind
  rw [success]

theorem bind_of_error {operation : Traced α} {cause : Failure}
    (failure : operation.result = .error cause) (next : α → Traced β) :
    operation >>= next = ⟨operation.log, .error cause⟩ := by
  show Traced.bind operation next = _
  unfold Traced.bind
  rw [failure]

end Traced

end ScriptLint
