import ScriptLint.Analysis
import ScriptLint.Proofs.Text.Utf8.WellFormed

/-! # Reading scripts

The text of a script is the one that the bytes of its file encode, but for a byte order mark in front of
them, which is not part of it. So a mark makes no difference, unless there is one already. A file that is
no text fails at the first place where no character begins.
-/

namespace ScriptLint.Script

open Text.Utf8

section Bytes
variable {path : Path} {bytes : List UInt8}

theorem ofBytes_eq_ok_iff {script : Script} :
    ofBytes path bytes = .ok script ↔
      encode script.text = withoutMark bytes ∧ script.file = some path.toString := by
  rw [← decode_eq_ok_iff]
  unfold ofBytes
  cases decoded : decode (withoutMark bytes) with
  | error fault => simp only [reduceCtorEq, false_and]
  | ok text =>
    obtain ⟨own, file⟩ := script
    simp only [Except.ok.injEq, mk.injEq, eq_comm (a := file)]

theorem ofBytes_eq_error {cause : Failure} (failed : ofBytes path bytes = .error cause) :
    ∃ fault, cause = .undecodable fault ∧ IsLongestFront (withoutMark bytes) fault.position := by
  unfold ofBytes at failed
  cases decoded : decode (withoutMark bytes) with
  | ok text =>
    rw [decoded] at failed
    contradiction
  | error fault =>
    rw [decoded] at failed
    exact ⟨fault, (Except.error.inj failed).symm, isLongestFront_of_decode decoded⟩

theorem exists_ofBytes_iff : (∃ script, ofBytes path bytes = .ok script) ↔ IsWellFormed (withoutMark bytes) := by
  simp only [ofBytes_eq_ok_iff, isWellFormed_iff]
  constructor
  · rintro ⟨script, encoded, -⟩
    exact ⟨script.text, encoded⟩
  · rintro ⟨text, encoded⟩
    exact ⟨⟨text, some path.toString⟩, encoded, rfl⟩

/-- A mark in front of bytes without one makes no difference. -/
theorem ofBytes_marked (unmarked : ¬ markBytes <+: bytes) :
    ofBytes path (markBytes ++ bytes) = ofBytes path bytes := by
  rw [ofBytes, ofBytes, withoutMark_append, withoutMark_of_unmarked unmarked]

/-- A second mark is a character of the text. -/
theorem ofBytes_marked_again (marked : markBytes <+: bytes) {script : Script}
    (read : ofBytes path bytes = .ok script) :
    ofBytes path (markBytes ++ bytes) = .ok ⟨String.singleton mark ++ script.text, script.file⟩ := by
  obtain ⟨rest, rfl⟩ := marked
  obtain ⟨encoded, file⟩ := ofBytes_eq_ok_iff.mp read
  refine ofBytes_eq_ok_iff.mpr ⟨?_, file⟩
  rw [withoutMark_append] at encoded ⊢
  rw [← encoded, encode, encode, String.toList_append, String.toList_singleton, List.flatMap_append,
    List.flatMap_singleton]
  rfl

end Bytes

variable {workspace : Workspace} {path : Path} {bytes : List UInt8}

theorem load_of_read (held : workspace.read path = .ok bytes) : load workspace path = ofBytes path bytes := by
  rw [load, held]

/-- A file holds a script exactly if its bytes without one byte order mark are well-formed. The text of the
script is the one that they encode, line ends and all; otherwise the failure stands where the longest
well-formed beginning of them ends. So every text that does not begin with the character of the mark is read
back from its bytes, a mark in front of a file without one changes neither script nor findings nor failure,
and a second mark is read as a character. -/
theorem load_reads (held : workspace.read path = .ok bytes) :
    ((∃ script, load workspace path = .ok script) ↔ IsWellFormed (withoutMark bytes)) ∧
    (∀ script, load workspace path = .ok script ↔
      encode script.text = withoutMark bytes ∧ script.file = some path.toString) ∧
    (∀ cause, load workspace path = .error cause →
      ∃ fault, cause = .undecodable fault ∧ IsLongestFront (withoutMark bytes) fault.position) ∧
    (∀ text, text.toList.head? ≠ some mark → bytes = encode text →
      load workspace path = .ok ⟨text, some path.toString⟩) ∧
    ∀ marked : Workspace, marked.read path = .ok (markBytes ++ bytes) →
      (¬ markBytes <+: bytes → load marked path = load workspace path ∧
        ∀ strings rules, analyzePath strings marked rules path = analyzePath strings workspace rules path) ∧
      (markBytes <+: bytes → ∀ script, load workspace path = .ok script →
        load marked path = .ok ⟨String.singleton mark ++ script.text, script.file⟩) := by
  have loads := load_of_read held
  refine ⟨?_, fun script => ?_, fun cause failed => ?_, ?_, fun marked held_marked => ⟨fun unmarked => ?_, ?_⟩⟩
  · rw [loads]
    exact exists_ofBytes_iff
  · rw [loads]
    exact ofBytes_eq_ok_iff
  · exact ofBytes_eq_error (loads ▸ failed)
  · rintro text unmarked rfl
    rw [loads]
    exact ofBytes_eq_ok_iff.mpr ⟨(withoutMark_encode unmarked).symm, rfl⟩
  · have same : load marked path = load workspace path := by
      rw [loads, load_of_read held_marked, ofBytes_marked unmarked]
    refine ⟨same, fun strings rules => ?_⟩
    rw [analyzePath, analyzePath, same]
  · intro before script read
    rw [load_of_read held_marked]
    exact ofBytes_marked_again before (loads ▸ read)

section Samples

/-- A file with a mark, a line and then bytes that are no text. -/
def cutOff : Workspace where
  tree := ⟨[(["a.ps1"], .file [0xEF, 0xBB, 0xBF, 97, 13, 10, 0xC3, 40])]⟩
  directory := []

/-- The place of a failure is counted from behind the mark. -/
theorem load_reads_cutOff :
    cutOff.read ⟨"", ["a.ps1"]⟩ = .ok [0xEF, 0xBB, 0xBF, 97, 13, 10, 0xC3, 40] ∧
      load cutOff ⟨"", ["a.ps1"]⟩ = .error (.undecodable ⟨3, 1, 0xC3, .invalidContinuation⟩) ∧
      IsLongestFront [97, 13, 10, 0xC3, 40] 3 := by
  have held : cutOff.read ⟨"", ["a.ps1"]⟩ = .ok [0xEF, 0xBB, 0xBF, 97, 13, 10, 0xC3, 40] := rfl
  have failed : load cutOff ⟨"", ["a.ps1"]⟩ = .error (.undecodable ⟨3, 1, 0xC3, .invalidContinuation⟩) := rfl
  obtain ⟨-, -, failure, -⟩ := load_reads held
  obtain ⟨fault, same, longest⟩ := failure _ failed
  obtain rfl := Failure.undecodable.inj same
  exact ⟨held, failed, longest⟩

end Samples

end ScriptLint.Script
