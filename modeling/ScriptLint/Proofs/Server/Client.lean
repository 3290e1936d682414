import ScriptLint.Proofs.Text.Line
import ScriptLint.Proofs.Text.Utf16
import ScriptLint.Server.Framework

/-! # Documents as clients read them

A client ends the lines of a document at a line feed, at a carriage return, or at both together, and
counts the characters of a line in UTF-16 code units; a character beyond the end of a line means that end.
What a range selects lies between the places of its two points. Lines are those of the rule as far as no
carriage return stands alone.
-/

namespace ScriptLint.Server.Client

open Text (extendFirst splitLines)
open Text.Utf16 (units)

structure Line where
  content : List Char
  /-- What ends it, nothing for the last line. -/
  ending : List Char

def Line.text (line : Line) : List Char := line.content ++ line.ending

/-- Put a character in front of the first line. -/
def extend (c : Char) : List Line → List Line
  | [] => [⟨[c], []⟩]
  | line :: rest => { line with content := c :: line.content } :: rest

def lines : List Char → List Line
  | [] => [⟨[], []⟩]
  | '\r' :: '\n' :: rest => ⟨[], ['\r', '\n']⟩ :: lines rest
  | '\r' :: rest => ⟨[], ['\r']⟩ :: lines rest
  | '\n' :: rest => ⟨[], ['\n']⟩ :: lines rest
  | c :: rest => extend c (lines rest)

/-- The place of a point in a document, in code units from its start. There is none on a line that the
document does not have. -/
def place? (document : List Char) (point : Point) : Option Nat :=
  (lines document)[point.line]?.map fun line =>
    (units (((lines document).take point.line).flatMap Line.text)).length +
      min point.character (units line.content).length

/-- The code units of a document from one point up to another. -/
def selected? (document : List Char) (start stop : Point) : Option (List Nat) := do
  let first ← place? document start
  let last ← place? document stop
  return ((units document).take last).drop first

variable {document : List Char}

theorem flatMap_text_extend (c : Char) (rest : List Line) :
    (extend c rest).flatMap Line.text = c :: rest.flatMap Line.text := by
  cases rest <;> rfl

theorem flatMap_text_lines (document : List Char) : (lines document).flatMap Line.text = document := by
  fun_induction lines document with
  | case1 => rfl
  | case2 rest ih => exact congrArg ('\r' :: '\n' :: ·) ih
  | case3 rest _ ih => exact congrArg ('\r' :: ·) ih
  | case4 rest ih => exact congrArg ('\n' :: ·) ih
  | case5 c rest _ _ _ ih => rw [flatMap_text_extend, ih]

/-- A range on one line selects code units of that line, as many as it is long if the line has them. -/
theorem selected?_of_line {index : Nat} {line : Line} (present : (lines document)[index]? = some line)
    (length : Nat) :
    selected? document ⟨index, 0⟩ ⟨index, length⟩ = some ((units line.content).take length) := by
  obtain ⟨bound, here⟩ := List.getElem?_eq_some_iff.mp present
  have whole : units document = units (((lines document).take index).flatMap Line.text) ++
      (units line.content ++ units (line.ending ++ ((lines document).drop (index + 1)).flatMap Line.text)) := by
    rw [← Text.Utf16.units_append, ← Text.Utf16.units_append, ← List.append_assoc line.content]
    show _ = units (_ ++ (line.text ++ _))
    rw [← List.flatMap_cons, ← here, ← List.drop_eq_getElem_cons bound, ← List.flatMap_append,
      List.take_append_drop, flatMap_text_lines]
  simp only [selected?, place?, present, Option.map_some, Nat.zero_min, Nat.add_zero, Option.bind_eq_bind,
    Option.bind_some, Option.pure_def, Option.some.injEq]
  rw [List.drop_take, Nat.add_sub_cancel_left, whole, List.drop_left' rfl,
    List.take_append_of_le_length (Nat.min_le_right ..), List.take_eq_take_iff, Nat.min_assoc, Nat.min_self]

section Lines

theorem map_content_extend (c : Char) (rest : List Line) :
    (extend c rest).map Line.content = extendFirst c (rest.map Line.content) := by
  cases rest <;> rfl

theorem lines_cons {c : Char} (rest : List Char) (noReturn : c ≠ '\r') (noFeed : c ≠ '\n') :
    lines (c :: rest) = extend c (lines rest) := by
  rw [lines]
  · exact fun _ same => absurd same noReturn
  · exact noReturn
  · exact noFeed

theorem lines_return {rest : List Char} (alone : ∀ more, rest ≠ '\n' :: more) :
    lines ('\r' :: rest) = ⟨[], ['\r']⟩ :: lines rest := by
  rw [lines]
  exact alone

theorem length_extend {rest : List Line} (c : Char) (some : rest ≠ []) : (extend c rest).length = rest.length := by
  obtain ⟨first, others, rfl⟩ := List.exists_cons_of_ne_nil some
  rfl

theorem lines_ne_nil (document : List Char) : lines document ≠ [] := by
  fun_cases lines document with
  | case5 c rest => cases lines rest <;> exact List.cons_ne_nil _ _
  | _ => exact List.cons_ne_nil _ _

/-- A client finds no fewer lines than the rule does. -/
theorem length_splitLines_le (document : List Char) : (splitLines document).length ≤ (lines document).length := by
  fun_induction splitLines document with
  | case1 => exact Nat.le_refl _
  | case2 rest ih => exact Nat.succ_le_succ ih
  | case3 rest ih => exact Nat.succ_le_succ ih
  | case4 c rest paired feed ih =>
    rw [Text.length_extendFirst c (Text.splitLines_ne_nil rest)]
    by_cases alone : c = '\r'
    · subst alone
      rw [lines_return fun more => paired more rfl]
      exact Nat.le_succ_of_le ih
    · rwa [lines_cons rest alone feed, length_extend c (lines_ne_nil rest)]

/-- Up to a line without carriage returns, and with none above, a client finds the lines of the rule. -/
theorem getElem?_lines_of_clear {index : Nat}
    (clear : ∀ line ∈ (splitLines document).take (index + 1), '\r' ∉ line) :
    (lines document)[index]?.map Line.content = (splitLines document)[index]? := by
  rw [← List.getElem?_map]
  fun_induction splitLines document generalizing index with
  | case1 => rfl
  | case2 rest ih =>
    cases index with
    | zero => rfl
    | succ index => exact ih (List.forall_mem_cons.mp clear).2
  | case3 rest ih =>
    cases index with
    | zero => rfl
    | succ index => exact ih (List.forall_mem_cons.mp clear).2
  | case4 c rest paired feed ih =>
    obtain ⟨first, others, shape⟩ := List.exists_cons_of_ne_nil (Text.splitLines_ne_nil rest)
    rw [shape] at ih clear
    obtain ⟨own, later⟩ := List.forall_mem_cons.mp clear
    have noReturn : c ≠ '\r' := fun same => own (same ▸ List.mem_cons_self ..)
    have inner : '\r' ∉ first := fun member => own (List.mem_cons_of_mem c member)
    have found := @ih index (List.forall_mem_cons.mpr ⟨inner, later⟩)
    rw [lines_cons rest noReturn feed, map_content_extend, shape]
    obtain ⟨line, more, both⟩ := List.exists_cons_of_ne_nil (lines_ne_nil rest)
    rw [both, List.map_cons] at found ⊢
    cases index with
    | zero => exact congrArg (Option.map (c :: ·)) found
    | succ index => exact found

end Lines

end ScriptLint.Server.Client
