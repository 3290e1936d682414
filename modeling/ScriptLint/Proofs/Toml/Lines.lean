import Mathlib.Data.List.Forall2
import ScriptLint.Proofs.Toml.Written

/-! # Written lines

A document whose lines are known one by one is read line by line: what one line makes of a draft does not
depend on the lines after it. A line may define a key by a written value.
-/

namespace ScriptLint.Toml

variable {bound count : Nat} {draft next final : Draft} {line : List Char} {lines : List (List Char)}

/-- Whether a line makes one draft of another. -/
structure Takes (bound : Nat) (draft : Draft) (line : List Char) (next : Draft) : Prop where
  /-- The line does not begin with blanks. -/
  starts : ∀ rest, skipBlanks (line ++ '\n' :: rest) = line ++ '\n' :: rest
  /-- It is a statement to its end. -/
  stated : ∀ rest, statement bound draft (line ++ '\n' :: rest) = .ok (next, '\n' :: rest)

/-- Whether lines make one draft of another, one after the other. -/
inductive Reads (bound : Nat) : Draft → List (List Char) → Draft → Prop where
  | nil (draft : Draft) : Reads bound draft [] draft
  | cons {draft next final : Draft} {line : List Char} {lines : List (List Char)}
    (first : Takes bound draft line next) (others : Reads bound next lines final) : Reads bound draft (line :: lines) final

theorem Reads.append {others : List (List Char)} (first : Reads bound draft lines next)
    (second : Reads bound next others final) : Reads bound draft (lines ++ others) final := by
  induction first with
  | nil => exact second
  | cons head _ ih => exact .cons head (ih second)

def textOf (lines : List (List Char)) : List Char := lines.flatMap fun line => line ++ ['\n']

theorem length_le_textOf (lines : List (List Char)) : lines.length ≤ (textOf lines).length := by
  induction lines with
  | nil => exact Nat.le_refl _
  | cons line lines ih =>
    rw [textOf, List.flatMap_cons, List.length_append, List.length_append, List.length_cons, List.length_singleton]
    have others : (lines.flatMap fun line => line ++ ['\n']).length = (textOf lines).length := rfl
    omega

theorem length_le_of_mem (member : line ∈ lines) : line.length ≤ (textOf lines).length := by
  obtain ⟨before, after, rfl⟩ := List.append_of_mem member
  simp only [textOf, List.flatMap_append, List.flatMap_cons, List.length_append]
  omega

/-- Lines are read to the end of the document. -/
theorem documentLines_of_reads (reads : Reads bound draft lines final) (enough : lines.length < count) :
    documentLines count bound draft (textOf lines) = .ok final := by
  induction reads generalizing count with
  | nil draft =>
    obtain ⟨smaller, rfl⟩ : ∃ smaller, count = smaller + 1 := ⟨count - 1, by omega⟩
    rfl
  | @cons draft next final line lines first _ ih =>
    obtain ⟨smaller, rfl⟩ : ∃ smaller, count = smaller + 1 := ⟨count - 1, by omega⟩
    have text : textOf (line :: lines) = line ++ '\n' :: textOf lines := by
      rw [textOf, List.flatMap_cons, List.append_assoc, List.singleton_append, textOf]
    rw [text, documentLines, first.starts, first.stated]
    exact ih (Nat.lt_of_succ_lt_succ enough)

theorem joinLineEnds_of_not_mem {source : List Char} (none : '\r' ∉ source) : joinLineEnds source = source := by
  induction source with
  | nil => rfl
  | cons c rest ih =>
    obtain ⟨other, others⟩ := not_or.mp (fun member => none (List.mem_cons.mpr member))
    rw [joinLineEnds, ih others]
    rintro more rfl
    exact absurd rfl other

/-- A document of lines without carriage returns holds what its lines define. -/
theorem parse_of_reads {root : Table} (feeds : ∀ line ∈ lines, '\r' ∉ line)
    (reads : ∀ bound, (∀ line ∈ lines, line.length ≤ bound) →
      ∃ final, Reads bound {} lines final ∧ final.root = root) :
    parse (String.ofList (textOf lines)) = .ok root := by
  have clean : '\r' ∉ textOf lines := by
    intro member
    obtain ⟨line, given, inside⟩ := List.mem_flatMap.mp member
    rcases List.mem_append.mp inside with inside | feed
    · exact feeds line given inside
    · exact absurd feed (by decide)
  have long : ∀ line ∈ lines, line.length ≤ stepBound (textOf lines) := by
    intro line member
    have short := length_le_of_mem member
    unfold stepBound
    omega
  obtain ⟨final, read, rfl⟩ := reads _ long
  rw [parse, String.toList_ofList, joinLineEnds_of_not_mem clean]
  show (documentLines _ _ {} (textOf lines)).bind _ = _
  rw [documentLines_of_reads read (Nat.lt_succ_of_le (length_le_textOf lines))]
  rfl

/-- Whether characters begin with one that begins a key. -/
def BeginsKey (chars : List Char) : Prop :=
  ∃ first more, chars = first :: more ∧ isBlank first = false ∧ first ≠ '\n' ∧ first ≠ '#' ∧ first ≠ '['

namespace BeginsKey

variable {chars : List Char} (begins : BeginsKey chars)
include begins

theorem append (rest : List Char) : BeginsKey (chars ++ rest) := by
  obtain ⟨first, more, rfl, facts⟩ := begins
  exact ⟨first, more ++ rest, rfl, facts⟩

theorem statement_eq : statement bound draft chars = definition bound draft chars := by
  obtain ⟨first, more, rfl, -, inLine, uncommented, unopened⟩ := begins
  unfold statement
  split
  next same => cases same
  next same => exact absurd (List.cons.inj same).1 inLine
  next same => exact absurd (List.cons.inj same).1 uncommented
  next same => exact absurd (List.cons.inj same).1 unopened
  next same => exact absurd (List.cons.inj same).1 unopened
  next => rfl

theorem statement_header : statement bound draft ('[' :: chars) = tableHeader bound draft chars := by
  obtain ⟨first, more, rfl, -, -, -, unopened⟩ := begins
  unfold statement
  split
  next same => cases same
  next same => cases same
  next same => cases same
  next same => exact absurd (List.cons.inj (List.cons.inj same).2).1 unopened
  next same =>
    cases same
    rfl
  next other => exact absurd rfl (other _)

theorem skipBlanks_eq : skipBlanks chars = chars := by
  obtain ⟨first, more, rfl, solid, -⟩ := begins
  rw [skipBlanks, List.dropWhile_cons_of_neg (by rw [solid]; decide)]

end BeginsKey

/-- Whether characters are one part of a key, wherever the key goes on or ends. -/
structure IsKeyPart (part : List Char) (name : String) : Prop where
  begins : BeginsKey part
  read : ∀ c rest, isBareKeyChar c = false → readKeyPart (part ++ c :: rest) = .ok (name, c :: rest)

theorem isKeyPart_writtenText {escapes : Char → Bool} (covers : EscapesControls escapes) (text : String) :
    IsKeyPart (writtenText escapes text) text where
  begins := ⟨'"', _, rfl, rfl, by decide, by decide, by decide⟩
  read _ _ _ := readKeyPart_writtenText covers text _

theorem isKeyPart_bare {name : String} (nonempty : name.toList ≠ [])
    (bare : ∀ c ∈ name.toList, isBareKeyChar c = true) : IsKeyPart name.toList name := by
  obtain ⟨first, more, chars⟩ := List.exists_cons_of_ne_nil nonempty
  have firstBare : isBareKeyChar first = true := bare first (chars ▸ List.mem_cons_self ..)
  -- No mark that ends a key or begins something else is part of a bare key.
  have other {mark : Char} (foreign : isBareKeyChar mark = false) : first ≠ mark := by
    rintro rfl
    rw [firstBare] at foreign
    cases foreign
  have solid : isBlank first = false := by
    rw [isBlank, decide_eq_false (other (by decide)), decide_eq_false (other (by decide))]
    rfl
  refine ⟨⟨first, more, chars, solid, other (by decide), other (by decide), other (by decide)⟩, fun c rest ends => ?_⟩
  have taken : (name.toList ++ c :: rest).takeWhile isBareKeyChar = name.toList := by
    rw [List.takeWhile_append_of_pos bare, List.takeWhile_cons_of_neg (by rw [ends]; decide), List.append_nil]
  have left : (name.toList ++ c :: rest).dropWhile isBareKeyChar = c :: rest := by
    rw [List.dropWhile_append_of_pos bare, List.dropWhile_cons_of_neg (by rw [ends]; decide)]
  have full : name.toList.isEmpty = false := by
    rw [chars]
    rfl
  rw [readKeyPart, taken, left, full, String.ofList_toList]
  · rfl
  · intro others same
    rw [chars] at same
    exact other (by decide) (List.cons.inj same).1
  · intro others same
    rw [chars] at same
    exact other (by decide) (List.cons.inj same).1

theorem isKeyPart_ofList (chars : List Char) (nonempty : chars ≠ []) (bare : chars.all isBareKeyChar = true) :
    IsKeyPart (String.ofList chars).toList (String.ofList chars) := by
  apply isKeyPart_bare <;> rw [String.toList_ofList]
  · exact nonempty
  · exact List.all_eq_true.mp bare

/-- A line that defines a key of one part. -/
theorem takes_definition {part written : List Char} {name : String} {value : Value} (key : IsKeyPart part name)
    (solid : ∀ rest, skipBlanks (written ++ '\n' :: rest) = written ++ '\n' :: rest)
    (read : ∀ rest, readValue (bound + 1) nestingRoom (written ++ '\n' :: rest) = .ok (value, '\n' :: rest))
    (defined : draft.define [name] value = .ok next) :
    Takes (bound + 1) draft (part ++ ' ' :: '=' :: ' ' :: written) next where
  starts rest := ((key.begins.append _).append _).skipBlanks_eq
  stated rest := by
    have path : readKey (bound + 1) (part ++ ' ' :: '=' :: ' ' :: (written ++ '\n' :: rest)) =
        .ok ([name], '=' :: ' ' :: (written ++ '\n' :: rest)) := by
      rw [readKey, key.read ' ' _ rfl]
      rfl
    have spaced : skipBlanks (' ' :: (written ++ '\n' :: rest)) = written ++ '\n' :: rest := solid rest
    rw [((key.begins.append _).append _).statement_eq, List.append_assoc, definition]
    show (readKey (bound + 1) (part ++ ' ' :: '=' :: ' ' :: (written ++ '\n' :: rest))).bind _ = _
    rw [path]
    show (readValue (bound + 1) nestingRoom (skipBlanks (' ' :: (written ++ '\n' :: rest)))).bind _ = _
    rw [spaced, read]
    show (draft.define [name] value).bind _ = _
    rw [defined]
    rfl

/-- Parts of a key with points between them. -/
def dotted : List (List Char) → List Char
  | [] => []
  | [part] => part
  | part :: rest => part ++ '.' :: dotted rest

theorem length_le_dotted (parts : List (List Char)) : parts.length ≤ (dotted parts).length + 1 := by
  fun_induction dotted parts with
  | case1 => exact Nat.zero_le _
  | case2 part => exact Nat.le_add_left ..
  | case3 part rest _ ih =>
    simp only [List.length_cons, List.length_append]
    omega

theorem return_not_mem_dotted {parts : List (List Char)} (clean : ∀ part ∈ parts, '\r' ∉ part) :
    '\r' ∉ dotted parts := by
  fun_induction dotted parts with
  | case1 => exact List.not_mem_nil
  | case2 part => exact clean part (List.mem_cons_self ..)
  | case3 part rest _ ih =>
    rw [List.mem_append, List.mem_cons, not_or, not_or]
    exact ⟨clean part (List.mem_cons_self ..), by decide,
      ih fun other member => clean other (List.mem_cons_of_mem _ member)⟩

section Headers
variable {parts : List (List Char)} {path : KeyPath}

theorem beginsKey_dotted (keys : List.Forall₂ IsKeyPart parts path) (nonempty : parts ≠ []) :
    BeginsKey (dotted parts) := by
  cases keys with
  | nil => exact absurd rfl nonempty
  | @cons part name rest others key _ =>
    cases rest with
    | nil => exact key.begins
    | cons next more => exact key.begins.append _

theorem readKey_dotted (keys : List.Forall₂ IsKeyPart parts path) (nonempty : parts ≠ [])
    (enough : parts.length ≤ bound) (rest : List Char) :
    readKey bound (dotted parts ++ ']' :: rest) = .ok (path, ']' :: rest) := by
  induction keys generalizing bound with
  | nil => exact absurd rfl nonempty
  | @cons part name parts path key keys ih =>
    rw [List.length_cons] at enough
    obtain ⟨smaller, rfl⟩ : ∃ smaller, bound = smaller + 1 := ⟨bound - 1, by omega⟩
    cases keys with
    | nil =>
      show readKey (smaller + 1) (part ++ ']' :: rest) = _
      rw [readKey, key.read ']' rest rfl]
      rfl
    | @cons second _ others _ keySecond keyOthers =>
      have follows := ih (List.cons_ne_nil _ _) (Nat.le_of_succ_le_succ enough)
      have begins := (beginsKey_dotted (.cons keySecond keyOthers) (List.cons_ne_nil _ _)).append (']' :: rest)
      rw [dotted, List.append_assoc, List.cons_append, readKey, key.read '.' _ rfl]
      · show (readKey smaller (skipBlanks (dotted (second :: others) ++ ']' :: rest))).bind _ = _
        rw [begins.skipBlanks_eq, follows]
        rfl
      · exact fun same => by cases same

/-- A line that opens the section of a table. -/
theorem takes_header (keys : List.Forall₂ IsKeyPart parts path) (nonempty : parts ≠ [])
    (enough : parts.length ≤ bound) (opened : draft.openTable path = .ok next) :
    Takes bound draft ('[' :: dotted parts ++ [']']) next where
  starts _ := rfl
  stated rest := by
    have begins := (beginsKey_dotted keys nonempty).append (']' :: '\n' :: rest)
    rw [List.append_assoc, List.cons_append]
    show statement bound draft ('[' :: (dotted parts ++ ']' :: '\n' :: rest)) = _
    rw [begins.statement_header, tableHeader, begins.skipBlanks_eq, readKey_dotted keys nonempty enough]
    show (draft.openTable path).bind _ = _
    rw [opened]
    rfl

end Headers

end ScriptLint.Toml
