import ScriptLint.Text.Line

/-! # Lines as repaired pieces

The scanner that finds lines looks at a carriage return and a line feed at once. The same lines come
from cutting at every line feed and taking one carriage return from the end of each piece that a line
feed follows. Nothing else about carriage returns matters.
-/

namespace ScriptLint.Text

/-- A piece without one carriage return at its end. -/
def withoutReturn (piece : List Char) : List Char :=
  if piece.getLast? = some '\r' then piece.dropLast else piece

/-- The lines that pieces between line feeds stand for: each but the last gives up a carriage
return. -/
def repair (pieces : List (List Char)) : List (List Char) :=
  pieces.dropLast.map withoutReturn ++ pieces.getLast?.toList

theorem repair_cons (piece : List Char) {rest : List (List Char)} (more : rest ≠ []) :
    repair (piece :: rest) = withoutReturn piece :: repair rest := by
  obtain ⟨next, others, rfl⟩ := List.exists_cons_of_ne_nil more
  simp only [repair, List.dropLast_cons_cons, List.map_cons, List.cons_append, List.getLast?_cons_cons]

theorem length_repair (pieces : List (List Char)) : (repair pieces).length = pieces.length := by
  rcases List.eq_nil_or_concat pieces with rfl | ⟨front, last, rfl⟩
  · rfl
  · simp only [repair, List.concat_eq_append, List.dropLast_concat, List.getLast?_concat,
      Option.toList_some, List.length_append, List.length_map]

theorem withoutReturn_cons (c : Char) {piece : List Char} (more : piece ≠ []) :
    withoutReturn (c :: piece) = c :: withoutReturn piece := by
  obtain ⟨next, others, rfl⟩ := List.exists_cons_of_ne_nil more
  unfold withoutReturn
  rw [List.getLast?_cons_cons, List.dropLast_cons_cons]
  split <;> rfl

theorem extendFirst_ne_nil (c : Char) (pieces : List (List Char)) : extendFirst c pieces ≠ [] := by
  cases pieces <;> exact List.cons_ne_nil _ _

theorem length_extendFirst (c : Char) {pieces : List (List Char)} (some : pieces ≠ []) :
    (extendFirst c pieces).length = pieces.length := by
  obtain ⟨first, others, rfl⟩ := List.exists_cons_of_ne_nil some
  rfl

theorem splitLines_ne_nil (cs : List Char) : splitLines cs ≠ [] := by
  fun_cases splitLines cs with
  | case4 => exact extendFirst_ne_nil _ _
  | _ => exact List.cons_ne_nil _ _

theorem cutAt_ne_nil (separator : Char) (cs : List Char) : cutAt separator cs ≠ [] := by
  cases cs with
  | nil => exact List.cons_ne_nil _ _
  | cons c rest =>
    unfold cutAt
    split
    · exact List.cons_ne_nil _ _
    · exact extendFirst_ne_nil c _

/-- There is one piece more than there are separators. -/
theorem length_cutAt (separator : Char) (cs : List Char) :
    (cutAt separator cs).length = 1 + cs.count separator := by
  induction cs with
  | nil => rfl
  | cons c rest ih =>
    by_cases same : c = separator
    · simp only [cutAt, same, ↓reduceIte, List.length_cons, ih, List.count_cons_self]
      omega
    · rw [List.count_cons_of_ne same, ← ih, cutAt, if_neg same, length_extendFirst c (cutAt_ne_nil separator rest)]

/-- A first piece that is empty and not the last one means that the text starts with a separator. -/
theorem head?_of_cutAt_eq_nil_cons {separator : Char} {cs : List Char} {pieces : List (List Char)}
    (cut : cutAt separator cs = [] :: pieces) (more : pieces ≠ []) : cs.head? = some separator := by
  cases cs with
  | nil =>
    obtain ⟨-, rfl⟩ := List.cons.inj cut
    contradiction
  | cons c rest =>
    by_cases same : c = separator
    · rw [List.head?_cons, same]
    · obtain ⟨first, others, shape⟩ := List.exists_cons_of_ne_nil (cutAt_ne_nil separator rest)
      simp only [cutAt, same, ↓reduceIte, shape, extendFirst, List.cons.injEq, List.cons_ne_nil, false_and] at cut

/-- A character in front belongs to the first line, except a carriage return right before a line
feed. -/
theorem repair_extendFirst {c : Char} {cs : List Char}
    (inside : c = '\r' → cs.head? ≠ some '\n') :
    repair (extendFirst c (cutAt '\n' cs)) = extendFirst c (repair (cutAt '\n' cs)) := by
  obtain ⟨first, others, cut⟩ := List.exists_cons_of_ne_nil (cutAt_ne_nil '\n' cs)
  rw [cut]
  by_cases more : others = []
  · subst more
    rfl
  · simp only [extendFirst, repair_cons _ more]
    congr 1
    by_cases filled : first = []
    · subst filled
      have other : c ≠ '\r' := fun same => inside same (head?_of_cutAt_eq_nil_cons cut more)
      simp only [withoutReturn, List.getLast?_singleton, Option.some.injEq, other, ↓reduceIte,
        List.getLast?_nil, reduceCtorEq]
    · exact withoutReturn_cons c filled

/-- The lines of a text are the repaired pieces between its line feeds. -/
theorem splitLines_eq_repair (cs : List Char) : splitLines cs = repair (cutAt '\n' cs) := by
  fun_induction splitLines cs with
  | case1 => rfl
  | case2 rest ih =>
    rw [ih]
    exact (repair_cons ['\r'] (cutAt_ne_nil '\n' rest)).symm
  | case3 rest ih =>
    rw [ih]
    exact (repair_cons [] (cutAt_ne_nil '\n' rest)).symm
  | case4 c rest paired feed ih =>
    -- A carriage return that the scanner keeps is not the last one before a line feed.
    have inside : c = '\r' → rest.head? ≠ some '\n' := by
      rintro rfl starts
      obtain ⟨tail, rfl⟩ := List.head?_eq_some_iff.mp starts
      exact paired tail rfl rfl
    have kept : c ≠ '\n' := feed
    rw [ih, ← repair_extendFirst inside]
    simp only [cutAt, kept, ↓reduceIte]

/-- The lines of a text by its line feeds. -/
def measuredLines (text : String) : List String :=
  (repair (cutAt '\n' text.toList)).map String.ofList

theorem lines_eq_measuredLines (text : String) : lines text = measuredLines text := by
  rw [lines, splitLines_eq_repair, measuredLines]

theorem cutAt_of_not_mem {separator : Char} {cs : List Char} (absent : separator ∉ cs) :
    cutAt separator cs = [cs] := by
  induction cs with
  | nil => rfl
  | cons c rest ih =>
    have other : c ≠ separator := fun same => absent (same ▸ List.mem_cons_self ..)
    simp only [cutAt, other, ↓reduceIte, ih fun member => absent (List.mem_cons_of_mem _ member), extendFirst]

/-- A text without line feeds is one line. -/
theorem lines_of_not_mem {text : String} (single : '\n' ∉ text.toList) : lines text = [text] := by
  rw [lines, splitLines_eq_repair, cutAt_of_not_mem single]
  exact congrArg (· :: []) String.ofList_toList

example : measuredLines "a\rb\r\r\n\r" = ["a\rb\r", "\r"] := by decide +kernel

/-- A text has one line more than it has line feeds. -/
theorem length_measuredLines (text : String) : (measuredLines text).length = 1 + text.toList.count '\n' := by
  rw [measuredLines, List.length_map, length_repair, length_cutAt]

theorem length_le_of_mem_extendFirst {c : Char} {pieces : List (List Char)} {bound : Nat} {piece : List Char}
    (short : ∀ piece ∈ pieces, piece.length ≤ bound) (member : piece ∈ extendFirst c pieces) :
    piece.length ≤ bound + 1 := by
  cases pieces with
  | nil =>
    obtain rfl := List.mem_singleton.mp member
    exact Nat.le_add_left ..
  | cons first others =>
    rcases List.mem_cons.mp member with rfl | later
    · exact Nat.succ_le_succ (short first (List.mem_cons_self ..))
    · exact Nat.le_succ_of_le (short piece (List.mem_cons_of_mem _ later))

/-- No line is longer than the text. -/
theorem length_le_of_mem_splitLines {cs piece : List Char} (member : piece ∈ splitLines cs) :
    piece.length ≤ cs.length := by
  fun_induction splitLines cs generalizing piece with
  | case1 =>
    obtain rfl := List.mem_singleton.mp member
    exact Nat.le_refl _
  | case2 rest ih =>
    rcases List.mem_cons.mp member with rfl | later
    · exact Nat.zero_le _
    · exact Nat.le_succ_of_le (Nat.le_succ_of_le (ih later))
  | case3 rest ih =>
    rcases List.mem_cons.mp member with rfl | later
    · exact Nat.zero_le _
    · exact Nat.le_succ_of_le (ih later)
  | case4 c rest _ _ ih => exact length_le_of_mem_extendFirst (fun _ => ih) member

theorem bounds_of_getElem?_lines {text line : String} {index : Nat} (present : (lines text)[index]? = some line) :
    index ≤ text.length ∧ line.length ≤ text.length := by
  constructor
  · have inside := (List.getElem?_eq_some_iff.mp present).1
    rw [lines_eq_measuredLines, length_measuredLines] at inside
    have feeds : text.toList.count '\n' ≤ text.toList.length := List.count_le_length
    rw [String.length_toList] at feeds
    omega
  · obtain ⟨piece, member, rfl⟩ := List.mem_map.mp (List.mem_of_getElem? present)
    rw [String.length_ofList, ← String.length_toList]
    exact length_le_of_mem_splitLines member

end ScriptLint.Text
