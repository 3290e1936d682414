import ScriptLint.Proofs.Text.Line

/-! # Texts put together at a boundary

A boundary between two texts keeps them apart: the lines of the whole are the lines of the first text and
then those of the second. Only a carriage return at the end of the first text and a bare line feed after it
would be taken for one boundary. So a text that is written line by line has exactly these lines, whichever
boundary was chosen after each of them.
-/

namespace ScriptLint.Text

inductive LineEnd where
  | feed
  | returnFeed
  deriving DecidableEq, Repr

def LineEnd.chars : LineEnd → List Char
  | .feed => ['\n']
  | .returnFeed => ['\r', '\n']

def LineEnd.text (ending : LineEnd) : String := String.ofList ending.chars

/-- Whether a line end keeps clear of the text before it: a bare line feed would take a carriage return
with it. -/
def LineEnd.KeepsClear (ending : LineEnd) (text : String) : Prop :=
  ending = .feed → text.toList.getLast? ≠ some '\r'

/-- The text of lines with their ends, and a last line without one. -/
def joined (last : String) : List (String × LineEnd) → String
  | [] => last
  | (line, ending) :: rest => line ++ ending.text ++ joined last rest

theorem extendFirst_append (c : Char) {pieces : List (List Char)} (some : pieces ≠ []) (others : List (List Char)) :
    extendFirst c (pieces ++ others) = extendFirst c pieces ++ others := by
  obtain ⟨first, rest, rfl⟩ := List.exists_cons_of_ne_nil some
  rfl

theorem splitLines_cons {c : Char} {cs : List Char} (kept : c ≠ '\n') (inside : c = '\r' → cs.head? ≠ some '\n') :
    splitLines (c :: cs) = extendFirst c (splitLines cs) := by
  apply splitLines.eq_4
  · rintro rest rfl rfl
    exact inside rfl rfl
  · exact kept

/-- The scanner looks one character ahead, so that a boundary is its own wherever it is not fused with a
carriage return before it. -/
theorem splitLines_append {ending : LineEnd} {first : List Char}
    (clear : ending = .feed → first.getLast? ≠ some '\r') (second : List Char) :
    splitLines (first ++ (ending.chars ++ second)) = splitLines first ++ splitLines second := by
  -- What ends with a carriage return still does so behind further characters.
  have later {c : Char} {rest : List Char} (clear : ending = .feed → (c :: rest).getLast? ≠ some '\r') :
      ending = .feed → rest.getLast? ≠ some '\r' := by
    intro bare last
    apply clear bare
    rw [List.getLast?_cons, last]
    rfl
  fun_induction splitLines first with
  | case1 => cases ending <;> rfl
  | case2 rest ih => exact congrArg ([] :: ·) (ih (later (later clear)))
  | case3 rest ih => exact congrArg ([] :: ·) (ih (later clear))
  | case4 c rest paired feed ih =>
    have kept : c ≠ '\n' := feed
    have inside : c = '\r' → (rest ++ (ending.chars ++ second)).head? ≠ some '\n' := by
      rintro rfl starts
      cases rest with
      | nil =>
        cases ending with
        | feed => exact clear rfl rfl
        | returnFeed => exact absurd (Option.some.inj starts) (by decide)
      | cons next others =>
        obtain rfl := Option.some.inj starts
        exact paired others rfl rfl
    rw [List.cons_append, splitLines_cons kept inside, ih (later clear),
      extendFirst_append c (splitLines_ne_nil rest)]

/-- A boundary that keeps clear of the text before it cuts the lines of that text off. -/
theorem lines_append {ending : LineEnd} {first : String} (clear : ending.KeepsClear first) (second : String) :
    lines (first ++ ending.text ++ second) = lines first ++ lines second := by
  have characters : (first ++ ending.text ++ second).toList = first.toList ++ (ending.chars ++ second.toList) := by
    rw [String.toList_append, String.toList_append, LineEnd.text, String.toList_ofList, List.append_assoc]
  rw [lines, characters, splitLines_append clear, List.map_append]
  rfl

/-- The lines of a text that is written line by line are those that were written. -/
theorem lines_joined {ended : List (String × LineEnd)} {last : String}
    (single : ∀ entry ∈ ended, '\n' ∉ entry.1.toList ∧ entry.2.KeepsClear entry.1)
    (single_last : '\n' ∉ last.toList) :
    lines (joined last ended) = ended.map Prod.fst ++ [last] := by
  induction ended with
  | nil => exact lines_of_not_mem single_last
  | cons entry rest ih =>
    obtain ⟨line, ending⟩ := entry
    obtain ⟨own, clear⟩ := single _ (List.mem_cons_self ..)
    have others := ih fun entry member => single entry (List.mem_cons_of_mem _ member)
    rw [joined, lines_append clear, lines_of_not_mem own, others]
    rfl

/-- The number of lines of a text: one more than it has line feeds. -/
def lineCount (text : String) : Nat := 1 + text.toList.count '\n'

theorem length_lines (text : String) : (lines text).length = lineCount text := by
  rw [lines_eq_measuredLines, length_measuredLines, lineCount]

end ScriptLint.Text
