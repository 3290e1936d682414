import ScriptLint.Proofs.LongLines
import ScriptLint.Proofs.Text.Boundary

/-! # Findings on both sides of a boundary

Lines are reported one by one: what is found in a text goes by its lines, so that the choice of line ends
makes no difference. At a boundary the findings fall apart into those of the text above and those of the
text below, which are only moved down. Neither part depends on the other.
-/

namespace ScriptLint

/-- The same stretch of a script with further lines above it. -/
def Extent.movedDown (count : Nat) (extent : Extent) : Extent where
  start := { extent.start with line := extent.start.line + count }
  stop := { extent.stop with line := extent.stop.line + count }

/-- The same finding with further lines above it. -/
def Record.movedDown (count : Nat) (record : Record) : Record :=
  { record with extent := record.extent.movedDown count }

namespace LongLines

section Runs
variable (strings : Strings) (rule : LongLines) (file : Option String)

/-- Lines one after the other are reported one after the other. -/
theorem recordsFrom_append (number : Nat) (first second : List String) :
    recordsFrom strings rule file number (first ++ second) = do
      let above ← recordsFrom strings rule file number first
      let below ← recordsFrom strings rule file (number + first.length) second
      return above ++ below := by
  induction first generalizing number with
  | nil => simp only [List.nil_append, recordsFrom, List.length_nil, Nat.add_zero, pure_bind, bind_pure]
  | cons line rest ih =>
    have after : number + 1 + rest.length = number + (line :: rest).length := by
      rw [List.length_cons]
      omega
    rw [List.cons_append]
    by_cases long : rule.exceeds line = true
    · simp only [recordsFrom, long, ↓reduceIte, ih, after, bind_assoc, pure_bind, List.cons_append]
    · simp only [recordsFrom, long, Bool.false_eq_true, ↓reduceIte, ih, after]

theorem lineExtent_add (number count : Nat) (line : String) :
    lineExtent file (number + count) line = (lineExtent file number line).movedDown count := by
  simp only [lineExtent, Extent.movedDown, Int.natCast_add]

theorem record_add (number count : Nat) (line : String) :
    record strings rule file (number + count) line =
      Record.movedDown count <$> record strings rule file number line := by
  simp only [record, map_bind, map_pure, lineExtent_add, Record.movedDown]

/-- Lines that are numbered from a later number on are reported further down and else in the same way. -/
theorem recordsFrom_add (number count : Nat) (lines : List String) :
    recordsFrom strings rule file (number + count) lines =
      List.map (Record.movedDown count) <$> recordsFrom strings rule file number lines := by
  induction lines generalizing number with
  | nil => rfl
  | cons line rest ih =>
    have next : number + count + 1 = number + 1 + count := by omega
    by_cases long : rule.exceeds line = true
    · simp only [recordsFrom, long, ↓reduceIte, next, ih, record_add, map_bind, bind_map_left, map_pure,
        List.map_cons]
    · simp only [recordsFrom, long, Bool.false_eq_true, ↓reduceIte, next, ih]

/-- A boundary that keeps clear of the text above it cuts the findings in two. -/
theorem analyze_append {ending : Text.LineEnd} {first : String} (clear : ending.KeepsClear first) (second : String) :
    rule.analyze strings ⟨first ++ ending.text ++ second, file⟩ = do
      let above ← rule.analyze strings ⟨first, file⟩
      let below ← rule.analyze strings ⟨second, file⟩
      return above ++ below.map (Record.movedDown (Text.lineCount first)) := by
  simp only [analyze, Text.lines_append clear, recordsFrom_append, recordsFrom_add, Text.length_lines, bind_map_left]

end Runs

section Sides
variable {message ruleName : String} {lineLength : Int} {file : Option String}

theorem line_lt_of_mem_findings {number : Nat} {lines : List String} {record : Record}
    (member : record ∈ findings message ruleName lineLength file number lines) :
    record.line < (number + lines.length : Nat) := by
  obtain ⟨index, line, present, -, rfl⟩ := mem_findings_iff.mp member
  have bound := (List.getElem?_eq_some_iff.mp present).1
  apply Int.ofNat_lt.mpr
  omega

theorem lt_line_of_mem_movedDown {count number : Nat} (positive : 0 < number) {lines : List String} {record : Record}
    (member : record ∈ (findings message ruleName lineLength file number lines).map (Record.movedDown count)) :
    count < record.line := by
  obtain ⟨own, found, rfl⟩ := List.mem_map.mp member
  have bound := le_line_of_mem_findings found
  have moved : (own.movedDown count).line = own.line + count := rfl
  omega

/-- Findings on two sides of a line are told apart by their lines. -/
theorem filter_sides {above below : List Record} {height : Int} (upper : ∀ record ∈ above, record.line ≤ height)
    (lower : ∀ record ∈ below, height < record.line) :
    (above ++ below).filter (fun record => record.line ≤ height) = above ∧
      (above ++ below).filter (fun record => height < record.line) = below := by
  have none_above : above.filter (fun record => height < record.line) = [] := by
    refine List.filter_eq_nil_iff.mpr fun record member lies => ?_
    have bound := upper record member
    rw [decide_eq_true_eq] at lies
    omega
  have none_below : below.filter (fun record => record.line ≤ height) = [] := by
    refine List.filter_eq_nil_iff.mpr fun record member lies => ?_
    have bound := lower record member
    rw [decide_eq_true_eq] at lies
    omega
  have all_above : above.filter (fun record => record.line ≤ height) = above :=
    List.filter_eq_self.mpr fun record member => decide_eq_true (upper record member)
  have all_below : below.filter (fun record => height < record.line) = below :=
    List.filter_eq_self.mpr fun record member => decide_eq_true (lower record member)
  rw [List.filter_append, List.filter_append, none_above, none_below, all_above, all_below]
  exact ⟨List.append_nil above, List.nil_append below⟩

end Sides

section Shipped
variable (preferred : Option String) (rule : LongLines) (file fileName : Option String)

/-- What is found in two texts with a boundary between them is what is found in the first, and then what is
found in the second, moved down by the lines of the first; this holds of logs and failures as well. Under the
shipped texts a run fails only for a maximum with too many digits and a line that is longer. Otherwise the line of
a finding tells on which side it is: down to the last line of the first text there is what is found in that text,
whatever the second one is, and below there is what is found in the second. -/
theorem analyze_across_boundary {ending : Text.LineEnd} {first : String} (clear : ending.KeepsClear first) :
    (∀ strings second,
      Rule.analyze strings (some ⟨first ++ ending.text ++ second, file⟩) fileName (.longLines rule) = do
        let above ← Rule.analyze strings (some ⟨first, file⟩) fileName (.longLines rule)
        let below ← Rule.analyze strings (some ⟨second, file⟩) fileName (.longLines rule)
        return above ++ below.map (Record.movedDown (Text.lineCount first))) ∧
    (∀ text, (∃ found, (Rule.analyze (Strings.shippedFor preferred) (some ⟨text, file⟩) fileName
        (.longLines rule)).result = .ok found) ↔
      Text.IsShort rule.lineLength ∨ ∀ line ∈ Text.measuredLines text, (line.length : Int) ≤ rule.lineLength) ∧
    ∀ second whole,
      (Rule.analyze (Strings.shippedFor preferred) (some ⟨first ++ ending.text ++ second, file⟩) fileName
        (.longLines rule)).result = .ok whole ↔
      ∃ above below,
        (Rule.analyze (Strings.shippedFor preferred) (some ⟨first, file⟩) fileName (.longLines rule)).result =
          .ok above ∧
        (Rule.analyze (Strings.shippedFor preferred) (some ⟨second, file⟩) fileName (.longLines rule)).result =
          .ok below ∧
        whole = above ++ below.map (Record.movedDown (Text.lineCount first)) ∧
        whole.filter (fun record => record.line ≤ (Text.lineCount first : Int)) = above ∧
        whole.filter (fun record => (Text.lineCount first : Int) < record.line) =
          below.map (Record.movedDown (Text.lineCount first)) := by
  have apart (strings : Strings) (second : String) :
      Rule.analyze strings (some ⟨first ++ ending.text ++ second, file⟩) fileName (.longLines rule) = do
        let above ← Rule.analyze strings (some ⟨first, file⟩) fileName (.longLines rule)
        let below ← Rule.analyze strings (some ⟨second, file⟩) fileName (.longLines rule)
        return above ++ below.map (Record.movedDown (Text.lineCount first)) :=
    analyze_append strings rule file clear second
  refine ⟨apart, exists_result_analyze_shipped_iff preferred rule file fileName, fun second whole => ?_⟩
  rw [apart]
  constructor
  · intro success
    obtain ⟨above, upper, rest⟩ := Traced.result_bind_eq_ok_iff.mp success
    obtain ⟨below, lower, total⟩ := Traced.result_bind_eq_ok_iff.mp rest
    obtain rfl := Except.ok.inj total
    obtain rfl := eq_findings_of_result_analyze_shipped upper
    obtain rfl := eq_findings_of_result_analyze_shipped lower
    refine ⟨_, _, upper, lower, rfl, ?_⟩
    apply filter_sides
    · intro record member
      have bound := line_lt_of_mem_findings member
      rw [Text.length_lines] at bound
      omega
    · exact fun record member => lt_line_of_mem_movedDown Nat.one_pos member
  · rintro ⟨above, below, upper, lower, rfl, -⟩
    exact Traced.result_bind_eq_ok_iff.mpr ⟨above, upper, Traced.result_bind_eq_ok_iff.mpr ⟨below, lower, rfl⟩⟩

/-- A carriage return before the boundary stays with its line. -/
theorem analyze_across_boundary_return :
    Text.LineEnd.KeepsClear .returnFeed "ab\r" ∧
      ∃ whole, (Rule.analyze (Strings.shippedFor none) (some ⟨"ab\r\r\nc\nde", none⟩) none
          (.longLines ⟨true, 1⟩)).result = .ok whole ∧
        whole.map (fun record => (record.line, record.extent.stop.column)) = [(1, 3), (3, 2)] := by
  have clear : Text.LineEnd.KeepsClear .returnFeed "ab\r" := by
    rintro ⟨⟩
  have short : Text.IsShort 1 := by decide +kernel
  obtain ⟨-, succeeds, sides⟩ := analyze_across_boundary none ⟨true, 1⟩ none none clear
  obtain ⟨whole, found⟩ := (succeeds "ab\r\r\nc\nde").mpr (.inl short)
  obtain ⟨above, below, upper, lower, parts, -⟩ := (sides "c\nde" whole).mp found
  refine ⟨clear, whole, found, ?_⟩
  rw [parts, eq_findings_of_result_analyze_shipped upper, eq_findings_of_result_analyze_shipped lower]
  decide +kernel

/-- The line ends of a text do not matter. Of lines without line feeds, of which none but the last ends with a
carriage return, exactly these are measured, whichever line end stands after each of them, and the same is
found in any two texts that are written so; this holds of logs and failures as well. Under the shipped texts a run
fails exactly if the maximum has too many digits and one of the lines is longer. -/
theorem analyze_joined {inner : List String} {last : String} {ended otherwise : List (String × Text.LineEnd)}
    (single : ∀ line ∈ inner, '\n' ∉ line.toList ∧ line.toList.getLast? ≠ some '\r')
    (single_last : '\n' ∉ last.toList)
    (written : ended.map Prod.fst = inner) (written_otherwise : otherwise.map Prod.fst = inner) :
    Text.lines (Text.joined last ended) = inner ++ [last] ∧
    Text.lines (Text.joined last otherwise) = inner ++ [last] ∧
    (∀ strings, Rule.analyze strings (some ⟨Text.joined last ended, file⟩) fileName (.longLines rule) =
      Rule.analyze strings (some ⟨Text.joined last otherwise, file⟩) fileName (.longLines rule)) ∧
    (Rule.analyze (Strings.shippedFor preferred) (some ⟨Text.joined last ended, file⟩) fileName
      (.longLines rule)).result =
        if Text.IsShort rule.lineLength ∨ ∀ line ∈ inner ++ [last], (line.length : Int) ≤ rule.lineLength then
          .ok (findings (shippedMessage rule.lineLength) shippedName rule.lineLength file 1 (inner ++ [last]))
        else .error (.template .integerTooLong) := by
  have measured {ended : List (String × Text.LineEnd)} (written : ended.map Prod.fst = inner) :
      Text.lines (Text.joined last ended) = inner ++ [last] := by
    rw [← written]
    apply Text.lines_joined _ single_last
    intro entry member
    obtain ⟨own, clear⟩ := single entry.1 (written ▸ List.mem_map_of_mem member)
    exact ⟨own, fun _ => clear⟩
  refine ⟨measured written, measured written_otherwise, fun strings => ?_, ?_⟩
  · change recordsFrom _ _ _ _ (Text.lines _) = recordsFrom _ _ _ _ (Text.lines _)
    rw [measured written, measured written_otherwise]
  · have lines : Text.measuredLines (Text.joined last ended) = inner ++ [last] := by
      rw [← Text.lines_eq_measuredLines, measured written]
    rw [result_analyze_shipped, measured written, ← lines]
    rfl

/-- Line ends may be mixed, and carriage returns within a line stay there. -/
theorem analyze_joined_mixed :
    (∀ line ∈ ["a\rb", ""], '\n' ∉ line.toList ∧ line.toList.getLast? ≠ some '\r') ∧ '\n' ∉ "\r".toList ∧
      Text.lines "a\rb\n\r\n\r" = ["a\rb", "", "\r"] ∧
      ∀ strings, Rule.analyze strings (some ⟨"a\rb\n\r\n\r", none⟩) none (.longLines ⟨true, 0⟩) =
        Rule.analyze strings (some ⟨"a\rb\r\n\n\r", none⟩) none (.longLines ⟨true, 0⟩) := by
  have single : ∀ line ∈ ["a\rb", ""], '\n' ∉ line.toList ∧ line.toList.getLast? ≠ some '\r' := by decide +kernel
  have single_last : '\n' ∉ "\r".toList := by decide +kernel
  obtain ⟨measured, -, same, -⟩ := @analyze_joined none ⟨true, 0⟩ none none ["a\rb", ""] "\r"
    [("a\rb", .feed), ("", .returnFeed)] [("a\rb", .returnFeed), ("", .feed)] single single_last rfl rfl
  exact ⟨single, single_last, measured, same⟩

end Shipped

end LongLines

end ScriptLint
