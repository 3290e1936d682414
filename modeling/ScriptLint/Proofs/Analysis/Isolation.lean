import ScriptLint.Proofs.Analysis
import ScriptLint.Proofs.LongLines

/-! # When a rule breaks an analysis

A rule that fails is passed over as if it were not there, provided that its name can be told: the log
entry about the failure needs the name, and telling it is not guarded. The rule against long lines
cannot be named where the templates of its name are malformed, and breaks the analysis of every script
with a line that is too long.
-/

namespace ScriptLint

namespace Rule

variable {strings : Strings} {script : Script}

/-- Leaving out the rules that fail takes no finding away. -/
theorem flatMap_found_filter (rules : List Rule) :
    (rules.filter fun rule => !rule.fails strings script).flatMap (found strings script) =
      rules.flatMap (found strings script) := by
  induction rules with
  | nil => rfl
  | cons rule rest ih =>
    rw [List.filter_cons]
    cases failure : rule.fails strings script with
    | false => simp only [Bool.not_false, ↓reduceIte, List.flatMap_cons, ih]
    | true =>
      simp only [Bool.not_true, Bool.false_eq_true, ↓reduceIte, List.flatMap_cons, ih, found_of_fails failure,
        List.nil_append]

theorem active_filter (keep : Rule → Bool) (rules : List Rule) :
    active (rules.filter keep) = (active rules).filter keep := by
  unfold active
  rw [List.filter_filter, List.filter_filter]
  exact List.filter_congr fun rule _ => Bool.and_comm ..

/-- Where the rule against long lines cannot be named, it fails on the scripts with a line that is too
long. -/
theorem fails_longLines_of_unnamed {cause : Failure} (unnamed : (LongLines.name strings).result = .error cause)
    (rule : LongLines) :
    (longLines rule).fails strings script = true ↔
      LongLines.tooLong rule.lineLength 1 (Text.lines script.text) ≠ [] := by
  have unworded : ∃ other, LongLines.wording strings rule = .error other := by
    unfold LongLines.wording
    cases (strings.text .longLinesError [.int rule.lineLength]).result with
    | error other => exact ⟨other, rfl⟩
    | ok message => exact ⟨cause, by rw [unnamed]; rfl⟩
  obtain ⟨other, unworded⟩ := unworded
  constructor
  · intro failure
    unfold fails at failure
    cases answered : (longLines rule).answer strings script with
    | ok records => simp only [answered, Bool.false_eq_true] at failure
    | error reason => exact ((LongLines.analyze_fails_iff strings rule script reason).mp answered).1
  · intro long
    have answered : (longLines rule).answer strings script = .error other :=
      (LongLines.analyze_fails_iff strings rule script other).mpr ⟨long, unworded⟩
    simp only [fails, answered]

end Rule

/-- An analysis goes through exactly if every enabled rule that fails can be named. Then a rule that
fails contributes nothing, and the findings are those of the other rules alone. Otherwise the failure
is that of the name of the first enabled rule that fails and cannot be named. -/
theorem analyze_succeeds_iff (strings : Strings) (rules : List Rule) (script : Script) :
    ((∃ merged, (analyze strings rules script).result = .ok merged) ↔
      ∀ rule ∈ rules, rule.isEnabled = true → rule.fails strings script = true →
        rule.isNamed strings = true) ∧
    (∀ merged, (analyze strings rules script).result = .ok merged →
      merged.Perm ((Rule.active rules).flatMap (Rule.found strings script)) ∧
      (analyze strings (rules.filter fun rule => !rule.fails strings script) script).result = .ok merged) ∧
    (∀ cause, (analyze strings rules script).result = .error cause →
      ∃ front rule back, Rule.active rules = front ++ rule :: back ∧
        rule.fails strings script = true ∧ (rule.name strings).result = .error cause ∧
        ∀ earlier ∈ front, earlier.fails strings script = true → earlier.isNamed strings = true) ∧
    ∀ (rule : LongLines) (cause : Failure), (LongLines.name strings).result = .error cause →
      ((Rule.longLines rule).fails strings script = true ↔
        LongLines.tooLong rule.lineLength 1 (Text.lines script.text) ≠ []) := by
  have builtin (rule : LongLines) (cause : Failure) (unnamed : (LongLines.name strings).result = .error cause) :=
    @Rule.fails_longLines_of_unnamed strings script cause unnamed rule
  have outcome : (analyze strings rules script).result = _ := result_analyze rules
  cases broken : (Rule.active rules).findSome? (Rule.breakage? strings script) with
  | none =>
    simp only [broken] at outcome
    have named := unbroken_iff.mp broken
    refine ⟨⟨fun _ => named, fun _ => ⟨_, outcome⟩⟩, ?_, ?_, builtin⟩
    · intro merged success
      obtain rfl := Except.ok.inj (outcome.symm.trans success)
      refine ⟨sortStable_perm .., ?_⟩
      have unbroken : (Rule.active (rules.filter fun rule => !rule.fails strings script)).findSome?
          (Rule.breakage? strings script) = none :=
        unbroken_iff.mpr fun rule member => named rule (List.mem_filter.mp member).1
      rw [result_analyze, unbroken]
      simp only [Rule.active_filter, Rule.flatMap_found_filter]
    · intro cause failure
      rw [outcome] at failure
      contradiction
  | some reason =>
    simp only [broken] at outcome
    refine ⟨⟨?_, ?_⟩, ?_, ?_, builtin⟩
    · rintro ⟨merged, success⟩
      rw [outcome] at success
      contradiction
    · intro named
      rw [unbroken_iff.mpr named] at broken
      contradiction
    · intro merged success
      rw [outcome] at success
      contradiction
    · intro cause failure
      obtain rfl := Except.error.inj (outcome.symm.trans failure)
      obtain ⟨front, rule, back, split, breaks, earlier⟩ := List.findSome?_eq_some_iff.mp broken
      obtain ⟨fails, unnamed⟩ := Rule.breakage?_eq_some_iff.mp breaks
      exact ⟨front, rule, back, split, fails, unnamed,
        fun other member => Rule.breakage?_eq_none_iff.mp (earlier other member)⟩

/-- A template that cannot be filled in, for the name of the rule against long lines, lets that rule
break the analysis. -/
theorem analyze_fails_unnamed :
    (analyze ((Strings.shippedFor (some "xx")).withTables [("xx", [(TextKey.nameSpaceFormat.name, "\x7b")])])
      [.longLines { enable := true, lineLength := 0 }] ⟨"a", none⟩).result =
        .error (.template (.malformed .loneOpen)) := by
  rfl

end ScriptLint
