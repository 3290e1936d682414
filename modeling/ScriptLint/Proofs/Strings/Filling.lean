import ScriptLint.Proofs.Strings
import ScriptLint.Proofs.Text.Digits

/-! # Texts as their templates mean them

A look-up whose template is found shows that template: the parts of the template in order, with the texts of
arguments in place of fields. Texts that were looked up before are arguments like any other, so the name of the
rule contains the name of the source and its own name unchanged.
-/

namespace ScriptLint

open Text.Template (Argument AreNumbered Suits maxIndex written filled haveTexts holdsDigits doubled areNumbered_cons)

namespace Strings

variable {strings : Strings} {key : String} {asked : Option String} {template : String} {arguments : List Argument}

theorem result_lookup_eq_ok_iff (found : strings.template? (strings.requested asked) key = some template)
    {text : String} :
    (strings.lookup key arguments asked).result = .ok text ↔ Text.Template.format template arguments = .ok text := by
  rw [result_lookup, found, answer_eq_ok_iff]

/-- A look-up that found a template answers, or the template cannot be filled in. -/
theorem result_lookup_of_refused (found : strings.template? (strings.requested asked) key = some template)
    (refused : ¬ ∃ text, (strings.lookup key arguments asked).result = .ok text) :
    ∃ fault, (strings.lookup key arguments asked).result = .error (.template fault) := by
  cases answered : (strings.lookup key arguments asked).result with
  | ok text => exact absurd ⟨text, answered⟩ refused
  | error cause =>
    rw [result_lookup, found, answer_eq_error_iff] at answered
    obtain ⟨fault, -, rfl⟩ := answered
    exact ⟨fault, rfl⟩

/-- Whether a result is what the parts of a template show with arguments that suit them and have texts, and no
answer with arguments that do not. -/
def IsShown (template : String) (arguments : List Argument) (result : Except Failure String) : Prop :=
  ∀ parts text, template.toList = written parts →
    (result = .ok text ↔ Suits arguments parts ∧ haveTexts arguments 0 parts = true ∧
      text = String.ofList (filled arguments 0 parts))

theorem isShown_lookup (found : strings.template? (strings.requested asked) key = some template)
    (room : arguments.length ≤ maxIndex + 1) :
    IsShown template arguments (strings.lookup key arguments asked).result := by
  intro parts text shape
  rw [result_lookup_eq_ok_iff found]
  exact Text.Template.format_written_iff room shape

theorem isShown_name {source rule joined : String} (label : (strings.text .sourceName []).result = .ok source)
    (own : (strings.text .longLinesName []).result = .ok rule)
    (found : strings.template? strings.currentCulture TextKey.nameSpaceFormat.name = some joined) :
    IsShown joined [.text source, .text rule] (LongLines.name strings).result := by
  have current : strings.template? (strings.requested none) TextKey.nameSpaceFormat.name = some joined := found
  rw [LongLines.result_name_of_texts label own]
  exact isShown_lookup current (by simp [maxIndex])

/-- Two numbered fields side by side show two texts as they are. -/
theorem IsShown.two_texts {first second : String} {result : Except Failure String}
    (shown : IsShown "\x7b0\x7d\x7b1\x7d" [.text first, .text second] result) : result = .ok (first ++ second) := by
  have shape : "\x7b0\x7d\x7b1\x7d".toList = written [.field ['0'] rfl, .field ['1'] rfl] := by
    decide
  have nothing : AreNumbered [.text first, .text second] [] := fun _ member => absurd member List.not_mem_nil
  have one : AreNumbered [.text first, .text second] [.field ['1'] rfl] :=
    areNumbered_cons.mpr ⟨⟨List.cons_ne_nil _ _, Nat.one_lt_two⟩, nothing⟩
  have both : AreNumbered [.text first, .text second] [.field ['0'] rfl, .field ['1'] rfl] :=
    areNumbered_cons.mpr ⟨⟨List.cons_ne_nil _ _, Nat.zero_lt_two⟩, one⟩
  have joined : filled [.text first, .text second] 0 [.field ['0'] rfl, .field ['1'] rfl] =
      first.toList ++ (second.toList ++ []) := rfl
  refine (shown _ _ shape).mpr ⟨.inl both, rfl, ?_⟩
  rw [joined, List.append_nil, String.ofList_append, String.ofList_toList, String.ofList_toList]

/-- For every template that a look-up finds, and all arguments that a call can have, which are no more than there
are numbers for fields: if the braces that open fields have digits behind them, there is an answer exactly if the
template was put together from characters, doubled braces and fields, all with numbers of arguments or all for
the next argument, and no field is for an integer with too many digits. The answer shows braces once, and the text
of its argument for each field, braces included. So a text with its braces doubled shows itself, and the name of
the rule shows the texts it is made from. -/
theorem lookup_fills_in (found : strings.template? (strings.requested asked) key = some template)
    (room : arguments.length ≤ maxIndex + 1) :
    (holdsDigits false template.toList = true →
      ((∃ text, (strings.lookup key arguments asked).result = .ok text) ↔
        ∃ parts, template.toList = written parts ∧ Suits arguments parts ∧ haveTexts arguments 0 parts = true) ∧
      ((¬ ∃ parts, template.toList = written parts ∧ Suits arguments parts ∧ haveTexts arguments 0 parts = true) →
        ∃ fault, (strings.lookup key arguments asked).result = .error (.template fault))) ∧
    IsShown template arguments (strings.lookup key arguments asked).result ∧
    (∀ text, template = doubled text → (strings.lookup key arguments asked).result = .ok text) ∧
    (∀ source rule joined, (strings.text .sourceName []).result = .ok source →
      (strings.text .longLinesName []).result = .ok rule →
      strings.template? strings.currentCulture TextKey.nameSpaceFormat.name = some joined →
      IsShown joined [.text source, .text rule] (LongLines.name strings).result ∧
      (joined = "\x7b0\x7d\x7b1\x7d" → (LongLines.name strings).result = .ok (source ++ rule))) := by
  refine ⟨fun decimal => ?_, isShown_lookup found room, ?_, ?_⟩
  · have fits : (∃ text, (strings.lookup key arguments asked).result = .ok text) ↔
        ∃ parts, template.toList = written parts ∧ Suits arguments parts ∧ haveTexts arguments 0 parts = true := by
      simp only [result_lookup_eq_ok_iff found]
      exact Text.Template.exists_format_iff room decimal
    exact ⟨fits, fun unfit => result_lookup_of_refused found (mt fits.mp unfit)⟩
  · rintro text rfl
    exact (result_lookup_eq_ok_iff found).mpr (Text.Template.format_doubled room text)
  · intro source rule joined label own held
    have shown := isShown_name label own held
    refine ⟨shown, ?_⟩
    rintro rfl
    exact shown.two_texts

/-- A template with braces around a numbered field, and another field behind them. -/
def braced : String := "\x7b\x7b\x7b00\x7d\x7d\x7d\x7b1\x7d"

/-- A table with that template, and with braces in the texts that make up the name of the rule. -/
def bracedSample : Strings where
  tables := [(defaultCulture, [("Sample", braced), (TextKey.sourceName.name, "P\x7b\x7bS\x7d\x7d"),
    (TextKey.longLinesName.name, "\x7b\x7b0\x7d\x7d"), (TextKey.nameSpaceFormat.name, "\x7b\x7d/\x7b\x7d")])]

theorem lookup_fills_in_braced :
    bracedSample.template? (bracedSample.requested none) "Sample" = some braced ∧
      holdsDigits false braced.toList = true ∧
      (bracedSample.lookup "Sample" [.text "\x7b1\x7d", .int (-3)] none).result = .ok "\x7b\x7b1\x7d\x7d-3" ∧
      (LongLines.name bracedSample).result = .ok "P\x7bS\x7d/\x7b0\x7d" := by
  have found : bracedSample.template? (bracedSample.requested none) "Sample" = some braced := by decide
  obtain ⟨-, shown, -, names⟩ := lookup_fills_in found
    (show [Argument.text "\x7b1\x7d", Argument.int (-3)].length ≤ maxIndex + 1 by simp [maxIndex])
  refine ⟨found, by decide, ?_, ?_⟩
  · have whole : braced.toList = written [.char '\x7b', .field ['0', '0'] rfl, .char '\x7d', .field ['1'] rfl] := by
      decide
    exact (shown _ _ whole).mpr ⟨by decide, by decide +kernel, by decide⟩
  · have joined : "\x7b\x7d/\x7b\x7d".toList = written [.field [] rfl, .char '/', .field [] rfl] := by decide
    exact ((names "P\x7bS\x7d" "\x7b0\x7d" _ rfl rfl rfl).1 _ _ joined).mpr ⟨by decide, by decide +kernel, by decide⟩

/-- A field for an integer with too many digits leaves a template without an answer. -/
theorem lookup_fails_long :
    (lookup { tables := [(defaultCulture, [("Sample", "\x7b0\x7d")])] } "Sample" [.int Text.leastLong] none).result =
      .error (.template .integerTooLong) := by
  have shape : "\x7b0\x7d".toList = [] ++ '{' :: '0' :: '}' :: [] := rfl
  have formatted := Text.Template.format_around_argument shape rfl rfl (.int Text.leastLong)
  rw [result_lookup]
  show answer "Sample" [.int Text.leastLong] (some "\x7b0\x7d") = _
  rw [answer, formatted, Text.Template.shown_int_of_long Text.not_isShort_leastLong]
  rfl

end Strings

end ScriptLint
