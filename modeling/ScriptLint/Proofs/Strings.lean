import ScriptLint.LongLines
import ScriptLint.Proofs.Text.Template
import ScriptLint.Proofs.Traced

/-! # Looking up texts

A look-up answers with the template that the tables hold for its key, filled in. Its only trace is a
note about a culture without a table. With the shipped table alone every culture shows the shipped
texts.
-/

namespace ScriptLint

namespace Strings

/-- The template for a key in a culture, from the table of the culture or else from that of `en-US`. -/
def template? (strings : Strings) (culture key : String) : Option String :=
  ((strings.table? culture).getD strings.defaultTable).find? key <|> strings.defaultTable.find? key

theorem result_resolve (strings : Strings) (culture : String) :
    (strings.resolve culture).result = .ok ((strings.table? culture).getD strings.defaultTable) := by
  unfold resolve
  cases strings.table? culture <;> rfl

/-- The culture that texts are shown in if the given one is asked for. -/
def requested (strings : Strings) (asked : Option String) : String :=
  (named? asked).getD strings.currentCulture

def answer (key : String) (arguments : List Text.Template.Argument) : Option String → Except Failure String
  | none => .error (.unknownText key)
  | some template => (Text.Template.format template arguments).mapError .template

section Answer
variable {key : String} {arguments : List Text.Template.Argument} {template : String}

theorem answer_eq_ok_iff {text : String} :
    answer key arguments (some template) = .ok text ↔ Text.Template.format template arguments = .ok text := by
  rw [answer]
  cases Text.Template.format template arguments with
  | error fault => exact iff_of_false nofun nofun
  | ok shown => exact ⟨fun same => congrArg _ (Except.ok.inj same), fun same => congrArg _ (Except.ok.inj same)⟩

/-- A template that was found is answered or cannot be filled in; its key is never unknown. -/
theorem answer_eq_error_iff {cause : Failure} :
    answer key arguments (some template) = .error cause ↔
      ∃ fault, Text.Template.format template arguments = .error fault ∧ cause = .template fault := by
  rw [answer]
  cases Text.Template.format template arguments with
  | error fault =>
    constructor
    · exact fun same => ⟨fault, rfl, (Except.error.inj same).symm⟩
    · rintro ⟨_, same, rfl⟩
      obtain rfl := Except.error.inj same
      rfl
  | ok shown => exact iff_of_false nofun nofun

end Answer

section Lookup
variable (strings : Strings) (key : String) (arguments : List Text.Template.Argument) (asked : Option String)

theorem lookup_eq :
    strings.lookup key arguments asked = strings.resolve (strings.requested asked) >>= fun table =>
      Traced.ofResult (answer key arguments (table.find? key <|> strings.defaultTable.find? key)) := by
  refine congrArg (strings.resolve (strings.requested asked) >>= ·) (funext fun table => ?_)
  cases table.find? key <|> strings.defaultTable.find? key with
  | none => rfl
  | some template =>
    simp only [answer]
    cases Text.Template.format template arguments <;> rfl

theorem result_lookup :
    (strings.lookup key arguments asked).result =
      answer key arguments (strings.template? (strings.requested asked) key) := by
  rw [lookup_eq, Traced.bind_of_ok (result_resolve ..)]
  rfl

/-- Looking up a text logs nothing except that a culture has no table. -/
theorem log_lookup :
    (strings.lookup key arguments asked).log =
      if strings.table? (strings.requested asked) = none then [.cultureUnknown (strings.requested asked)] else [] := by
  rw [lookup_eq, Traced.bind_of_ok (result_resolve ..), resolve]
  cases strings.table? (strings.requested asked) <;> rfl

end Lookup

theorem result_text (strings : Strings) (key : TextKey) (arguments : List Text.Template.Argument) :
    (strings.text key arguments).result =
      answer key.name arguments (strings.template? strings.currentCulture key.name) :=
  result_lookup strings key.name arguments none

theorem log_text {strings : Strings} {key : TextKey} {arguments : List Text.Template.Argument} :
    ∀ entry ∈ (strings.text key arguments).log, entry.channel = .strings := by
  intro entry member
  rw [text, log_lookup] at member
  split at member
  · obtain rfl := List.mem_singleton.mp member
    rfl
  · exact absurd member List.not_mem_nil

/-- The shipped table with a preferred culture. -/
def shippedFor (preferred : Option String) : Strings := { shipped with preferred }

theorem defaultTable_shippedFor (preferred : Option String) :
    (shippedFor preferred).defaultTable = shippedTable := by
  simp only [defaultTable, shippedFor, shipped, OrderedMap.find?, ↓reduceIte, Option.getD_some]

theorem template?_shippedFor (preferred : Option String) (culture key : String) :
    (shippedFor preferred).template? culture key = shippedTable.find? key := by
  have every : ((shippedFor preferred).table? culture).getD shippedTable = shippedTable := by
    have tables : (shippedFor preferred).tables = [(defaultCulture, shippedTable)] := rfl
    simp only [table?, tables, OrderedMap.find?, tableOfLanguage?]
    by_cases same : defaultCulture = culture
    · simp only [if_pos same, Option.getD_some]
    · simp only [if_neg same]
      split <;> rfl
  rw [template?, defaultTable_shippedFor, every]
  cases shippedTable.find? key <;> rfl

end Strings

namespace LongLines

def shippedName : String := "PSAvoidLongLines"

def shippedMessage (lineLength : Int) : String :=
  "Line exceeds the configured maximum length of " ++ toString lineLength ++ " characters"

/-- The name of the rule is one look-up with the texts that were looked up before it. -/
theorem result_name_of_texts {strings : Strings} {source rule : String}
    (label : (strings.text .sourceName []).result = .ok source)
    (own : (strings.text .longLinesName []).result = .ok rule) :
    (name strings).result = (strings.text .nameSpaceFormat [.text source, .text rule]).result := by
  simp only [name, sourceName, Traced.result_bind, label, own, Except.bind]

theorem result_name_shipped (preferred : Option String) :
    (name (Strings.shippedFor preferred)).result = .ok shippedName := by
  have label : ((Strings.shippedFor preferred).text .sourceName []).result = .ok "PS" := by
    rw [Strings.result_text, Strings.template?_shippedFor]
    rfl
  have own : ((Strings.shippedFor preferred).text .longLinesName []).result = .ok "AvoidLongLines" := by
    rw [Strings.result_text, Strings.template?_shippedFor]
    rfl
  rw [result_name_of_texts label own, Strings.result_text, Strings.template?_shippedFor]
  rfl

/-- The message tells the maximum, unless the maximum has too many digits. -/
theorem result_message_shipped (preferred : Option String) (lineLength : Int) :
    ((Strings.shippedFor preferred).text .longLinesError [.int lineLength]).result =
      if Text.IsShort lineLength then .ok (shippedMessage lineLength)
      else .error (.template .integerTooLong) := by
  have found : shippedTable.find? TextKey.longLinesError.name =
      some "Line exceeds the configured maximum length of \x7b0\x7d characters" := rfl
  have shape : "Line exceeds the configured maximum length of \x7b0\x7d characters".toList =
      "Line exceeds the configured maximum length of ".toList ++ '{' :: '0' :: '}' :: " characters".toList := by
    simp
  have formatted := Text.Template.format_around_argument shape (by decide) (by decide) (.int lineLength)
  rw [Strings.result_text, Strings.template?_shippedFor, found, Strings.answer, formatted,
    Text.Template.Argument.shown]
  by_cases short : Text.IsShort lineLength
  · have told : String.ofList ("Line exceeds the configured maximum length of ".toList ++
        (toString lineLength).toList ++ " characters".toList) = shippedMessage lineLength := by
      rw [String.ofList_append, String.ofList_append, String.ofList_toList, String.ofList_toList, String.ofList_toList]
      rfl
    rw [if_pos short, if_pos short]
    exact congrArg Except.ok told
  · rw [if_neg short, if_neg short]
    rfl

end LongLines

end ScriptLint
