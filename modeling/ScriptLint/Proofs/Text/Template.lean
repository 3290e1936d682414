import ScriptLint.Text.Template

/-! # What templates mean

A template is well written if it is a sequence of characters, braces among them doubled, and of fields with
digits in braces. Reading finds this sequence again. It can be filled in if all fields have numbers of
arguments, or if all of them are empty and there are enough arguments, provided that what the fields show has a
text; then each field is replaced by the text of its argument, and nothing in that text is read again. Any other
template whose fields hold nothing but digits is refused.
-/

namespace ScriptLint.Text.Template

def isDecimal (cs : List Char) : Bool := cs.all Char.isDigit

inductive Part where
  /-- A character that is shown, written twice if it is a brace. -/
  | char (c : Char)
  /-- A field: the digits of the number of an argument, or nothing for the next one. -/
  | field (digits : List Char) (decimal : isDecimal digits = true)

def isBrace (c : Char) : Bool := c = '{' || c = '}'

/-- The characters of a part in a template. -/
def Part.written : Part → List Char
  | .char c => if isBrace c then [c, c] else [c]
  | .field digits _ => '{' :: (digits ++ ['}'])

def Part.piece : Part → Piece
  | .char c => .literal c
  | .field digits _ => .field (.ofName digits)

/-- The digits of a part that is a field. -/
def Part.digits? : Part → Option (List Char)
  | .char _ => none
  | .field digits _ => some digits

def written (parts : List Part) : List Char := parts.flatMap Part.written

def fieldsOf (parts : List Part) : List (List Char) := parts.filterMap Part.digits?

/-- Whether a value has a text: integers with too many digits have none. -/
def Argument.hasText : Argument → Bool
  | .int value => decide (IsShort value)
  | _ => true

/-- How a value is written, whether or not it is too long to be shown. -/
def Argument.spelled : Argument → String
  | .none => "None"
  | .bool value => if value then "True" else "False"
  | .int value => toString value
  | .text value => value

def shownAt (arguments : List Argument) (index : Nat) : List Char :=
  (arguments[index]?.map (·.spelled.toList)).getD []

def hasTextAt (arguments : List Argument) (index : Nat) : Bool :=
  arguments[index]?.all Argument.hasText

/-- What parts show, where the next argument has the given number. -/
def filled (arguments : List Argument) : Nat → List Part → List Char
  | _, [] => []
  | next, .char c :: rest => c :: filled arguments next rest
  | next, .field [] _ :: rest => shownAt arguments next ++ filled arguments (next + 1) rest
  | next, .field (digit :: more) _ :: rest =>
    shownAt arguments (digitsValue 10 (digit :: more)) ++ filled arguments next rest

/-- Whether everything that the fields among parts show has a text. -/
def haveTexts (arguments : List Argument) : Nat → List Part → Bool
  | _, [] => true
  | next, .char _ :: rest => haveTexts arguments next rest
  | next, .field [] _ :: rest => hasTextAt arguments next && haveTexts arguments (next + 1) rest
  | next, .field (digit :: more) _ :: rest =>
    hasTextAt arguments (digitsValue 10 (digit :: more)) && haveTexts arguments next rest

/-- Whether every field has the number of an argument. -/
def AreNumbered (arguments : List Argument) (parts : List Part) : Prop :=
  ∀ digits ∈ fieldsOf parts, digits ≠ [] ∧ digitsValue 10 digits < arguments.length

/-- Whether every field is for the next argument, and there are enough of them from a number on. -/
def AreNext (arguments : List Argument) (index : Nat) (parts : List Part) : Prop :=
  (∀ digits ∈ fieldsOf parts, digits = []) ∧ index + (fieldsOf parts).length ≤ arguments.length

/-- Whether there are arguments for all fields. -/
def Suits (arguments : List Argument) (parts : List Part) : Prop :=
  AreNumbered arguments parts ∨ AreNext arguments 0 parts

instance (arguments : List Argument) (parts : List Part) : Decidable (AreNumbered arguments parts) :=
  inferInstanceAs (Decidable (∀ digits ∈ fieldsOf parts, _ ∧ _))

instance (arguments : List Argument) (index : Nat) (parts : List Part) : Decidable (AreNext arguments index parts) :=
  inferInstanceAs (Decidable (_ ∧ _))

instance (arguments : List Argument) (parts : List Part) : Decidable (Suits arguments parts) :=
  inferInstanceAs (Decidable (_ ∨ _))

/-- Whether every brace that opens a field has nothing but digits behind it, up to the next brace or the end.
The first argument says whether a field is open. -/
def holdsDigits : Bool → List Char → Bool
  | _, [] => true
  | false, '{' :: '{' :: rest => holdsDigits false rest
  | false, '{' :: rest => holdsDigits true rest
  | false, _ :: rest => holdsDigits false rest
  | true, '}' :: rest => holdsDigits false rest
  | true, '{' :: _ => true
  | true, c :: rest => c.isDigit && holdsDigits true rest

section Reading

theorem isDecimal_cons {c : Char} {rest : List Char} :
    isDecimal (c :: rest) = true ↔ c.isDigit = true ∧ isDecimal rest = true := by
  rw [isDecimal, List.all_cons, Bool.and_eq_true, isDecimal]

theorem isBrace_eq_false_iff {c : Char} : isBrace c = false ↔ c ≠ '{' ∧ c ≠ '}' := by
  simp only [isBrace, Bool.or_eq_false_iff, decide_eq_false_iff_not]

theorem not_isBrace_of_isDigit {c : Char} (digit : c.isDigit = true) : isBrace c = false := by
  rw [isBrace_eq_false_iff]
  constructor
  · rintro rfl
    contradiction
  · rintro rfl
    contradiction

theorem readFrom_other {c : Char} (other : isBrace c = false) (rest : List Char) :
    readFrom none (c :: rest) = (.literal c :: (readFrom none rest).1, (readFrom none rest).2) := by
  obtain ⟨noOpen, noClose⟩ := isBrace_eq_false_iff.mp other
  rw [readFrom]
  · exact fun _ same => absurd same noOpen
  · exact fun _ same => absurd same noClose
  · exact fun same => absurd same noOpen
  · exact noOpen
  · exact noClose

theorem readFrom_inside {c : Char} (other : isBrace c = false) (name rest : List Char) :
    readFrom (some name) (c :: rest) = readFrom (some (c :: name)) rest := by
  obtain ⟨noOpen, noClose⟩ := isBrace_eq_false_iff.mp other
  rw [readFrom]
  · exact noOpen
  · exact noClose

theorem readFrom_opening {rest : List Char} (single : rest.head? ≠ some '{') (more : rest ≠ []) :
    readFrom none ('{' :: rest) = readFrom (some []) rest := by
  rw [readFrom]
  · rintro others rfl
    exact single rfl
  · exact more

/-- A field is read up to its closing brace. -/
theorem readFrom_field {inner : List Char} (plain : ∀ c ∈ inner, isBrace c = false) (name rest : List Char) :
    readFrom (some name) (inner ++ '}' :: rest) =
      (.field (.ofName (name.reverse ++ inner)) :: (readFrom none rest).1, (readFrom none rest).2) := by
  induction inner generalizing name with
  | nil =>
    rw [List.append_nil]
    rfl
  | cons c others ih =>
    have tail := ih (fun other member => plain other (List.mem_cons_of_mem _ member)) (c :: name)
    rw [List.cons_append, readFrom_inside (plain c (List.mem_cons_self ..)), tail, List.reverse_cons,
      List.append_assoc]
    rfl

/-- A part that is written is read back, whatever follows it. -/
theorem readFrom_part_append (part : Part) (rest : List Char) :
    readFrom none (part.written ++ rest) = (part.piece :: (readFrom none rest).1, (readFrom none rest).2) := by
  cases part with
  | char c =>
    by_cases brace : isBrace c = true
    · simp only [isBrace, Bool.or_eq_true, decide_eq_true_eq] at brace
      obtain rfl | rfl := brace <;> rfl
    · have other : isBrace c = false := Bool.eq_false_iff.mpr brace
      simp only [Part.written, other, Bool.false_eq_true, ↓reduceIte, List.singleton_append]
      exact readFrom_other other rest
  | field digits decimal =>
    have plain : ∀ c ∈ digits, isBrace c = false := fun c member =>
      not_isBrace_of_isDigit (List.all_eq_true.mp decimal c member)
    have shape : (Part.field digits decimal).written ++ rest = '{' :: (digits ++ '}' :: rest) := by
      simp only [Part.written, List.cons_append, List.append_assoc, List.nil_append]
    have single : (digits ++ '}' :: rest).head? ≠ some '{' := by
      cases digits with
      | nil => simp
      | cons digit others =>
        have other := (isBrace_eq_false_iff.mp (plain digit (List.mem_cons_self ..))).1
        simpa using other
    rw [shape, readFrom_opening single (by simp), readFrom_field plain]
    rfl

/-- A template that is put together from parts is read as these parts. -/
theorem readFrom_written (parts : List Part) : readFrom none (written parts) = (parts.map Part.piece, none) := by
  induction parts with
  | nil => rfl
  | cons part rest ih => rw [written, List.flatMap_cons, readFrom_part_append, ← written, ih, List.map_cons]

/-- What a template looks like from a place on, where a field may be open. -/
def IsWritten : Option (List Char) → List Char → Prop
  | none, cs => ∃ parts, cs = written parts
  | some _, cs => ∃ digits parts, isDecimal digits = true ∧ cs = digits ++ '}' :: written parts

theorem IsWritten.part_append (part : Part) {rest : List Char} (later : IsWritten none rest) :
    IsWritten none (part.written ++ rest) := by
  obtain ⟨parts, rfl⟩ := later
  exact ⟨part :: parts, rfl⟩

/-- What is read without a flaw was put together from parts, if its fields hold digits only. -/
theorem isWritten_of_readFrom {opened : Option (List Char)} {cs : List Char} (sound : (readFrom opened cs).2 = none)
    (decimal : holdsDigits opened.isSome cs = true) : IsWritten opened cs := by
  fun_induction readFrom opened cs with
  | case1 => exact ⟨[], rfl⟩
  | case2 rest pieces flaw read ih =>
    rw [read] at ih
    exact (ih sound decimal).part_append (.char '{')
  | case3 rest pieces flaw read ih =>
    rw [read] at ih
    exact (ih sound decimal).part_append (.char '}')
  | case4 => contradiction
  | case5 rest single more ih =>
    -- A single opening brace and what is read up to its closing brace are one field.
    have inside : holdsDigits true rest = true := by
      rwa [Option.isSome_none, holdsDigits] at decimal
      exact single
    obtain ⟨digits, parts, digit, rfl⟩ := ih sound inside
    refine ⟨.field digits digit :: parts, ?_⟩
    simp only [written, List.flatMap_cons, Part.written, List.cons_append, List.append_assoc, List.nil_append]
  | case6 => contradiction
  | case7 c rest _ _ _ noOpen noClose pieces flaw read ih =>
    have other : isBrace c = false := isBrace_eq_false_iff.mpr ⟨noOpen, noClose⟩
    have later : holdsDigits false rest = true := by
      rwa [Option.isSome_none, holdsDigits] at decimal
      · exact fun _ same => absurd same noOpen
      · exact noOpen
    rw [read] at ih
    have whole := (ih sound later).part_append (.char c)
    simpa only [Part.written, other, Bool.false_eq_true, ↓reduceIte, List.singleton_append] using whole
  | case8 => contradiction
  | case9 => contradiction
  | case10 name rest pieces flaw read ih =>
    rw [read] at ih
    obtain ⟨parts, rfl⟩ := ih sound decimal
    exact ⟨[], parts, rfl, rfl⟩
  | case11 name c rest noOpen noClose ih =>
    rw [Option.isSome_some, holdsDigits, Bool.and_eq_true] at decimal
    · obtain ⟨digits, parts, digit, rfl⟩ := ih sound decimal.2
      exact ⟨c :: digits, parts, isDecimal_cons.mpr ⟨decimal.1, digit⟩, rfl⟩
    · exact noClose
    · exact noOpen

end Reading

section Numbers
variable {digits : List Char} (decimal : isDecimal digits = true)

/-- The number that digits denote behind others with a given value. -/
def valueFrom (index : Nat) (digits : List Char) : Nat :=
  digits.foldl (fun value c => value * 10 + digitValue c) index

theorem valueFrom_cons (index : Nat) (c : Char) (rest : List Char) :
    valueFrom index (c :: rest) = valueFrom (index * 10 + digitValue c) rest := rfl

theorem le_valueFrom (index : Nat) (digits : List Char) : index ≤ valueFrom index digits := by
  induction digits generalizing index with
  | nil => exact Nat.le_refl _
  | cons c rest ih =>
    have later := ih (index * 10 + digitValue c)
    rw [valueFrom_cons]
    omega

include decimal

/-- Digits denote the number of an argument unless it is too large. -/
theorem ofDigits_decimal (name : String) {index : Nat} (small : index ≤ maxIndex) :
    (valueFrom index digits ≤ maxIndex ∧ Field.ofDigits name index digits = .numbered (valueFrom index digits)) ∨
      (maxIndex < valueFrom index digits ∧ Field.ofDigits name index digits = .oversized) := by
  induction digits generalizing index with
  | nil => exact .inl ⟨small, rfl⟩
  | cons c rest ih =>
    obtain ⟨digit, others⟩ := isDecimal_cons.mp decimal
    have value : decimalValue? c = some (digitValue c) := if_pos digit
    simp only [valueFrom_cons, Field.ofDigits, value]
    by_cases large : maxIndex < index * 10 + digitValue c
    · rw [if_pos large]
      exact .inr ⟨Nat.lt_of_lt_of_le large (le_valueFrom ..), rfl⟩
    · rw [if_neg large]
      exact ih others (Nat.le_of_not_lt large)

theorem ofName_decimal (some : digits ≠ []) :
    (digitsValue 10 digits ≤ maxIndex ∧ Field.ofName digits = .numbered (digitsValue 10 digits)) ∨
      (maxIndex < digitsValue 10 digits ∧ Field.ofName digits = .oversized) := by
  rw [Field.ofName, if_neg (by simpa using some)]
  exact ofDigits_decimal decimal _ (Nat.zero_le _)

end Numbers

section Filling

/-- Whether there are arguments for all fields, from a place on where the numbering is known. -/
def Numbering.Suits (arguments : List Argument) (parts : List Part) : Numbering → Prop
  | .undecided => Template.Suits arguments parts
  | .numbered => AreNumbered arguments parts
  | .next index => AreNext arguments index parts

/-- The number of the next argument. -/
def Numbering.position : Numbering → Nat
  | .undecided => 0
  | .numbered => 0
  | .next index => index

variable {arguments : List Argument} {numbering : Numbering}

theorem suits_char (c : Char) (rest : List Part) :
    numbering.Suits arguments (.char c :: rest) ↔ numbering.Suits arguments rest := by
  cases numbering <;> exact Iff.rfl

theorem areNumbered_cons {digits : List Char} {decimal : isDecimal digits = true} {rest : List Part} :
    AreNumbered arguments (.field digits decimal :: rest) ↔
      (digits ≠ [] ∧ digitsValue 10 digits < arguments.length) ∧ AreNumbered arguments rest :=
  List.forall_mem_cons

theorem areNext_cons {digits : List Char} {decimal : isDecimal digits = true} {rest : List Part}
    {index : Nat} :
    AreNext arguments index (.field digits decimal :: rest) ↔
      digits = [] ∧ AreNext arguments (index + 1) rest := by
  have fields : fieldsOf (.field digits decimal :: rest) = digits :: fieldsOf rest := rfl
  rw [AreNext, AreNext, fields, List.forall_mem_cons, List.length_cons, and_assoc, Nat.add_assoc,
    Nat.add_comm (fieldsOf rest).length 1]

theorem map_eq_ok_iff {α β ε : Type} {f : α → β} {answer : Except ε α} {value : β} :
    answer.map f = .ok value ↔ ∃ own, answer = .ok own ∧ f own = value := by
  cases answer <;> simp [Except.map]

theorem shownAt_of_getElem? {index : Nat} {argument : Argument} (present : arguments[index]? = some argument) :
    shownAt arguments index = argument.spelled.toList := by
  rw [shownAt, present]
  rfl

theorem hasTextAt_of_getElem? {index : Nat} {argument : Argument} (present : arguments[index]? = some argument) :
    hasTextAt arguments index = argument.hasText := by
  rw [hasTextAt, present]
  rfl

theorem shown_int_of_long {value : Int} (long : ¬ IsShort value) :
    (Argument.int value).shown = .error .integerTooLong :=
  if_neg long

theorem shown_of_hasText {argument : Argument} (short : argument.hasText = true) :
    argument.shown = .ok argument.spelled := by
  cases argument with
  | int value => exact if_pos (of_decide_eq_true short)
  | bool value => cases value <;> rfl
  | _ => rfl

theorem shown_of_not_hasText {argument : Argument} (long : argument.hasText = false) :
    argument.shown = .error .integerTooLong := by
  cases argument with
  | int value => exact shown_int_of_long (of_decide_eq_false long)
  | _ => contradiction

/-- A field is filled in by the argument that it chooses. -/
theorem fill_field_eq_ok_iff {field : Field} {index : Nat} {after : Numbering}
    (chosen : numbering.choose field = .ok (index, after)) (rest : List Piece) (text : List Char) :
    fill arguments numbering (.field field :: rest) = .ok text ↔
      index < arguments.length ∧ hasTextAt arguments index = true ∧
        ∃ later, fill arguments after rest = .ok later ∧ text = shownAt arguments index ++ later := by
  simp only [fill, chosen]
  cases present : arguments[index]? with
  | none =>
    have beyond := List.getElem?_eq_none_iff.mp present
    exact iff_of_false (by simp) fun ⟨inside, _⟩ => absurd inside (Nat.not_lt.mpr beyond)
  | some argument =>
    have inside := (List.getElem?_eq_some_iff.mp present).1
    rw [hasTextAt_of_getElem? present]
    cases text? : argument.hasText with
    | false => simp only [shown_of_not_hasText text?, reduceCtorEq, Bool.false_eq_true, false_and, and_false]
    | true =>
      simp only [shown_of_hasText text?, map_eq_ok_iff, shownAt_of_getElem? present, inside, true_and,
        eq_comm (a := text)]

theorem fill_field_of_error {field : Field} {fault : Fault} (refused : numbering.choose field = .error fault)
    (rest : List Piece) (text : List Char) : ¬ fill arguments numbering (.field field :: rest) = .ok text := by
  simp only [fill, refused, reduceCtorEq, not_false_eq_true]

theorem suits_nil (within : numbering.position ≤ arguments.length) : numbering.Suits arguments [] := by
  cases numbering with
  | undecided => exact .inl fun _ member => absurd member List.not_mem_nil
  | numbered => exact fun _ member => absurd member List.not_mem_nil
  | next index => exact ⟨fun _ member => absurd member List.not_mem_nil, within⟩

/-- A field for the next argument can be filled in unless numbered fields came before it. -/
theorem suits_next {decimal : isDecimal [] = true} {rest : List Part} :
    numbering.Suits arguments (.field [] decimal :: rest) ↔
      numbering ≠ .numbered ∧ AreNext arguments (numbering.position + 1) rest := by
  cases numbering <;>
    simp only [Numbering.Suits, Suits, areNumbered_cons, areNext_cons, Numbering.position, ne_eq, not_true_eq_false,
      false_and, false_or, true_and, reduceCtorEq, not_false_eq_true]

/-- A numbered field can be filled in unless fields for next arguments came before it. -/
theorem suits_numbered {digit : Char} {more : List Char} {decimal : isDecimal (digit :: more) = true}
    {rest : List Part} :
    numbering.Suits arguments (.field (digit :: more) decimal :: rest) ↔
      (∀ index, numbering ≠ .next index) ∧ digitsValue 10 (digit :: more) < arguments.length ∧
        AreNumbered arguments rest := by
  cases numbering <;>
    simp [Numbering.Suits, Suits, areNumbered_cons, areNext_cons]

theorem choose_next (free : numbering ≠ .numbered) :
    numbering.choose (.ofName []) = .ok (numbering.position, .next (numbering.position + 1)) := by
  cases numbering with
  | numbered => contradiction
  | _ => rfl

theorem choose_next_refused : Numbering.numbered.choose (.ofName []) = .error .numberedThenNext := rfl

section Numbered
variable {digits : List Char} (decimal : isDecimal digits = true) (some : digits ≠ [])
include decimal some

theorem choose_numbered (free : ∀ index, numbering ≠ .next index) (small : digitsValue 10 digits ≤ maxIndex) :
    numbering.choose (.ofName digits) = .ok (digitsValue 10 digits, .numbered) := by
  obtain ⟨-, read⟩ | ⟨large, -⟩ := ofName_decimal decimal some
  · rw [read]
    cases numbering with
    | next index => exact absurd rfl (free index)
    | _ => rfl
  · omega

theorem choose_numbered_refused (mixed : ∃ index, numbering = .next index) :
    ∃ fault, numbering.choose (.ofName digits) = .error fault := by
  obtain ⟨index, rfl⟩ := mixed
  obtain ⟨-, read⟩ | ⟨-, read⟩ := ofName_decimal decimal some
  · exact ⟨.nextThenNumbered, by rw [read]; rfl⟩
  · exact ⟨.indexTooLarge, by rw [read]; rfl⟩

theorem choose_oversized (large : maxIndex < digitsValue 10 digits) :
    numbering.choose (.ofName digits) = .error .indexTooLarge := by
  obtain ⟨small, -⟩ | ⟨-, read⟩ := ofName_decimal decimal some
  · omega
  · rw [read]
    cases numbering <;> rfl

end Numbered

variable (arguments) in
/-- Whether filling in parts gives what they show, exactly if there are arguments with texts for all their
fields. -/
def FillsAsShown (parts : List Part) : Prop :=
  ∀ (numbering : Numbering) (text : List Char), numbering.position ≤ arguments.length →
    (fill arguments numbering (parts.map Part.piece) = .ok text ↔
      numbering.Suits arguments parts ∧ haveTexts arguments numbering.position parts = true ∧
        text = filled arguments numbering.position parts)

section Steps
variable {rest : List Part} (later : FillsAsShown arguments rest)
include later

theorem FillsAsShown.char (c : Char) : FillsAsShown arguments (.char c :: rest) := by
  intro numbering text within
  simp only [List.map_cons, Part.piece, fill, map_eq_ok_iff, later numbering _ within, suits_char, haveTexts,
    filled]
  constructor
  · rintro ⟨_, ⟨suits, texts, rfl⟩, rfl⟩
    exact ⟨suits, texts, rfl⟩
  · rintro ⟨suits, texts, rfl⟩
    exact ⟨_, ⟨suits, texts, rfl⟩, rfl⟩

theorem FillsAsShown.next (decimal : isDecimal [] = true) :
    FillsAsShown arguments (.field [] decimal :: rest) := by
  intro numbering text _
  rw [List.map_cons, suits_next, haveTexts, Bool.and_eq_true, filled, Part.piece]
  by_cases mixed : numbering = .numbered
  · subst mixed
    exact iff_of_false (fill_field_of_error choose_next_refused _ _) fun ⟨⟨other, _⟩, _⟩ => other rfl
  · rw [fill_field_eq_ok_iff (choose_next mixed)]
    have step := later (.next (numbering.position + 1))
    constructor
    · rintro ⟨inside, own, _, read, rfl⟩
      obtain ⟨suits, texts, rfl⟩ := (step _ inside).mp read
      exact ⟨⟨mixed, suits⟩, ⟨own, texts⟩, rfl⟩
    · rintro ⟨⟨-, suits⟩, ⟨own, texts⟩, rfl⟩
      have inside : numbering.position < arguments.length := by
        have enough := suits.2
        omega
      exact ⟨inside, own, _, (step _ inside).mpr ⟨suits, texts, rfl⟩, rfl⟩

theorem FillsAsShown.numbered (room : arguments.length ≤ maxIndex + 1) (digit : Char) (more : List Char)
    (decimal : isDecimal (digit :: more) = true) :
    FillsAsShown arguments (.field (digit :: more) decimal :: rest) := by
  intro numbering text _
  have some : digit :: more ≠ [] := List.cons_ne_nil _ _
  rw [List.map_cons, suits_numbered, haveTexts, Bool.and_eq_true, filled, Part.piece]
  by_cases mixed : ∃ index, numbering = .next index
  · obtain ⟨fault, refused⟩ := choose_numbered_refused decimal some mixed
    obtain ⟨index, rfl⟩ := mixed
    exact iff_of_false (fill_field_of_error refused _ _) fun ⟨⟨other, _⟩, _⟩ => other index rfl
  · have free : ∀ index, numbering ≠ .next index := fun index same => mixed ⟨index, same⟩
    by_cases large : maxIndex < digitsValue 10 (digit :: more)
    · refine iff_of_false (fill_field_of_error (choose_oversized decimal some large) _ _) ?_
      rintro ⟨⟨-, inside, -⟩, -⟩
      omega
    · have start : numbering.position = 0 := by
        cases numbering with
        | next index => exact absurd rfl (free index)
        | _ => rfl
      have step (text : List Char) := later .numbered text (Nat.zero_le _)
      rw [fill_field_eq_ok_iff (choose_numbered decimal some free (Nat.le_of_not_lt large)), start]
      constructor
      · rintro ⟨inside, own, _, read, rfl⟩
        obtain ⟨suits, texts, rfl⟩ := (step _).mp read
        exact ⟨⟨free, inside, suits⟩, ⟨own, texts⟩, rfl⟩
      · rintro ⟨⟨-, inside, suits⟩, ⟨own, texts⟩, rfl⟩
        exact ⟨inside, own, _, (step _).mpr ⟨suits, texts, rfl⟩, rfl⟩

end Steps

theorem fillsAsShown (room : arguments.length ≤ maxIndex + 1) (parts : List Part) : FillsAsShown arguments parts := by
  -- Every numbering has to be covered, as the fields in front decide the one that parts are filled in with.
  induction parts with
  | nil =>
    intro numbering text within
    simp only [List.map_nil, fill, haveTexts, filled, suits_nil within, true_and, Except.ok.injEq,
      eq_comm (a := text)]
  | cons part rest ih =>
    cases part with
    | char c => exact ih.char c
    | field digits decimal =>
      cases digits with
      | nil => exact ih.next decimal
      | cons digit more => exact ih.numbered room digit more decimal

end Filling

section Formatting
variable {template : String} {arguments : List Argument} {parts : List Part} {text : String}

theorem format_eq_ok_iff_read :
    format template arguments = .ok text ↔
      (readFrom none template.toList).2 = none ∧
        ∃ shown, fill arguments .undecided (readFrom none template.toList).1 = .ok shown ∧
          text = String.ofList shown := by
  unfold format
  obtain ⟨pieces, flaw⟩ := readFrom none template.toList
  dsimp only
  cases fill arguments .undecided pieces with
  | error fault => simp
  | ok shown => cases flaw <;> simp [eq_comm (a := text)]

/-- A template that is put together from parts shows them, exactly if there are arguments with texts for all
fields. -/
theorem format_written_iff (room : arguments.length ≤ maxIndex + 1) (shape : template.toList = written parts) :
    format template arguments = .ok text ↔
      Suits arguments parts ∧ haveTexts arguments 0 parts = true ∧
        text = String.ofList (filled arguments 0 parts) := by
  have filling (shown : List Char) := fillsAsShown room parts .undecided shown (Nat.zero_le _)
  rw [format_eq_ok_iff_read, shape, readFrom_written]
  simp only [filling, true_and]
  constructor
  · rintro ⟨_, ⟨suits, texts, rfl⟩, rfl⟩
    exact ⟨suits, texts, rfl⟩
  · rintro ⟨suits, texts, rfl⟩
    exact ⟨_, ⟨suits, texts, rfl⟩, rfl⟩

/-- A template whose fields hold digits only can be filled in exactly if it was put together from parts, and
there are arguments with texts for all fields. -/
theorem exists_format_iff (room : arguments.length ≤ maxIndex + 1)
    (decimal : holdsDigits false template.toList = true) :
    (∃ text, format template arguments = .ok text) ↔
      ∃ parts, template.toList = written parts ∧ Suits arguments parts ∧ haveTexts arguments 0 parts = true := by
  constructor
  · rintro ⟨text, formatted⟩
    obtain ⟨sound, -⟩ := format_eq_ok_iff_read.mp formatted
    obtain ⟨parts, shape⟩ := isWritten_of_readFrom sound decimal
    obtain ⟨suits, texts, -⟩ := (format_written_iff room shape).mp formatted
    exact ⟨parts, shape, suits, texts⟩
  · rintro ⟨parts, shape, suits, texts⟩
    exact ⟨_, (format_written_iff room shape).mpr ⟨suits, texts, rfl⟩⟩

theorem written_append (parts others : List Part) : written (parts ++ others) = written parts ++ written others :=
  List.flatMap_append

theorem filled_chars_append (next : Nat) (cs : List Char) (rest : List Part) :
    filled arguments next (cs.map .char ++ rest) = cs ++ filled arguments next rest := by
  induction cs with
  | nil => rfl
  | cons c others ih => exact congrArg (c :: ·) ih

theorem haveTexts_chars_append (next : Nat) (cs : List Char) (rest : List Part) :
    haveTexts arguments next (cs.map .char ++ rest) = haveTexts arguments next rest := by
  induction cs with
  | nil => rfl
  | cons c others ih => exact ih

theorem fieldsOf_chars_append (cs : List Char) (rest : List Part) :
    fieldsOf (cs.map .char ++ rest) = fieldsOf rest := by
  induction cs with
  | nil => rfl
  | cons c others ih => exact ih

/-- A text with its braces doubled. -/
def doubled (text : String) : String :=
  String.ofList (text.toList.flatMap fun c => if isBrace c then [c, c] else [c])

/-- A text with its braces doubled shows that text, whatever the arguments are. -/
theorem format_doubled (room : arguments.length ≤ maxIndex + 1) (text : String) :
    format (doubled text) arguments = .ok text := by
  have shape : (doubled text).toList = written (text.toList.map .char ++ []) := by
    rw [doubled, String.toList_ofList, List.append_nil, written, List.flatMap_map]
    rfl
  refine (format_written_iff room shape).mpr ⟨.inl ?_, ?_, ?_⟩
  · intro digits member
    rw [fieldsOf_chars_append] at member
    exact absurd member List.not_mem_nil
  · rw [haveTexts_chars_append, haveTexts]
  · rw [filled_chars_append, filled, List.append_nil, String.ofList_toList]

theorem written_chars {cs : List Char} (plain : cs.all (!isBrace ·) = true) : written (cs.map .char) = cs := by
  induction cs with
  | nil => rfl
  | cons c others ih =>
    rw [List.all_cons, Bool.and_eq_true, Bool.not_eq_true'] at plain
    rw [List.map_cons, written, List.flatMap_cons, ← written, ih plain.2, Part.written, plain.1]
    rfl

theorem fill_chars_append (numbering : Numbering) (cs : List Char) (rest : List Part) :
    fill arguments numbering ((cs.map Part.char ++ rest).map Part.piece) =
      (fill arguments numbering (rest.map Part.piece)).map (cs ++ ·) := by
  induction cs with
  | nil =>
    rw [List.map_nil, List.nil_append]
    cases fill arguments numbering (rest.map Part.piece) <;> rfl
  | cons c others ih =>
    rw [List.map_cons, List.cons_append, List.map_cons, Part.piece, fill, ih]
    cases fill arguments numbering (rest.map Part.piece) <;> rfl

/-- A template with one numbered field shows its argument between the texts around the field. -/
theorem format_around_argument {template : String} {front back : List Char}
    (shape : template.toList = front ++ '{' :: '0' :: '}' :: back) (first : front.all (!isBrace ·) = true)
    (last : back.all (!isBrace ·) = true) (argument : Argument) :
    format template [argument] =
      argument.shown.map fun text => String.ofList (front ++ text.toList ++ back) := by
  have zero : isDecimal ['0'] = true := rfl
  have whole : template.toList = written (front.map .char ++ .field ['0'] zero :: (back.map .char ++ [])) := by
    have field : written (.field ['0'] zero :: back.map .char) = '{' :: '0' :: '}' :: back :=
      congrArg (['{', '0', '}'] ++ ·) (written_chars last)
    rw [shape, written_append, List.append_nil, written_chars first, field]
  have behind : fill [argument] .numbered ((back.map Part.char ++ []).map Part.piece) = .ok back := by
    rw [fill_chars_append, List.map_nil, fill, Except.map, List.append_nil]
  have chosen : Numbering.undecided.choose (.ofName ['0']) = .ok (0, .numbered) := rfl
  unfold format
  rw [whole, readFrom_written]
  dsimp only
  rw [fill_chars_append, List.map_cons, Part.piece, fill, chosen]
  simp only [List.getElem?_cons_zero, behind]
  cases argument.shown with
  | error fault => rfl
  | ok text => simp only [Except.map, List.append_assoc]

end Formatting

end ScriptLint.Text.Template
