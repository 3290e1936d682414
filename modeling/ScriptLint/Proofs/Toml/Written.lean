import ScriptLint.Proofs.Text.Digits
import ScriptLint.Toml.Parser

/-! # Written values

Texts as basic strings, integers in decimal and lists of texts, written the way that a person would write
them on one line, are read back as they were. A reader leaves what follows them alone.
-/

namespace ScriptLint.Toml

/-- Whether escapes of four digits are possible for some characters, with all control characters among
them. -/
structure EscapesControls (escapes : Char → Bool) : Prop where
  control : ∀ c, isControl c = true → escapes c = true
  short : ∀ c, escapes c = true → c.toNat < 0x10000

theorem escapesControls_isControl : EscapesControls isControl where
  control _ control := control
  short c control := by
    simp only [isControl, Bool.or_eq_true, decide_eq_true_eq] at control
    omega

section Strings
variable (escapes : Char → Bool)

def writtenChar (c : Char) : List Char :=
  if c = '"' ∨ c = '\\' then ['\\', c]
  else if escapes c then '\\' :: 'u' :: Text.hexDigits 4 c.toNat
  else [c]

/-- A text as a basic string. -/
def writtenText (text : String) : List Char :=
  '"' :: text.toList.flatMap (writtenChar escapes) ++ ['"']

theorem scalar?_hexDigits {c : Char} (short : c.toNat < 0x10000) (rest : List Char) :
    scalar? 4 (Text.hexDigits 4 c.toNat ++ rest) = some (c, rest) := by
  have width : (Text.hexDigits 4 c.toNat).length = 4 := Text.length_hexDigits (by decide) short
  have valid : c.toNat.isValidChar := c.valid
  have front : (Text.hexDigits 4 c.toNat ++ rest).take 4 = Text.hexDigits 4 c.toNat :=
    List.take_left' width
  have back : (Text.hexDigits 4 c.toNat ++ rest).drop 4 = rest := List.drop_left' width
  rw [scalar?, front, back, Text.digitsValue_hexDigits,
    if_pos ⟨width, Text.all_isHexadecimal_hexDigits 4 c.toNat, valid⟩, Char.ofNat_toNat]

theorem basicText_escape {source rest : List Char} {c : Char} (escaped : escape? source = some (c, rest)) :
    basicText ('\\' :: source) = (basicText rest).map (pushChar c) := by
  rw [basicText]
  split
  next nothing =>
    rw [escaped] at nothing
    cases nothing
  next found =>
    rw [escaped] at found
    cases found
    rfl

variable {escapes} (covers : EscapesControls escapes)
include covers

theorem basicText_writtenChar (c : Char) (source : List Char) :
    basicText (writtenChar escapes c ++ source) = (basicText source).map (pushChar c) := by
  unfold writtenChar
  split
  next special =>
    apply basicText_escape
    rcases special with rfl | rfl <;> rfl
  next ordinary =>
    obtain ⟨unquoted, unescaped⟩ := not_or.mp ordinary
    split
    next escaped => exact basicText_escape (scalar?_hexDigits (covers.short c escaped) source)
    next plain =>
      have legal : isIllegal c = false := by
        rw [isIllegal, Bool.eq_false_iff.mpr fun control => plain (covers.control c control), Bool.false_and]
      rw [List.singleton_append, basicText, legal]
      · rfl
      · exact unquoted
      · exact unescaped

theorem basicText_written (text : List Char) (rest : List Char) :
    basicText (text.flatMap (writtenChar escapes) ++ '"' :: rest) = .ok (text, rest) := by
  induction text with
  | nil => rw [List.flatMap_nil, List.nil_append, basicText]
  | cons c text ih =>
    rw [List.flatMap_cons, List.append_assoc, basicText_writtenChar covers, ih]
    rfl

theorem readKeyPart_writtenText (text : String) (rest : List Char) :
    readKeyPart (writtenText escapes text ++ rest) = .ok (text, rest) := by
  have found := basicText_written covers text.toList rest
  rw [writtenText, List.append_assoc, List.singleton_append, List.cons_append, readKeyPart, found]
  show Except.ok (String.ofList text.toList, rest) = _
  rw [String.ofList_toList]

omit covers in
/-- No written character begins with a quote. -/
theorem exists_writtenChar_eq (c : Char) : ∃ first more, writtenChar escapes c = first :: more ∧ first ≠ '"' := by
  unfold writtenChar
  split
  · exact ⟨_, _, rfl, by decide⟩
  next ordinary =>
    split
    · exact ⟨_, _, rfl, by decide⟩
    · exact ⟨_, _, rfl, fun quote => ordinary (.inl quote)⟩

theorem text?_writtenText (text : String) {c : Char} (other : c ≠ '"') (rest : List Char) :
    text? (writtenText escapes text ++ c :: rest) = some (.ok (text, c :: rest)) := by
  have found := basicText_written covers text.toList (c :: rest)
  rw [writtenText, List.append_assoc, List.singleton_append, List.cons_append, text?, found]
  · show some (Except.ok (String.ofList text.toList, c :: rest)) = _
    rw [String.ofList_toList]
  · -- Three quotes would begin a text of several lines.
    intro more three
    cases chars : text.toList with
    | nil =>
      rw [chars] at three
      exact other (List.cons.inj (List.cons.inj three).2).1
    | cons first chars' =>
      obtain ⟨mark, others, written, unquoted⟩ := exists_writtenChar_eq first
      rw [chars, List.flatMap_cons, written] at three
      exact unquoted (List.cons.inj three).1

theorem readScalar_writtenText (text : String) {c : Char} (other : c ≠ '"') (rest : List Char) :
    readScalar (writtenText escapes text ++ c :: rest) = .ok (.text text, c :: rest) := by
  rw [readScalar, text?_writtenText covers text other]
  rfl

end Strings

section Decimals

/-- A digit is no other mark. -/
theorem ne_of_isDigit {d : Char} (digit : d.isDigit = true) {mark : Char} (other : mark.isDigit = false) :
    d ≠ mark := by
  rintro rfl
  rw [digit] at other
  cases other

theorem text?_eq_none {c : Char} {rest : List Char} (unquoted : c ≠ '"') (unquotedLiteral : c ≠ '\'') :
    text? (c :: rest) = none := by
  unfold text?
  split
  next same => exact absurd (List.cons.inj same).1 unquoted
  next same => exact absurd (List.cons.inj same).1 unquoted
  next same => exact absurd (List.cons.inj same).1 unquotedLiteral
  next same => exact absurd (List.cons.inj same).1 unquotedLiteral
  next => rfl

theorem boolean?_eq_none {c : Char} {rest : List Char} (untrue : c ≠ 't') (unfalse : c ≠ 'f') :
    boolean? (c :: rest) = none := by
  unfold boolean?
  split
  next same => exact absurd (List.cons.inj same).1 untrue
  next same => exact absurd (List.cons.inj same).1 unfalse
  next => rfl

variable {digits : List Char} (all : ∀ d ∈ digits, d.isDigit = true) (rest : List Char)

section Moments
include all

/-- Two digits leave digits. -/
theorem twoDigits?_digits : twoDigits? (digits ++ '\n' :: rest) = none ∨
    ∃ value more, (∀ d ∈ more, d.isDigit = true) ∧
      twoDigits? (digits ++ '\n' :: rest) = some (value, more ++ '\n' :: rest) := by
  match digits with
  | [] =>
    left
    cases rest <;> rfl
  | [tens] =>
    left
    show (if tens.isDigit && '\n'.isDigit then _ else none) = none
    have feed : '\n'.isDigit = false := rfl
    rw [feed, Bool.and_false]
    rfl
  | tens :: ones :: more =>
    right
    have first : tens.isDigit = true := all tens (List.mem_cons_self ..)
    have second : ones.isDigit = true := all ones (List.mem_cons_of_mem _ (List.mem_cons_self ..))
    refine ⟨Text.digitsValue 10 [tens, ones], more, fun d member => ?_, ?_⟩
    · exact all d (List.mem_cons_of_mem _ (List.mem_cons_of_mem _ member))
    · show (if tens.isDigit && ones.isDigit then _ else none) = _
      rw [first, second]
      rfl

theorem char?_digits {mark : Char} (other : mark.isDigit = false) (inLine : '\n' ≠ mark) :
    char? mark (digits ++ '\n' :: rest) = none := by
  cases digits with
  | nil => exact if_neg inLine
  | cons d more => exact if_neg (ne_of_isDigit (all d (List.mem_cons_self ..)) other)

theorem date?_digits : date? (digits ++ '\n' :: rest) = none := by
  unfold date?
  rcases twoDigits?_digits all rest with short | ⟨century, more, allMore, found⟩
  · rw [short]
    rfl
  · rw [found]
    show (twoDigits? (more ++ '\n' :: rest)).bind _ = none
    rcases twoDigits?_digits allMore rest with short | ⟨year, others, allOthers, found⟩
    · rw [short]
      rfl
    · rw [found]
      show (char? '-' (others ++ '\n' :: rest)).bind _ = none
      rw [char?_digits allOthers rest rfl (by decide)]
      rfl

theorem time?_digits : time? (digits ++ '\n' :: rest) = none := by
  unfold time? twoDigitsIn?
  rcases twoDigits?_digits all rest with short | ⟨hour, more, allMore, found⟩
  · rw [short]
    rfl
  · rw [found]
    show (if 0 ≤ hour ∧ hour ≤ 23 then some (hour, more ++ '\n' :: rest) else none).bind _ = none
    split
    · show (char? ':' (more ++ '\n' :: rest)).bind _ = none
      rw [char?_digits allMore rest rfl (by decide)]
      rfl
    · rfl

/-- Digits alone are no moment. -/
theorem moment?_digits : moment? (digits ++ '\n' :: rest) = none := by
  rw [moment?, date?_digits all rest, time?_digits all rest]
  rfl

end Moments

theorem moment?_minus (source : List Char) : moment? ('-' :: source) = none := by
  cases source <;> rfl

section Numerals
include all

/-- Digits alone are read to the end. -/
theorem moreDigits_digits : moreDigits Char.isDigit (digits ++ '\n' :: rest) = (digits, '\n' :: rest) := by
  induction digits with
  | nil => rfl
  | cons d digits ih =>
    have digit : d.isDigit = true := all d (List.mem_cons_self ..)
    rw [List.cons_append, moreDigits, ih fun other member => all other (List.mem_cons_of_mem _ member), digit]
    · rfl
    · rintro next more rfl
      cases digit

theorem digits?_digits (nonempty : digits ≠ []) :
    digits? Char.isDigit (digits ++ '\n' :: rest) = some (digits, '\n' :: rest) := by
  cases digits with
  | nil => exact absurd rfl nonempty
  | cons d digits =>
    rw [List.cons_append, digits?, all d (List.mem_cons_self ..),
      moreDigits_digits fun other member => all other (List.mem_cons_of_mem _ member)]
    rfl

theorem based?_digits : based? (digits ++ '\n' :: rest) = none := by
  have second {mark : Char} {more : List Char} (other : mark.isDigit = false) (inLine : '\n' ≠ mark)
      (same : digits ++ '\n' :: rest = '0' :: mark :: more) : False := by
    match digits with
    | [] => cases same
    | [zero] => exact inLine (List.cons.inj (List.cons.inj same).2).1
    | zero :: d :: others =>
      have digit : d.isDigit = true := all d (List.mem_cons_of_mem _ (List.mem_cons_self ..))
      exact ne_of_isDigit digit other (List.cons.inj (List.cons.inj same).2).1
  unfold based?
  split
  next same => exact (second rfl (by decide) same).elim
  next same => exact (second rfl (by decide) same).elim
  next same => exact (second rfl (by decide) same).elim
  next => rfl

end Numerals

theorem isDigit_of_mem_decimal {n : Nat} {d : Char} (member : d ∈ Nat.toDigits 10 n) : d.isDigit = true :=
  Nat.isDigit_of_mem_toDigits (by decide) (by decide) member

theorem exists_decimal_eq (n : Nat) : ∃ d more, Nat.toDigits 10 n = d :: more ∧ d.isDigit = true := by
  cases digits : Nat.toDigits 10 n with
  | nil => exact absurd digits Nat.toDigits_ne_nil
  | cons d more => exact ⟨d, more, rfl, isDigit_of_mem_decimal (digits ▸ List.mem_cons_self ..)⟩

/-- The decimal form of a number is read as a whole number. -/
theorem whole?_decimal (n : Nat) :
    whole? (Nat.toDigits 10 n ++ '\n' :: rest) = some (Nat.toDigits 10 n, '\n' :: rest) := by
  rcases Nat.eq_zero_or_pos n with rfl | positive
  · rfl
  · rw [whole?, digits?_digits (fun d member => isDigit_of_mem_decimal member) rest Nat.toDigits_ne_nil]
    -- A zero in front would be read as the whole part.
    intro more same
    obtain ⟨d, others, digits, -⟩ := exists_decimal_eq n
    rw [digits] at same
    apply Text.head?_toDigits_ne positive
    rw [digits, (List.cons.inj same).1]
    rfl

/-- The sign of a number, if it has one. -/
def minusIf (negative : Bool) : List Char := if negative then ['-'] else []

theorem sign_decimal (negative : Bool) (n : Nat) :
    sign (minusIf negative ++ Nat.toDigits 10 n ++ '\n' :: rest) =
      (minusIf negative, Nat.toDigits 10 n ++ '\n' :: rest) := by
  cases negative with
  | true => rfl
  | false =>
    obtain ⟨d, others, digits, digit⟩ := exists_decimal_eq n
    show sign (Nat.toDigits 10 n ++ '\n' :: rest) = ([], _)
    rw [digits, List.cons_append, sign]
    · exact fun _ same => ne_of_isDigit digit rfl (List.cons.inj same).1
    · exact fun _ same => ne_of_isDigit digit rfl (List.cons.inj same).1

theorem numeral?_decimal (negative : Bool) (n : Nat) :
    numeral? (minusIf negative ++ Nat.toDigits 10 n ++ '\n' :: rest) =
      some (.integer negative 10 (Nat.toDigits 10 n), '\n' :: rest) := by
  have unbased : based? (minusIf negative ++ Nat.toDigits 10 n ++ '\n' :: rest) = none := by
    cases negative with
    | true => rfl
    | false => exact based?_digits (fun d member => isDigit_of_mem_decimal member) rest
  have decimal : decimal? (minusIf negative ++ Nat.toDigits 10 n ++ '\n' :: rest) =
      some (.integer negative 10 (Nat.toDigits 10 n), '\n' :: rest) := by
    rw [decimal?, sign_decimal]
    dsimp only
    rw [whole?_decimal]
    cases negative <;> rfl
  rw [numeral?, unbased, decimal]
  rfl

theorem readScalar_decimal (negative : Bool) {n : Nat}
    (short : (Nat.toDigits 10 n).length ≤ Text.maxDecimalDigits) :
    readScalar (minusIf negative ++ Nat.toDigits 10 n ++ '\n' :: rest) =
      .ok (.integer (if negative then -(n : Int) else n), '\n' :: rest) := by
  have unlike : text? (minusIf negative ++ Nat.toDigits 10 n ++ '\n' :: rest) = none ∧
      boolean? (minusIf negative ++ Nat.toDigits 10 n ++ '\n' :: rest) = none ∧
      moment? (minusIf negative ++ Nat.toDigits 10 n ++ '\n' :: rest) = none := by
    cases negative with
    | true => exact ⟨rfl, rfl, moment?_minus _⟩
    | false =>
      show text? (Nat.toDigits 10 n ++ '\n' :: rest) = none ∧ boolean? (Nat.toDigits 10 n ++ '\n' :: rest) = none ∧ _
      refine ⟨?_, ?_, moment?_digits (fun d member => isDigit_of_mem_decimal member) rest⟩ <;>
        obtain ⟨d, others, digits, digit⟩ := exists_decimal_eq n <;> rw [digits]
      · exact text?_eq_none (ne_of_isDigit digit rfl) (ne_of_isDigit digit rfl)
      · exact boolean?_eq_none (ne_of_isDigit digit rfl) (ne_of_isDigit digit rfl)
  obtain ⟨text, boolean, moment⟩ := unlike
  rw [readScalar, text, boolean, moment, numeral?_decimal]
  show (Numeral.value _).map _ = _
  rw [Numeral.value, if_neg fun long => Nat.not_lt.mpr short long.2,
    Text.digitsValue_toDigits (by decide) (by decide)]
  rfl

theorem toList_toString_int (value : Int) :
    (toString value).toList = minusIf (decide (value < 0)) ++ Nat.toDigits 10 value.natAbs := by
  rw [Int.toString_eq_repr, Int.repr_eq_if]
  split
  next positive =>
    have same : value.toNat = value.natAbs := by omega
    rw [same, decide_eq_false (Int.not_lt.mpr positive), Nat.repr_eq_ofList_toDigits, String.toList_ofList]
    rfl
  next negative =>
    have same : (-value).toNat = value.natAbs := by omega
    rw [same, decide_eq_true (Int.not_le.mp negative), Nat.repr_eq_ofList_toDigits]
    simp only [String.toList_append, String.toList_ofList]
    rfl

theorem readScalar_integer {value : Int} (short : (Nat.toDigits 10 value.natAbs).length ≤ Text.maxDecimalDigits) :
    readScalar ((toString value).toList ++ '\n' :: rest) = .ok (.integer value, '\n' :: rest) := by
  rw [toList_toString_int, readScalar_decimal rest _ short]
  have whole : (if decide (value < 0) = true then -(value.natAbs : Int) else value.natAbs) = value := by
    simp only [decide_eq_true_eq]
    omega
  rw [whole]

/-- An integer begins with a digit or a sign. -/
theorem exists_integer_eq (value : Int) : ∃ first more, (toString value).toList = first :: more ∧
    ∀ mark, mark.isDigit = false → mark ≠ '-' → first ≠ mark := by
  rw [toList_toString_int]
  cases decide (value < 0) with
  | true => exact ⟨'-', _, rfl, fun mark _ unsigned => unsigned.symm⟩
  | false =>
    obtain ⟨d, more, digits, digit⟩ := exists_decimal_eq value.natAbs
    exact ⟨d, more, digits, fun mark other _ => ne_of_isDigit digit other⟩

theorem skipBlanks_integer (value : Int) :
    skipBlanks ((toString value).toList ++ rest) = (toString value).toList ++ rest := by
  obtain ⟨first, more, chars, other⟩ := exists_integer_eq value
  have solid : isBlank first = false := by
    rw [isBlank, decide_eq_false (other ' ' rfl (by decide)), decide_eq_false (other '\t' rfl (by decide))]
    rfl
  rw [chars, List.cons_append, skipBlanks, List.dropWhile_cons_of_neg (by rw [solid]; decide)]

theorem readValue_integer {value : Int} (short : (Nat.toDigits 10 value.natAbs).length ≤ Text.maxDecimalDigits)
    (bound room : Nat) :
    readValue (bound + 1) room ((toString value).toList ++ '\n' :: rest) = .ok (.integer value, '\n' :: rest) := by
  rw [← readScalar_integer rest short]
  obtain ⟨first, more, chars, other⟩ := exists_integer_eq value
  rw [chars, List.cons_append, readValue]
  · exact fun _ same => other '[' rfl (by decide) (List.cons.inj same).1
  · exact fun _ same => other '\x7b' rfl (by decide) (List.cons.inj same).1

end Decimals

section Lists
variable (escapes : Char → Bool)

/-- The items of a list of texts, with commas between them, up to the closing bracket. -/
def writtenItems : List String → List Char
  | [] => [']']
  | [text] => writtenText escapes text ++ [']']
  | text :: rest => writtenText escapes text ++ ',' :: ' ' :: writtenItems rest

def writtenTexts (texts : List String) : List Char := '[' :: writtenItems escapes texts

/-- No item begins with space. -/
theorem skipSpace_writtenItems (texts : List String) (rest : List Char) :
    skipSpace false (writtenItems escapes texts ++ rest) = .ok (writtenItems escapes texts ++ rest) := by
  match texts with
  | [] => rfl
  | [_] => rfl
  | _ :: _ :: _ => rfl

/-- Every item takes up space. -/
theorem length_le_writtenItems (texts : List String) : texts.length ≤ (writtenItems escapes texts).length := by
  fun_induction writtenItems escapes texts with
  | case1 => exact Nat.zero_le _
  | case2 text =>
    rw [List.length_append]
    exact Nat.le_add_left ..
  | case3 text rest _ ih =>
    simp only [List.length_cons, List.length_append]
    omega

variable {escapes} (covers : EscapesControls escapes) (room : Nat)
include covers

theorem readValue_writtenText (bound : Nat) (text : String) {c : Char} (other : c ≠ '"') (rest : List Char) :
    readValue (bound + 1) room (writtenText escapes text ++ c :: rest) = .ok (.text text, c :: rest) := by
  rw [← readScalar_writtenText covers text other rest]
  rfl

theorem readItems_writtenItems (texts : List String) {bound : Nat} (enough : texts.length + 2 ≤ bound)
    (rest : List Char) :
    readItems bound room (writtenItems escapes texts ++ rest) = .ok (texts.map .text, rest) := by
  induction texts generalizing bound with
  | nil =>
    obtain ⟨bound, rfl⟩ := Nat.exists_eq_add_of_lt (Nat.lt_of_lt_of_le (Nat.zero_lt_succ _) enough)
    rw [Nat.zero_add]
    rfl
  | cons text more ih =>
    obtain ⟨bound, rfl⟩ : ∃ smaller, bound = smaller + 1 + 1 := ⟨bound - 2, by omega⟩
    have value {c : Char} (other : c ≠ '"') (rest : List Char) :=
      readValue_writtenText covers room bound text other rest
    cases more with
    | nil =>
      rw [writtenItems, List.append_assoc, List.singleton_append, readItems, value (by decide)]
      · rfl
      · exact fun _ same => by cases same
    | cons next others =>
      have items : readItems (bound + 1) room (writtenItems escapes (next :: others) ++ rest) = _ :=
        ih (by simp only [List.length_cons] at enough ⊢; omega)
      have spaced := skipSpace_writtenItems escapes (next :: others) rest
      rw [writtenItems, List.append_assoc, List.cons_append, List.cons_append, readItems, value (by decide)]
      · show ((skipSpace false (writtenItems escapes (next :: others) ++ rest)).bind fun rest =>
          (readItems (bound + 1) room rest).bind _) = _
        rw [spaced]
        show ((readItems (bound + 1) room (writtenItems escapes (next :: others) ++ rest)).bind _) = _
        rw [items]
        rfl
      · exact fun _ same => by cases same
      · exact fun same => by cases same

theorem readValue_writtenTexts (texts : List String) {bound : Nat} (enough : texts.length + 3 ≤ bound)
    (rest : List Char) :
    readValue bound nestingRoom (writtenTexts escapes texts ++ rest) = .ok (.array (texts.map .text), rest) := by
  obtain ⟨bound, rfl⟩ : ∃ smaller, bound = smaller + 1 := ⟨bound - 1, by omega⟩
  have items (room : Nat) := readItems_writtenItems covers room texts (Nat.le_of_succ_le_succ enough) rest
  show (skipSpace false (writtenItems escapes texts ++ rest)).bind (fun rest =>
    (readItems bound (nestingRoom - 2) rest).bind _) = _
  rw [skipSpace_writtenItems]
  show (readItems bound (nestingRoom - 2) (writtenItems escapes texts ++ rest)).bind _ = _
  rw [items]
  rfl

end Lists

section Returns
variable {escapes : Char → Bool}

theorem return_not_mem_integer (value : Int) : '\r' ∉ (toString value).toList := by
  rw [toList_toString_int, List.mem_append]
  rintro (sign | digit)
  · revert sign
    cases decide (value < 0) <;> decide
  · exact absurd (isDigit_of_mem_decimal digit) (by decide)

variable (covers : EscapesControls escapes)
include covers

theorem return_not_mem_writtenChar (c : Char) : '\r' ∉ writtenChar escapes c := by
  unfold writtenChar
  split
  next special => rcases special with rfl | rfl <;> decide
  next =>
    split
    · intro member
      rcases List.mem_cons.mp member with same | member
      · revert same
        decide
      · rcases List.mem_cons.mp member with same | digit
        · revert same
          decide
        · have hexadecimal := List.all_eq_true.mp (Text.all_isHexadecimal_hexDigits 4 c.toNat) _ digit
          revert hexadecimal
          decide
    next plain =>
      intro member
      obtain rfl := List.mem_singleton.mp member
      exact plain (covers.control _ (by decide))

theorem return_not_mem_writtenText (text : String) : '\r' ∉ writtenText escapes text := by
  intro member
  rcases List.mem_append.mp member with inside | quote
  · rcases List.mem_cons.mp inside with same | written
    · revert same
      decide
    · obtain ⟨c, -, member⟩ := List.mem_flatMap.mp written
      exact return_not_mem_writtenChar covers c member
  · revert quote
    decide

theorem return_not_mem_writtenTexts (texts : List String) : '\r' ∉ writtenTexts escapes texts := by
  have items : '\r' ∉ writtenItems escapes texts := by
    fun_induction writtenItems escapes texts with
    | case1 => decide
    | case2 text =>
      rw [List.mem_append, not_or]
      exact ⟨return_not_mem_writtenText covers text, by decide⟩
    | case3 text rest _ ih =>
      rw [List.mem_append, List.mem_cons, List.mem_cons, not_or, not_or, not_or]
      exact ⟨return_not_mem_writtenText covers text, by decide, by decide, ih⟩
  rw [writtenTexts, List.mem_cons, not_or]
  exact ⟨by decide, items⟩

end Returns

end ScriptLint.Toml
