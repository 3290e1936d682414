import ScriptLint.Text.Utf8

/-! # Reading back what was encoded

The bytes of a character lead the decoder from one place between characters to the next and give the
character back. So every text is read back from its bytes, also behind a byte order mark, as long as the
text does not start with the character of that mark itself.
-/

namespace ScriptLint.Text.Utf8

section Bytes
variable {position code : Nat} {byte : UInt8} {pending : Pending} {rest : List UInt8}

theorem toNat_ofNat_of_lt (bound : code < 0x100) : (UInt8.ofNat code).toNat = code := by
  rw [UInt8.toNat_ofNat', Nat.mod_eq_of_lt bound]

theorem lead_single (bound : code < 0x80) : lead (UInt8.ofNat code) = .single := by
  have value : (UInt8.ofNat code).toNat = code := toNat_ofNat_of_lt (by omega)
  have ascii : UInt8.ofNat code < 0x80 := by
    rw [UInt8.lt_iff_toNat_lt, value]
    exact bound
  rw [lead, if_pos ascii]

theorem lead_two (low : 0xC2 ≤ code) (high : code < 0xE0) :
    lead (UInt8.ofNat code) = .several ⟨UInt8.ofNat code, 1, 0, 0x80, 0xBF, code - 0xC0⟩ := by
  have value : (UInt8.ofNat code).toNat = code := toNat_ofNat_of_lt (by omega)
  unfold lead
  simp only [UInt8.lt_iff_toNat_lt, value]
  rw [if_neg, if_neg, if_pos]
  all_goals simp only [UInt8.toNat_ofNat]; omega

theorem lead_three (low : 0xE0 ≤ code) (high : code < 0xF0) :
    lead (UInt8.ofNat code) = .several ⟨UInt8.ofNat code, 1, 1, if code = 0xE0 then 0xA0 else 0x80,
      if code = 0xED then 0x9F else 0xBF, code - 0xE0⟩ := by
  have value : (UInt8.ofNat code).toNat = code := toNat_ofNat_of_lt (by omega)
  unfold lead
  simp only [UInt8.lt_iff_toNat_lt, ← UInt8.toNat_inj, value]
  rw [if_neg, if_neg, if_neg, if_pos]
  · rfl
  all_goals simp only [UInt8.toNat_ofNat]; omega

theorem lead_four (low : 0xF0 ≤ code) (high : code < 0xF5) :
    lead (UInt8.ofNat code) = .several ⟨UInt8.ofNat code, 1, 2, if code = 0xF0 then 0x90 else 0x80,
      if code = 0xF4 then 0x8F else 0xBF, code - 0xF0⟩ := by
  have value : (UInt8.ofNat code).toNat = code := toNat_ofNat_of_lt (by omega)
  unfold lead
  simp only [UInt8.lt_iff_toNat_lt, ← UInt8.toNat_inj, value]
  rw [if_neg, if_neg, if_neg, if_neg, if_pos]
  · rfl
  all_goals simp only [UInt8.toNat_ofNat]; omega

theorem decodeFrom_lead (begins : lead byte = .several pending) :
    decodeFrom position none (byte :: rest) = decodeFrom (position + 1) (some pending) rest := by
  rw [decodeFrom, begins]

/-- A byte that may come next goes on with a character, and the last one ends it. -/
theorem decodeFrom_continue (bound : code < 0x40) (low : pending.low.toNat ≤ code + 0x80)
    (high : code + 0x80 ≤ pending.high.toNat) :
    decodeFrom position (some pending) (UInt8.ofNat (code + 0x80) :: rest) =
      match pending.more with
      | 0 => (decodeFrom (position + 1) none rest).map (Char.ofNat (pending.bits * 64 + code) :: ·)
      | more + 1 => decodeFrom (position + 1)
          (some ⟨pending.byte, pending.seen + 1, more, 0x80, 0xBF, pending.bits * 64 + code⟩) rest := by
  have value : (UInt8.ofNat (code + 0x80)).toNat = code + 0x80 := toNat_ofNat_of_lt (by omega)
  have inside : pending.low ≤ UInt8.ofNat (code + 0x80) ∧ UInt8.ofNat (code + 0x80) ≤ pending.high := by
    rw [UInt8.le_iff_toNat_le, UInt8.le_iff_toNat_le, value]
    exact ⟨low, high⟩
  have extended : pending.extend (UInt8.ofNat (code + 0x80)) = pending.bits * 64 + code := by
    unfold Pending.extend
    rw [value, Nat.add_sub_cancel]
  cases continues : pending.more <;> simp only [decodeFrom, inside, and_self, ↓reduceIte, extended, continues]

end Bytes

section Characters
variable {code : Nat} (position : Nat) (rest : List UInt8)

theorem decodeFrom_one (bound : code < 0x80) :
    decodeFrom position none (UInt8.ofNat code :: rest) =
      (decodeFrom (position + 1) none rest).map (Char.ofNat code :: ·) := by
  have value : (UInt8.ofNat code).toNat = code := toNat_ofNat_of_lt (by omega)
  simp only [decodeFrom, lead_single bound, value]

theorem decodeFrom_two (low : 0x80 ≤ code) (high : code < 0x800) :
    decodeFrom position none (UInt8.ofNat (code / 64 % 32 + 192) :: UInt8.ofNat (code % 64 + 128) :: rest) =
      (decodeFrom (position + 2) none rest).map (Char.ofNat code :: ·) := by
  have whole : (code / 64 % 32 + 192 - 0xC0) * 64 + code % 64 = code := by omega
  rw [decodeFrom_lead (lead_two (by omega) (by omega)),
    decodeFrom_continue (by omega) (by simp) (by simp; omega)]
  simp only [whole]

/-- After some first bytes the second one has a smaller range, which leaves out longer forms of short
characters and surrogates. -/
theorem decodeFrom_three (low : 0x800 ≤ code) (high : code < 0x10000) (valid : code.isValidChar) :
    decodeFrom position none (UInt8.ofNat (code / 4096 % 16 + 224) :: UInt8.ofNat (code / 64 % 64 + 128) ::
        UInt8.ofNat (code % 64 + 128) :: rest) =
      (decodeFrom (position + 3) none rest).map (Char.ofNat code :: ·) := by
  have whole : ((code / 4096 % 16 + 224 - 0xE0) * 64 + code / 64 % 64) * 64 + code % 64 = code := by omega
  rw [decodeFrom_lead (lead_three (by omega) (by omega)),
    decodeFrom_continue (by omega) (by dsimp only; split <;> simp; omega)
      (by dsimp only; split <;> simp <;> omega)]
  dsimp only
  rw [decodeFrom_continue (by omega) (by simp) (by simp; omega)]
  simp only [whole]

theorem decodeFrom_four (low : 0x10000 ≤ code) (valid : code.isValidChar) :
    decodeFrom position none (UInt8.ofNat (code / 262144 % 8 + 240) :: UInt8.ofNat (code / 4096 % 64 + 128) ::
        UInt8.ofNat (code / 64 % 64 + 128) :: UInt8.ofNat (code % 64 + 128) :: rest) =
      (decodeFrom (position + 4) none rest).map (Char.ofNat code :: ·) := by
  have whole : (((code / 262144 % 8 + 240 - 0xF0) * 64 + code / 4096 % 64) * 64 + code / 64 % 64) * 64 +
      code % 64 = code := by omega
  rw [decodeFrom_lead (lead_four (by omega) (by omega)),
    decodeFrom_continue (by omega) (by dsimp only; split <;> simp; omega)
      (by dsimp only; split <;> simp <;> omega)]
  dsimp only
  rw [decodeFrom_continue (by omega) (by simp) (by simp; omega)]
  dsimp only
  rw [decodeFrom_continue (by omega) (by simp) (by simp; omega)]
  simp only [whole]

/-- The bytes of a character are read back as that character. -/
theorem decodeFrom_encodeChar_append (c : Char) :
    decodeFrom position none (String.utf8EncodeChar c ++ rest) =
      (decodeFrom (position + (String.utf8EncodeChar c).length) none rest).map (c :: ·) := by
  have same : Char.ofNat c.val.toNat = c := Char.ofNat_toNat c
  have valid : c.val.toNat.isValidChar := c.valid
  unfold String.utf8EncodeChar
  generalize c.val.toNat = code at same valid
  subst same
  dsimp only
  split
  next => exact decodeFrom_one position rest (by omega)
  next =>
    split
    next => exact decodeFrom_two position rest (by omega) (by omega)
    next =>
      split
      next => exact decodeFrom_three position rest (by omega) (by omega) valid
      next => exact decodeFrom_four position rest (by omega) valid

end Characters

/-- The bytes of characters are read back as those characters, and what comes after them is read from there
on. -/
theorem decodeFrom_flatMap_append (position : Nat) (cs : List Char) (rest : List UInt8) :
    decodeFrom position none (cs.flatMap String.utf8EncodeChar ++ rest) =
      (decodeFrom (position + (cs.flatMap String.utf8EncodeChar).length) none rest).map (cs ++ ·) := by
  induction cs generalizing position with
  | nil =>
    simp only [List.flatMap_nil, List.nil_append, List.length_nil, Nat.add_zero]
    cases decodeFrom position none rest <;> rfl
  | cons c others ih =>
    rw [List.flatMap_cons, List.append_assoc, decodeFrom_encodeChar_append, ih, List.length_append, Nat.add_assoc]
    cases decodeFrom _ none rest <;> rfl

/-- Every text is read back from its bytes. -/
theorem decode_encode (text : String) : decode (encode text) = .ok text := by
  have read := decodeFrom_flatMap_append 0 text.toList []
  rw [List.append_nil, decodeFrom, Except.map, List.append_nil] at read
  rw [decode, encode, read, Except.map, String.ofList_toList]

section Mark

/-- The character that is a byte order mark where it is the first one of a file. -/
def mark : Char := '\uFEFF'

def markBytes : List UInt8 := [0xEF, 0xBB, 0xBF]

theorem withoutMark_append (bytes : List UInt8) : withoutMark (markBytes ++ bytes) = bytes := rfl

theorem withoutMark_of_unmarked {bytes : List UInt8} (unmarked : ¬ markBytes <+: bytes) :
    withoutMark bytes = bytes := by
  unfold withoutMark
  split
  · exact absurd (List.prefix_append markBytes _) unmarked
  · rfl

/-- Only a text that starts with the character of the mark has bytes that start with those of the mark. -/
theorem withoutMark_encode {text : String} (unmarked : text.toList.head? ≠ some mark) :
    withoutMark (encode text) = encode text := by
  unfold withoutMark
  split
  next bytes rest shape =>
    -- These bytes would be read back as a text with the mark in front.
    have marked : decode (encode text) =
        ((decodeFrom 3 none rest).map (mark :: ·)).map String.ofList := by
      rw [shape]
      exact congrArg _ (decodeFrom_encodeChar_append 0 rest mark)
    rw [decode_encode] at marked
    cases others : decodeFrom 3 none rest with
    | error fault => rw [others] at marked; contradiction
    | ok cs =>
      rw [others] at marked
      refine absurd ?_ unmarked
      rw [Except.ok.inj marked, String.toList_ofList]
      rfl
  next => rfl

/-- Whether bytes are those of a text, a byte order mark in front of them or not. -/
def IsStored (text : String) (bytes : List UInt8) : Prop :=
  bytes = encode text ∨ bytes = String.utf8EncodeChar mark ++ encode text

/-- A stored text is read back, unless its own first character is taken for a mark. -/
theorem decode_of_isStored {text : String} {bytes : List UInt8} (stored : IsStored text bytes)
    (unmarked : text.toList.head? ≠ some mark) : decode (withoutMark bytes) = .ok text := by
  rcases stored with rfl | rfl
  · rw [withoutMark_encode unmarked, decode_encode]
  · have marked : withoutMark (String.utf8EncodeChar mark ++ encode text) = encode text := withoutMark_append _
    rw [marked, decode_encode]

end Mark

end ScriptLint.Text.Utf8
