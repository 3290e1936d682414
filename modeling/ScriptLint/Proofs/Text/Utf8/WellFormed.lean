import ScriptLint.Proofs.Text.Utf8

/-! # Well-formed bytes

Bytes spell the code of a character by a first byte, whose leading bits tell how many bytes belong to it,
and by further bytes with six bits each. They are well-formed if each character is spelled as briefly as
possible and its code is one of a character: neither a surrogate nor above U+10FFFF. The decoder reads
exactly the well-formed bytes, as the one text that they encode, and a failure stands at the end of the
longest beginning that is well-formed.
-/

namespace ScriptLint.Text.Utf8

/-- Whether a byte goes on with a character. -/
def IsTail (byte : UInt8) : Prop := 0x80 ≤ byte.toNat ∧ byte.toNat < 0xC0

/-- The six bits of a byte that goes on with a character. -/
def tailBits (byte : UInt8) : Nat := byte.toNat - 0x80

/-- Whether bytes have the bit pattern that stands for a code. -/
inductive Spells : List UInt8 → Nat → Prop where
  | one {a : UInt8} (first : a.toNat < 0x80) : Spells [a] a.toNat
  | two {a b : UInt8} (first : 0xC0 ≤ a.toNat ∧ a.toNat < 0xE0) (second : IsTail b) :
    Spells [a, b] ((a.toNat - 0xC0) * 64 + tailBits b)
  | three {a b c : UInt8} (first : 0xE0 ≤ a.toNat ∧ a.toNat < 0xF0) (second : IsTail b) (third : IsTail c) :
    Spells [a, b, c] (((a.toNat - 0xE0) * 64 + tailBits b) * 64 + tailBits c)
  | four {a b c d : UInt8} (first : 0xF0 ≤ a.toNat ∧ a.toNat < 0xF8) (second : IsTail b) (third : IsTail c)
    (fourth : IsTail d) :
    Spells [a, b, c, d] ((((a.toNat - 0xF0) * 64 + tailBits b) * 64 + tailBits c) * 64 + tailBits d)

/-- The least code that takes a number of bytes. -/
def leastCode : Nat → Nat
  | 0 | 1 => 0
  | 2 => 0x80
  | 3 => 0x800
  | _ => 0x10000

/-- Whether bytes are those of one character with a code. -/
structure IsSequence (bytes : List UInt8) (code : Nat) : Prop where
  spelled : Spells bytes code
  /-- Fewer bytes would not do. -/
  shortest : leastCode bytes.length ≤ code
  /-- The code is neither a surrogate nor above U+10FFFF. -/
  valid : code.isValidChar

/-- Whether bytes are those of characters one after the other. -/
inductive IsWellFormed : List UInt8 → Prop where
  | nil : IsWellFormed []
  | append {bytes rest : List UInt8} {code : Nat} (first : IsSequence bytes code) (others : IsWellFormed rest) :
    IsWellFormed (bytes ++ rest)

section Characters

theorem toNat_ofNat_of_valid {code : Nat} (valid : code.isValidChar) : (Char.ofNat code).val.toNat = code := by
  rw [Char.ofNat, dif_pos valid]
  rfl

theorem eq_ofNat {byte : UInt8} {code : Nat} (same : code = byte.toNat) : UInt8.ofNat code = byte := by
  rw [same, UInt8.ofNat_toNat]

theorem length_pos_of_isSequence {bytes : List UInt8} {code : Nat} (sequence : IsSequence bytes code) :
    0 < bytes.length := by
  cases sequence.spelled <;> exact Nat.succ_pos _

/-- The bytes of a character are its encoding. -/
theorem encodeChar_of_isSequence {bytes : List UInt8} {code : Nat} (sequence : IsSequence bytes code) :
    String.utf8EncodeChar (Char.ofNat code) = bytes := by
  obtain ⟨spelled, shortest, valid⟩ := sequence
  unfold String.utf8EncodeChar
  rw [toNat_ofNat_of_valid valid]
  cases spelled with
  | one first =>
    dsimp only
    rw [if_pos, eq_ofNat rfl]
    omega
  | two first second =>
    obtain ⟨low, high⟩ := second
    have least : 0x80 ≤ _ := shortest
    unfold tailBits at least ⊢
    dsimp only
    rw [if_neg, if_pos]
    · simp only [List.cons.injEq, and_true]
      exact ⟨eq_ofNat (by omega), eq_ofNat (by omega)⟩
    all_goals omega
  | three first second third =>
    obtain ⟨low, high⟩ := second
    obtain ⟨third_low, third_high⟩ := third
    have least : 0x800 ≤ _ := shortest
    unfold tailBits at least ⊢
    dsimp only
    rw [if_neg, if_neg, if_pos]
    · simp only [List.cons.injEq, and_true]
      exact ⟨eq_ofNat (by omega), eq_ofNat (by omega), eq_ofNat (by omega)⟩
    all_goals omega
  | four first second third fourth =>
    obtain ⟨low, high⟩ := second
    obtain ⟨third_low, third_high⟩ := third
    obtain ⟨fourth_low, fourth_high⟩ := fourth
    have least : 0x10000 ≤ _ := shortest
    unfold tailBits at least ⊢
    dsimp only
    rw [if_neg, if_neg, if_neg]
    · simp only [List.cons.injEq, and_true]
      exact ⟨eq_ofNat (by omega), eq_ofNat (by omega), eq_ofNat (by omega), eq_ofNat (by omega)⟩
    all_goals omega

theorem isTail_ofNat {bits : Nat} (bound : bits < 0x40) : IsTail (UInt8.ofNat (bits + 128)) := by
  have value : (UInt8.ofNat (bits + 128)).toNat = bits + 128 := toNat_ofNat_of_lt (by omega)
  unfold IsTail
  omega

theorem tailBits_ofNat {bits : Nat} (bound : bits < 0x40) : tailBits (UInt8.ofNat (bits + 128)) = bits := by
  have value : (UInt8.ofNat (bits + 128)).toNat = bits + 128 := toNat_ofNat_of_lt (by omega)
  unfold tailBits
  omega

theorem spells_of_eq {bytes : List UInt8} {code other : Nat} (spelled : Spells bytes code) (same : code = other) :
    Spells bytes other := same ▸ spelled

/-- The encoding of a character is its bytes. -/
theorem isSequence_encodeChar (c : Char) : IsSequence (String.utf8EncodeChar c) c.toNat := by
  have valid : c.val.toNat.isValidChar := c.valid
  change IsSequence (String.utf8EncodeChar c) c.val.toNat
  unfold String.utf8EncodeChar
  generalize c.val.toNat = code at valid
  have bound : code < 0x110000 := by omega
  dsimp only
  split
  next small =>
    have value : (UInt8.ofNat code).toNat = code := toNat_ofNat_of_lt (by omega)
    exact ⟨spells_of_eq (.one (by omega)) value, Nat.zero_le _, valid⟩
  split
  next large small =>
    have value : (UInt8.ofNat (code / 64 % 32 + 192)).toNat = code / 64 % 32 + 192 := toNat_ofNat_of_lt (by omega)
    have last : code % 64 < 0x40 := by omega
    refine ⟨spells_of_eq (.two (by omega) (isTail_ofNat last)) ?_, by change 0x80 ≤ code; omega, valid⟩
    rw [value, tailBits_ofNat last]
    omega
  split
  next large small =>
    have value : (UInt8.ofNat (code / 4096 % 16 + 224)).toNat = code / 4096 % 16 + 224 :=
      toNat_ofNat_of_lt (by omega)
    have second : code / 64 % 64 < 0x40 := by omega
    have last : code % 64 < 0x40 := by omega
    refine ⟨spells_of_eq (.three (by omega) (isTail_ofNat second) (isTail_ofNat last)) ?_,
      by change 0x800 ≤ code; omega, valid⟩
    rw [value, tailBits_ofNat second, tailBits_ofNat last]
    omega
  next large =>
    have value : (UInt8.ofNat (code / 262144 % 8 + 240)).toNat = code / 262144 % 8 + 240 :=
      toNat_ofNat_of_lt (by omega)
    have second : code / 4096 % 64 < 0x40 := by omega
    have third : code / 64 % 64 < 0x40 := by omega
    have last : code % 64 < 0x40 := by omega
    refine ⟨spells_of_eq (.four (by omega) (isTail_ofNat second) (isTail_ofNat third) (isTail_ofNat last)) ?_,
      by change 0x10000 ≤ code; omega, valid⟩
    rw [value, tailBits_ofNat second, tailBits_ofNat third, tailBits_ofNat last]
    omega

end Characters

section Decoder
variable {position : Nat} {bytes rest : List UInt8} {fault : Fault}

/-- An unfinished character is finished by the bytes that it still needs, or it begins where the failure
stands. -/
theorem exists_tails_or_fault (position : Nat) (pending : Pending) (rest : List UInt8) :
    (∃ byte tails others, rest = byte :: (tails ++ others) ∧
      pending.low.toNat ≤ byte.toNat ∧ byte.toNat ≤ pending.high.toNat ∧
      tails.length = pending.more ∧ ∀ tail ∈ tails, IsTail tail) ∨
    ∃ fault, decodeFrom position (some pending) rest = .error fault ∧ fault.position = position - pending.seen := by
  induction needed : pending.more generalizing pending position rest with
  | zero =>
    cases rest with
    | nil => exact .inr ⟨_, rfl, rfl⟩
    | cons byte others =>
      by_cases inside : pending.low ≤ byte ∧ byte ≤ pending.high
      · exact .inl ⟨byte, [], others, rfl, inside.1, inside.2, rfl, fun _ member => absurd member List.not_mem_nil⟩
      · exact .inr ⟨_, by rw [decodeFrom, if_neg inside], rfl⟩
  | succ more ih =>
    cases rest with
    | nil => exact .inr ⟨_, rfl, rfl⟩
    | cons byte others =>
      by_cases inside : pending.low ≤ byte ∧ byte ≤ pending.high
      · -- From the second byte on every byte that goes on with a character will do.
        have onward :=
          ih (position + 1) ⟨pending.byte, pending.seen + 1, more, 0x80, 0xBF, pending.extend byte⟩ others rfl
        rcases onward with ⟨next, tails, others, rfl, low, high, counted, all⟩ | ⟨fault, failed, place⟩
        · refine .inl ⟨byte, next :: tails, others, rfl, inside.1, inside.2, congrArg (· + 1) counted, ?_⟩
          intro tail member
          rcases List.mem_cons.mp member with rfl | member
          · exact ⟨low, Nat.lt_succ_of_le high⟩
          · exact all tail member
        · refine .inr ⟨fault, ?_, ?_⟩
          · rw [decodeFrom, if_pos inside, needed]
            exact failed
          · rw [place]
            exact Nat.add_sub_add_right ..
      · exact .inr ⟨_, by rw [decodeFrom, if_neg inside], rfl⟩

section Sequences
variable {a b c d : UInt8}

theorem isSequence_two (first : 0xC2 ≤ a.toNat ∧ a.toNat < 0xE0) (second : IsTail b) :
    IsSequence [a, b] ((a.toNat - 0xC0) * 64 + tailBits b) := by
  have spelled : Spells [a, b] _ := .two (by omega) second
  obtain ⟨low, high⟩ := second
  refine ⟨spelled, ?_, .inl ?_⟩
  · change 0x80 ≤ _
    omega
  · unfold tailBits
    omega

/-- The range of the second byte leaves out longer forms of short codes, and surrogates. -/
theorem isSequence_three (first : 0xE0 ≤ a.toNat ∧ a.toNat < 0xF0) (second : IsTail b) (third : IsTail c)
    (long : a.toNat = 0xE0 → 0xA0 ≤ b.toNat) (plain : a.toNat = 0xED → b.toNat < 0xA0) :
    IsSequence [a, b, c] (((a.toNat - 0xE0) * 64 + tailBits b) * 64 + tailBits c) := by
  have spelled : Spells [a, b, c] _ := .three first second third
  obtain ⟨low, high⟩ := second
  obtain ⟨third_low, third_high⟩ := third
  unfold tailBits at spelled ⊢
  refine ⟨spelled, ?_, ?_⟩
  · change 0x800 ≤ _
    omega
  · omega

/-- The range of the second byte leaves out longer forms of short codes, and what is no code. -/
theorem isSequence_four (first : 0xF0 ≤ a.toNat ∧ a.toNat < 0xF5) (second : IsTail b) (third : IsTail c)
    (fourth : IsTail d) (long : a.toNat = 0xF0 → 0x90 ≤ b.toNat) (small : a.toNat = 0xF4 → b.toNat < 0x90) :
    IsSequence [a, b, c, d] ((((a.toNat - 0xF0) * 64 + tailBits b) * 64 + tailBits c) * 64 + tailBits d) := by
  have spelled : Spells [a, b, c, d] _ := .four (by omega) second third fourth
  obtain ⟨low, high⟩ := second
  obtain ⟨third_low, third_high⟩ := third
  obtain ⟨fourth_low, fourth_high⟩ := fourth
  unfold tailBits at spelled ⊢
  refine ⟨spelled, ?_, .inr ?_⟩
  · change 0x10000 ≤ _
    omega
  · omega

end Sequences

theorem lead_bad {byte : UInt8} (bad : 0x80 ≤ byte.toNat ∧ byte.toNat < 0xC2 ∨ 0xF5 ≤ byte.toNat) :
    lead byte = .bad := by
  unfold lead
  simp only [UInt8.lt_iff_toNat_lt]
  rw [if_neg]
  · split
    · rfl
    · rw [if_neg, if_neg, if_neg]
      all_goals simp only [UInt8.toNat_ofNat] at *; omega
  · simp only [UInt8.toNat_ofNat]
    omega

/-- What a byte begins goes by its value. -/
theorem lead_cases (byte : UInt8) :
    (byte.toNat < 0x80 ∧ lead byte = .single) ∨
    ((0xC2 ≤ byte.toNat ∧ byte.toNat < 0xE0) ∧
      lead byte = .several ⟨byte, 1, 0, 0x80, 0xBF, byte.toNat - 0xC0⟩) ∨
    ((0xE0 ≤ byte.toNat ∧ byte.toNat < 0xF0) ∧
      lead byte = .several ⟨byte, 1, 1, if byte.toNat = 0xE0 then 0xA0 else 0x80,
        if byte.toNat = 0xED then 0x9F else 0xBF, byte.toNat - 0xE0⟩) ∨
    ((0xF0 ≤ byte.toNat ∧ byte.toNat < 0xF5) ∧
      lead byte = .several ⟨byte, 1, 2, if byte.toNat = 0xF0 then 0x90 else 0x80,
        if byte.toNat = 0xF4 then 0x8F else 0xBF, byte.toNat - 0xF0⟩) ∨
    lead byte = .bad := by
  have whole : UInt8.ofNat byte.toNat = byte := UInt8.ofNat_toNat
  rcases Nat.lt_or_ge byte.toNat 0x80 with below | ascii
  · have leads := lead_single below
    rw [whole] at leads
    exact .inl ⟨below, leads⟩
  rcases Nat.lt_or_ge byte.toNat 0xC2 with below | low
  · exact .inr (.inr (.inr (.inr (lead_bad (.inl ⟨ascii, below⟩)))))
  rcases Nat.lt_or_ge byte.toNat 0xE0 with below | three
  · have leads := lead_two low below
    rw [whole] at leads
    exact .inr (.inl ⟨⟨low, below⟩, leads⟩)
  rcases Nat.lt_or_ge byte.toNat 0xF0 with below | four
  · have leads := lead_three three below
    rw [whole] at leads
    exact .inr (.inr (.inl ⟨⟨three, below⟩, leads⟩))
  rcases Nat.lt_or_ge byte.toNat 0xF5 with below | high
  · have leads := lead_four four below
    rw [whole] at leads
    exact .inr (.inr (.inr (.inl ⟨⟨four, below⟩, leads⟩)))
  · exact .inr (.inr (.inr (.inr (lead_bad (.inr high)))))

/-- The second byte has a smaller range after some first bytes. -/
theorem bounds_of_ite {shorter longer : Prop} [Decidable shorter] [Decidable longer] {low high byte : UInt8}
    (above : (if shorter then low else 0x80).toNat ≤ byte.toNat)
    (below : byte.toNat ≤ (if longer then high else 0xBF).toNat)
    (least : 0x80 ≤ low.toNat) (greatest : high.toNat ≤ 0xBF) :
    IsTail byte ∧ (shorter → low.toNat ≤ byte.toNat) ∧ (longer → byte.toNat ≤ high.toNat) := by
  have default_low : (0x80 : UInt8).toNat = 0x80 := rfl
  have default_high : (0xBF : UInt8).toNat = 0xBF := rfl
  unfold IsTail
  by_cases short : shorter <;> by_cases long : longer <;>
    simp only [short, long, ↓reduceIte, default_low, default_high, forall_const, false_implies, and_true,
      true_and] at above below ⊢ <;> omega

/-- Where a character may begin one does, or the failure stands at that place. -/
theorem exists_sequence_or_fault (position : Nat) (byte : UInt8) (rest : List UInt8) :
    (∃ sequence code others, byte :: rest = sequence ++ others ∧ IsSequence sequence code) ∨
      ∃ fault, decodeFrom position none (byte :: rest) = .error fault ∧ fault.position = position := by
  -- The failure of an unfinished character stands at its first byte.
  have unfinished {pending : Pending} (leads : lead byte = .several pending) (begun : pending.seen = 1) :
      (∃ second tails others, rest = second :: (tails ++ others) ∧
        pending.low.toNat ≤ second.toNat ∧ second.toNat ≤ pending.high.toNat ∧
        tails.length = pending.more ∧ ∀ tail ∈ tails, IsTail tail) ∨
      ∃ fault, decodeFrom position none (byte :: rest) = .error fault ∧ fault.position = position := by
    have outcome := exists_tails_or_fault (position + 1) pending rest
    rwa [begun, Nat.add_sub_cancel, ← decodeFrom_lead leads] at outcome
  rcases lead_cases byte with ⟨small, -⟩ | ⟨first, leads⟩ | ⟨first, leads⟩ | ⟨first, leads⟩ | bad
  · refine .inl ⟨[byte], byte.toNat, rest, rfl, .one small, Nat.zero_le _, .inl ?_⟩
    omega
  · refine (unfinished leads rfl).imp_left ?_
    rintro ⟨second, tails, others, rfl, low, high, counted, -⟩
    obtain rfl := List.eq_nil_of_length_eq_zero counted
    refine ⟨[byte, second], _, others, rfl, isSequence_two first ⟨low, Nat.lt_succ_of_le high⟩⟩
  · refine (unfinished leads rfl).imp_left ?_
    rintro ⟨second, tails, others, rfl, low, high, counted, all⟩
    obtain ⟨third, rfl⟩ := List.length_eq_one_iff.mp counted
    obtain ⟨tail, long, plain⟩ := bounds_of_ite low high (by decide) (by decide)
    have third_tail := all third (List.mem_cons_self ..)
    exact ⟨[byte, second, third], _, others, rfl,
      isSequence_three first tail third_tail long fun same => Nat.lt_succ_of_le (plain same)⟩
  · refine (unfinished leads rfl).imp_left ?_
    rintro ⟨second, tails, others, rfl, low, high, counted, all⟩
    obtain ⟨third, more, rfl⟩ := List.exists_cons_of_length_eq_add_one counted
    obtain ⟨fourth, rfl⟩ := List.length_eq_one_iff.mp (Nat.succ.inj counted)
    obtain ⟨tail, long, small⟩ := bounds_of_ite low high (by decide) (by decide)
    have third_tail := all third (List.mem_cons_self ..)
    have fourth_tail := all fourth (List.mem_cons_of_mem _ (List.mem_cons_self ..))
    exact ⟨[byte, second, third, fourth], _, others, rfl,
      isSequence_four first tail third_tail fourth_tail long fun same => Nat.lt_succ_of_le (small same)⟩
  · exact .inr ⟨⟨position, 1, byte, .invalidStart⟩, by rw [decodeFrom, bad], rfl⟩

end Decoder

/-- The well-formed bytes are those of texts. -/
theorem isWellFormed_iff {bytes : List UInt8} : IsWellFormed bytes ↔ ∃ text, encode text = bytes := by
  constructor
  · intro formed
    induction formed with
    | nil => exact ⟨"", rfl⟩
    | @append bytes rest code first _ ih =>
      obtain ⟨text, rfl⟩ := ih
      refine ⟨String.singleton (Char.ofNat code) ++ text, ?_⟩
      rw [← encodeChar_of_isSequence first, encode, String.toList_append, String.toList_singleton,
        List.flatMap_append, List.flatMap_singleton]
      rfl
  · rintro ⟨text, rfl⟩
    unfold encode
    induction text.toList with
    | nil => exact .nil
    | cons c rest ih =>
      rw [List.flatMap_cons]
      exact .append (isSequence_encodeChar c) ih

/-- Bytes are decoded to the end, or up to the place where no character begins. -/
theorem decodeFrom_cases (position : Nat) (bytes : List UInt8) :
    (∃ cs : List Char, bytes = cs.flatMap String.utf8EncodeChar ∧ decodeFrom position none bytes = .ok cs) ∨
      ∃ (cs : List Char) (rest : List UInt8) (fault : Fault), bytes = cs.flatMap String.utf8EncodeChar ++ rest ∧
        decodeFrom position none bytes = .error fault ∧
        fault.position = position + (cs.flatMap String.utf8EncodeChar).length := by
  cases bytes with
  | nil => exact .inl ⟨[], rfl, rfl⟩
  | cons byte rest =>
    rcases exists_sequence_or_fault position byte rest with
      ⟨sequence, code, others, cut, first⟩ | ⟨fault, failed, place⟩
    · have begun := encodeChar_of_isSequence first
      rw [cut, ← begun, decodeFrom_encodeChar_append]
      have shorter : others.length < (byte :: rest).length := by
        have total := congrArg List.length cut
        have positive := length_pos_of_isSequence first
        rw [List.length_append] at total
        omega
      rcases decodeFrom_cases (position + (String.utf8EncodeChar (Char.ofNat code)).length) others with
        ⟨cs, rfl, read⟩ | ⟨cs, beyond, fault, rfl, failed, place⟩
      · rw [read]
        exact .inl ⟨Char.ofNat code :: cs, rfl, rfl⟩
      · rw [failed]
        refine .inr ⟨Char.ofNat code :: cs, beyond, fault, (List.append_assoc ..).symm, rfl, ?_⟩
        rw [place, List.flatMap_cons, List.length_append, Nat.add_assoc]
    · exact .inr ⟨[], byte :: rest, fault, rfl, failed, place⟩
termination_by bytes.length
decreasing_by exact shorter

/-- Bytes are decoded as a text exactly if they are its encoding. -/
theorem decode_eq_ok_iff {bytes : List UInt8} {text : String} : decode bytes = .ok text ↔ encode text = bytes := by
  constructor
  · intro decoded
    rcases decodeFrom_cases 0 bytes with ⟨cs, rfl, read⟩ | ⟨_, _, fault, -, failed, -⟩
    · rw [decode, read] at decoded
      rw [← Except.ok.inj decoded, encode, String.toList_ofList]
    · rw [decode, failed] at decoded
      contradiction
  · rintro rfl
    exact decode_encode text

/-- Whether the longest well-formed beginning of bytes has a given length. -/
structure IsLongestFront (bytes : List UInt8) (length : Nat) : Prop where
  inside : length ≤ bytes.length
  formed : IsWellFormed (bytes.take length)
  longest : ∀ front, front <+: bytes → IsWellFormed front → front.length ≤ length

/-- Decoding fails where the longest well-formed beginning ends. -/
theorem isLongestFront_of_decode {bytes : List UInt8} {fault : Fault} (failed : decode bytes = .error fault) :
    IsLongestFront bytes fault.position := by
  have stopped : decodeFrom 0 none bytes = .error fault := by
    unfold decode at failed
    cases read : decodeFrom 0 none bytes with
    | ok cs => rw [read] at failed; contradiction
    | error other => rw [read] at failed; exact congrArg _ (Except.error.inj failed)
  obtain ⟨cs, rest, rfl, place⟩ : ∃ (cs : List Char) (rest : List UInt8),
      bytes = cs.flatMap String.utf8EncodeChar ++ rest ∧
        fault.position = (cs.flatMap String.utf8EncodeChar).length := by
    rcases decodeFrom_cases 0 bytes with ⟨cs, -, read⟩ | ⟨cs, rest, other, cut, again, place⟩
    · rw [stopped] at read
      contradiction
    · obtain rfl := Except.error.inj (stopped.symm.trans again)
      exact ⟨cs, rest, cut, by rw [place, Nat.zero_add]⟩
  refine ⟨?_, ?_, ?_⟩
  · rw [place, List.length_append]
    exact Nat.le_add_right ..
  · rw [place, List.take_left]
    exact isWellFormed_iff.mpr ⟨String.ofList cs, by rw [encode, String.toList_ofList]⟩
  · rintro front ⟨others, cut⟩ formed
    obtain ⟨text, rfl⟩ := isWellFormed_iff.mp formed
    -- The decoder reads any well-formed beginning, so that it can only fail behind it.
    rw [← cut, encode, decodeFrom_flatMap_append] at stopped
    rcases decodeFrom_cases (0 + (text.toList.flatMap String.utf8EncodeChar).length) others with
      ⟨cs, -, read⟩ | ⟨beyond, -, other, -, again, behind⟩
    · rw [read] at stopped
      contradiction
    · rw [again] at stopped
      obtain rfl := Except.error.inj stopped
      rw [encode, behind, Nat.zero_add]
      exact Nat.le_add_right ..

end ScriptLint.Text.Utf8
