import Mathlib.Data.List.Infix

/-! # Texts in UTF-16

A character of the basic plane is one code unit, which is its own number, and any other character is a
pair of surrogates. A text therefore has at least as many units as characters, and as many only if it is
basic. The first units of a text are those of a basic text exactly if its first characters are.
-/

namespace ScriptLint.Text.Utf16

def unitsOf (c : Char) : List Nat :=
  if c.toNat < 0x10000 then [c.toNat]
  else [0xD800 + (c.toNat - 0x10000) / 0x400, 0xDC00 + (c.toNat - 0x10000) % 0x400]

def units (text : List Char) : List Nat := text.flatMap unitsOf

/-- Whether a text is of characters in the basic plane. -/
def IsBasic (text : List Char) : Prop := ∀ c ∈ text, c.toNat < 0x10000

instance (text : List Char) : Decidable (IsBasic text) :=
  List.decidableBAll (fun c : Char => c.toNat < 0x10000) text

variable {text line : List Char} {c : Char}

theorem units_cons (c : Char) (text : List Char) : units (c :: text) = unitsOf c ++ units text :=
  List.flatMap_cons

theorem units_append (text other : List Char) : units (text ++ other) = units text ++ units other :=
  List.flatMap_append

theorem unitsOf_basic (basic : c.toNat < 0x10000) : unitsOf c = [c.toNat] :=
  if_pos basic

theorem length_unitsOf_of_not_basic (outside : ¬ c.toNat < 0x10000) : (unitsOf c).length = 2 := by
  rw [unitsOf, if_neg outside]
  rfl

theorem length_le_length_units (text : List Char) : text.length ≤ (units text).length := by
  induction text with
  | nil => exact Nat.le_refl 0
  | cons c rest ih =>
    rw [units_cons, List.length_append, List.length_cons]
    by_cases basic : c.toNat < 0x10000
    · rw [unitsOf_basic basic, List.length_singleton]
      omega
    · rw [length_unitsOf_of_not_basic basic]
      omega

theorem length_units_eq_iff : (units text).length = text.length ↔ IsBasic text := by
  induction text with
  | nil => exact iff_of_true rfl fun c member => absurd member List.not_mem_nil
  | cons c rest ih =>
    have atLeast := length_le_length_units rest
    rw [units_cons, List.length_append, List.length_cons, IsBasic, List.forall_mem_cons]
    by_cases basic : c.toNat < 0x10000
    · rw [unitsOf_basic basic, List.length_singleton, and_iff_right basic, Nat.add_comm 1, Nat.add_right_cancel_iff, ih]
      rfl
    · rw [length_unitsOf_of_not_basic basic]
      exact iff_of_false (by omega) fun both => basic both.1

/-- The unit of a basic character starts no other character. -/
theorem head?_unitsOf_eq_iff {other : Char} (basic : c.toNat < 0x10000) :
    (unitsOf other).head? = some c.toNat ↔ other = c := by
  by_cases alsoBasic : other.toNat < 0x10000
  · rw [unitsOf_basic alsoBasic, List.head?_cons, Option.some.injEq, Char.toNat_inj]
  · have outside : other ≠ c := by
      rintro rfl
      exact alsoBasic basic
    -- The first of two units is a surrogate, which is no character.
    have noSurrogate : c.toNat < 0xD800 ∨ 0xDFFF < c.toNat ∧ c.toNat < 0x110000 := c.valid
    have bound : other.toNat < 0xD800 ∨ 0xDFFF < other.toNat ∧ other.toNat < 0x110000 := other.valid
    rw [unitsOf, if_neg alsoBasic, List.head?_cons, Option.some.injEq]
    exact iff_of_false (by omega) outside

theorem units_prefix_iff (basic : IsBasic line) : units line <+: units text ↔ line <+: text := by
  induction line generalizing text with
  | nil => exact iff_of_true List.nil_prefix List.nil_prefix
  | cons c rest ih =>
    obtain ⟨own, others⟩ := List.forall_mem_cons.mp basic
    rw [units_cons, unitsOf_basic own, List.singleton_append]
    cases text with
    | nil =>
      refine iff_of_false (fun front => ?_) fun front => ?_
      · exact absurd (List.prefix_nil.mp front) (List.cons_ne_nil _ _)
      · exact absurd (List.prefix_nil.mp front) (List.cons_ne_nil _ _)
    | cons other more =>
      rw [units_cons, List.cons_prefix_cons]
      by_cases same : other = c
      · subst same
        rw [unitsOf_basic own, List.singleton_append, List.cons_prefix_cons, ih others, and_iff_right rfl,
          and_iff_right rfl]
      · refine iff_of_false (fun front => ?_) fun both => same both.1.symm
        have first := (head?_unitsOf_eq_iff own).not.mpr same
        obtain ⟨unit, further, shape⟩ : ∃ unit further, unitsOf other = unit :: further := by
          unfold unitsOf
          split <;> exact ⟨_, _, rfl⟩
        rw [shape, List.cons_append, List.cons_prefix_cons] at front
        rw [shape, List.head?_cons, front.1] at first
        exact first rfl

/-- As many units as a line has characters are those of the line exactly if it is basic and stands there. -/
theorem take_units_eq_iff : (units text).take line.length = units line ↔ IsBasic line ∧ line <+: text := by
  constructor
  · intro same
    have basic : IsBasic line := by
      refine length_units_eq_iff.mp (Nat.le_antisymm ?_ (length_le_length_units line))
      rw [← same, List.length_take]
      exact Nat.min_le_left ..
    exact ⟨basic, (units_prefix_iff basic).mp (same ▸ List.take_prefix ..)⟩
  · rintro ⟨basic, rest, rfl⟩
    rw [units_append, ← length_units_eq_iff.mpr basic, List.take_left' rfl]

end ScriptLint.Text.Utf16
