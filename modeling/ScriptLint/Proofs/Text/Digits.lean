import Mathlib.Algebra.Ring.Nat
import ScriptLint.Text.Digits
import ScriptLint.Text.Quoted

/-! # Digits read back

The digits of a number in a base up to sixteen denote that number again, also if zeros are put in front of
them. Only the number zero is written with a leading zero.
-/

namespace ScriptLint.Text

theorem digitValue_digitChar {digit : Nat} (small : digit < 16) : digitValue digit.digitChar = digit := by
  have all : ∀ digit < 16, digitValue (Nat.digitChar digit) = digit := by decide
  exact all digit small

theorem isHexadecimal_digitChar {digit : Nat} (small : digit < 16) : isHexadecimal digit.digitChar = true := by
  have all : ∀ digit < 16, isHexadecimal (Nat.digitChar digit) = true := by decide
  exact all digit small

theorem digitsValue_concat (base : Nat) (digits : List Char) (c : Char) :
    digitsValue base (digits ++ [c]) = digitsValue base digits * base + digitValue c := by
  simp only [digitsValue, List.foldl_append, List.foldl_cons, List.foldl_nil]

/-- Zeros in front do not count. -/
theorem digitsValue_zeros (base count : Nat) (digits : List Char) :
    digitsValue base (List.replicate count '0' ++ digits) = digitsValue base digits := by
  induction count with
  | zero => rfl
  | succ count ih =>
    have zero : 0 * base + digitValue '0' = 0 := Nat.zero_mul base
    rw [← ih]
    simp only [digitsValue, List.replicate_succ, List.cons_append, List.foldl_cons, zero]

section Digits
variable {base : Nat} (large : 1 < base) (small : base ≤ 16)
include large small

theorem digitsValue_toDigits (n : Nat) : digitsValue base (base.toDigits n) = n := by
  induction n using Nat.strongRecOn with
  | _ n ih =>
    rw [Nat.toDigits_eq_if large]
    by_cases below : n < base
    · rw [if_pos below]
      show 0 * base + digitValue n.digitChar = n
      rw [digitValue_digitChar (Nat.lt_of_lt_of_le below small)]
      omega
    · have last := Nat.mod_lt n (Nat.lt_of_succ_lt large)
      rw [if_neg below, digitsValue_concat, ih (n / base) (Nat.div_lt_self (by omega) large),
        digitValue_digitChar (Nat.lt_of_lt_of_le last small)]
      exact Nat.div_add_mod' n base

theorem exists_of_mem_toDigits {n : Nat} {c : Char} (member : c ∈ base.toDigits n) :
    ∃ digit, digit < base ∧ c = digit.digitChar := by
  induction n using Nat.strongRecOn with
  | _ n ih =>
    rw [Nat.toDigits_eq_if large] at member
    split at member
    next below => exact ⟨n, below, List.mem_singleton.mp member⟩
    next above =>
      rcases List.mem_append.mp member with front | last
      · exact ih (n / base) (Nat.div_lt_self (by omega) large) front
      · exact ⟨n % base, Nat.mod_lt n (by omega), List.mem_singleton.mp last⟩

end Digits

theorem head?_toDigits_ne {n : Nat} (positive : 0 < n) : (Nat.toDigits 10 n).head? ≠ some '0' := by
  induction n using Nat.strongRecOn with
  | _ n ih =>
    rw [Nat.toDigits_eq_if (by decide)]
    split
    · rw [List.head?_cons, ne_eq, Option.some.injEq, Nat.digitChar_eq_zero]
      omega
    · have front := ih (n / 10) (by omega) (by omega)
      cases digits : Nat.toDigits 10 (n / 10) with
      | nil => exact absurd digits Nat.toDigits_ne_nil
      | cons c rest => rwa [digits] at front

/-- The least natural number that has too many digits to be shown. -/
@[irreducible]
def leastLong : Nat := 10 ^ maxDecimalDigits

theorem leastLong_pos : 0 < leastLong := by
  unfold leastLong
  exact Nat.pow_pos (by decide)

/-- An integer can be shown exactly if it lies between the least ones that cannot. -/
theorem isShort_iff {value : Int} : IsShort value ↔ -leastLong < value ∧ value < leastLong := by
  have bound : IsShort value ↔ value.natAbs < leastLong := by
    unfold leastLong
    exact Nat.length_toDigits_le_iff (by decide) (by decide)
  rw [bound]
  omega

theorem not_isShort_leastLong : ¬ IsShort leastLong := by
  rw [isShort_iff]
  omega

theorem not_isShort_neg_leastLong : ¬ IsShort (-leastLong) := by
  rw [isShort_iff]
  omega

theorem length_hexDigits {width value : Nat} (positive : 0 < width) (fits : value < 16 ^ width) :
    (hexDigits width value).length = width := by
  have short : (Nat.toDigits 16 value).length ≤ width :=
    (Nat.length_toDigits_le_iff (by decide) positive).mpr fits
  rw [hexDigits, List.length_append, List.length_replicate]
  omega

theorem digitsValue_hexDigits (width value : Nat) : digitsValue 16 (hexDigits width value) = value := by
  rw [hexDigits, digitsValue_zeros, digitsValue_toDigits (by decide) (by decide)]

theorem all_isHexadecimal_hexDigits (width value : Nat) : (hexDigits width value).all isHexadecimal = true := by
  rw [List.all_eq_true]
  intro c member
  rw [hexDigits, List.mem_append, List.mem_replicate] at member
  rcases member with ⟨-, rfl⟩ | member
  · decide
  · obtain ⟨digit, small, rfl⟩ := exists_of_mem_toDigits (by decide) (by decide) member
    exact isHexadecimal_digitChar small

end ScriptLint.Text
