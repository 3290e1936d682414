import ScriptLint.Proofs.Strings

/-! # Printing behind a colon

A terminal sequence starts with an escape character. Where texts are printed without such sequences, a
text in which none starts is printed as it is, and a colon keeps what stands in front of it apart from what
stands behind it, as it neither goes on with a sequence nor ends one. No sequence starts in a number, and
none in the shipped name and message of the rule against long lines.
-/

namespace ScriptLint.Text.Terminal

/-- The character that starts a terminal sequence. -/
def escape : Char := '\x1b'

/-- What is known of a way of printing that leaves nothing out of texts but terminal sequences. -/
structure Spares (print : String → String) : Prop where
  plain : ∀ text : String, escape ∉ text.toList → print text = text
  apart : ∀ front back : String, print (front ++ ":" ++ back) = print front ++ ":" ++ print back

/-- What stands behind a colon is printed as it is if no sequence starts there. -/
theorem Spares.append_colon {print : String → String} (spares : Spares print) {text tail : String}
    (free : escape ∉ tail.toList) : print (text ++ ":" ++ tail) = print text ++ ":" ++ tail := by
  rw [spares.apart, spares.plain tail free]

theorem escape_not_mem_nat (value : Nat) : escape ∉ (toString value).toList := by
  intro member
  rw [Nat.toString_eq_repr, Nat.toList_repr] at member
  have digit := Nat.isDigit_of_mem_toDigits (by decide) (by decide) member
  exact absurd digit (by decide)

theorem escape_not_mem_int (value : Int) : escape ∉ (toString value).toList := by
  cases value with
  | ofNat value => exact escape_not_mem_nat value
  | negSucc value =>
    intro member
    have shown : toString (Int.negSucc value) = "-" ++ toString (value + 1) := rfl
    rw [shown, String.toList_append] at member
    rcases List.mem_append.mp member with sign | digits
    · exact absurd sign (by decide)
    · exact escape_not_mem_nat _ digits

theorem escape_not_mem_shippedName : escape ∉ LongLines.shippedName.toList := by
  decide

theorem escape_not_mem_shippedMessage (lineLength : Int) :
    escape ∉ (LongLines.shippedMessage lineLength).toList := by
  unfold LongLines.shippedMessage
  simp only [String.toList_append, List.mem_append, not_or]
  exact ⟨⟨by decide, escape_not_mem_int lineLength⟩, by decide⟩

end ScriptLint.Text.Terminal
