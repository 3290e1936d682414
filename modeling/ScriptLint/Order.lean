/-! # Stable sorting

Insertion sort for a given order. Elements that the order does not tell apart keep the order in which
they came. A list that is sorted already is passed through once.
-/

namespace ScriptLint

variable {α : Type}

/-- Put an element in front of the first one that is not before it. -/
def insertSorted (before : α → α → Bool) (x : α) : List α → List α
  | [] => [x]
  | y :: rest => if before x y then x :: y :: rest else y :: insertSorted before x rest

/-- Sort a list, where `before x y` says that `x` may stand before `y`. -/
def sortStable (before : α → α → Bool) (xs : List α) : List α :=
  xs.foldr (insertSorted before) []

theorem insertSorted_perm (before : α → α → Bool) (x : α) (xs : List α) :
    (insertSorted before x xs).Perm (x :: xs) := by
  induction xs with
  | nil => exact .refl _
  | cons y rest hyp =>
    unfold insertSorted
    split
    · exact .refl _
    · exact (hyp.cons y).trans (.swap x y rest)

/-- Sorting loses nothing and doubles nothing. -/
theorem sortStable_perm (before : α → α → Bool) (xs : List α) :
    (sortStable before xs).Perm xs := by
  induction xs with
  | nil => exact .refl _
  | cons x rest hyp => exact (insertSorted_perm before x _).trans (hyp.cons x)

end ScriptLint
