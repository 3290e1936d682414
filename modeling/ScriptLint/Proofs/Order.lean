import Mathlib.Order.Lattice
import ScriptLint.Order

/-! # What stable sorting gives

For a total and transitive order the sorted list is in order, and every class of elements that the
order does not tell apart keeps its own order. Together with `sortStable_perm` this determines the
result.
-/

namespace ScriptLint

variable {α : Type} {before : α → α → Bool}

theorem insertSorted_pairwise (total : ∀ x y, before x y = true ∨ before y x = true)
    (trans : ∀ x y z, before x y = true → before y z = true → before x z = true)
    (x : α) {xs : List α} (sorted : xs.Pairwise fun y z => before y z = true) :
    (insertSorted before x xs).Pairwise fun y z => before y z = true := by
  induction xs with
  | nil => exact List.pairwise_singleton ..
  | cons y rest ih =>
    obtain ⟨first, tail⟩ := List.pairwise_cons.mp sorted
    unfold insertSorted
    split
    next ahead =>
      refine List.pairwise_cons.mpr ⟨?_, sorted⟩
      intro z member
      rcases List.mem_cons.mp member with rfl | member
      · exact ahead
      · exact trans x y z ahead (first z member)
    next behind =>
      refine List.pairwise_cons.mpr ⟨?_, ih tail⟩
      intro z member
      rcases List.mem_cons.mp ((insertSorted_perm before x rest).mem_iff.mp member) with rfl | member
      · exact (total _ _).resolve_left behind
      · exact first z member

/-- Sorting puts a list in order. -/
theorem sortStable_pairwise (total : ∀ x y, before x y = true ∨ before y x = true)
    (trans : ∀ x y z, before x y = true → before y z = true → before x z = true) (xs : List α) :
    (sortStable before xs).Pairwise fun x y => before x y = true := by
  induction xs with
  | nil => exact .nil
  | cons x rest ih => exact insertSorted_pairwise total trans x ih

/-- An element is put in front of all elements of its own class. -/
theorem insertSorted_filter {keep : α → Bool}
    (tied : ∀ x y, keep x = true → keep y = true → before x y = true) (x : α) (xs : List α) :
    (insertSorted before x xs).filter keep = (x :: xs).filter keep := by
  induction xs with
  | nil => rfl
  | cons y rest ih =>
    unfold insertSorted
    split
    next => rfl
    next behind =>
      rw [List.filter_cons, ih]
      cases kept : keep x with
      | false => simp only [List.filter_cons, kept, Bool.false_eq_true, ↓reduceIte]
      | true =>
        have other : keep y = false :=
          Bool.eq_false_iff.mpr fun same => behind (tied x y kept same)
        simp only [List.filter_cons, kept, other, Bool.false_eq_true, ↓reduceIte]

/-- Elements that the order does not tell apart keep the order in which they came. -/
theorem sortStable_filter {keep : α → Bool}
    (tied : ∀ x y, keep x = true → keep y = true → before x y = true) (xs : List α) :
    (sortStable before xs).filter keep = xs.filter keep := by
  induction xs with
  | nil => rfl
  | cons x rest ih =>
    calc
      (sortStable before (x :: rest)).filter keep
        = (x :: sortStable before rest).filter keep := insertSorted_filter tied x _
      _ = (x :: rest).filter keep := by rw [List.filter_cons, List.filter_cons, ih]

/-- What the order does not look at may be changed before or after sorting. -/
theorem sortStable_map {β : Type} {change : β → α} {other : β → β → Bool}
    (same : ∀ x y, before (change x) (change y) = other x y) (xs : List β) :
    sortStable before (xs.map change) = (sortStable other xs).map change := by
  have inserted (x : β) (ys : List β) :
      insertSorted before (change x) (ys.map change) = (insertSorted other x ys).map change := by
    induction ys with
    | nil => rfl
    | cons y rest ih =>
      simp only [List.map_cons, insertSorted, same]
      split
      · rfl
      · rw [ih, List.map_cons]
  induction xs with
  | nil => rfl
  | cons x rest ih =>
    calc
      sortStable before ((x :: rest).map change)
        = insertSorted before (change x) (sortStable before (rest.map change)) := rfl
      _ = insertSorted before (change x) ((sortStable other rest).map change) := by rw [ih]
      _ = (sortStable other (x :: rest)).map change := inserted x _

/-- Where the order compares keys, the keys of a sorted list do not depend on how it came. -/
theorem sortStable_map_key_of_perm {κ : Type} [LinearOrder κ] {key : α → κ}
    (by_key : ∀ x y, before x y = true ↔ key x ≤ key y) {xs ys : List α} (perm : xs.Perm ys) :
    (sortStable before xs).map key = (sortStable before ys).map key := by
  have sorted (zs : List α) : ((sortStable before zs).map key).Pairwise (· ≤ ·) := by
    refine List.pairwise_map.mpr ((sortStable_pairwise ?_ ?_ zs).imp fun {x y} => (by_key x y).mp)
    · intro x y
      rw [by_key, by_key]
      exact le_total (key x) (key y)
    · intro x y z first second
      rw [by_key] at first second ⊢
      exact le_trans first second
  have same : ((sortStable before xs).map key).Perm ((sortStable before ys).map key) :=
    (((sortStable_perm before xs).trans perm).trans (sortStable_perm before ys).symm).map key
  exact same.eq_of_pairwise (fun _ _ _ _ => le_antisymm) (sorted xs) (sorted ys)

end ScriptLint
