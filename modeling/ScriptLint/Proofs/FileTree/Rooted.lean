import Mathlib.Data.List.Induction
import ScriptLint.Proofs.FileTree.Length

/-! # Relative paths and the absolute ones that they stand for

A relative path leads where the absolute path from the root through the working directory leads, unless that
one is too long to be followed. The paths above the absolute one are those above the relative one, as seen from
the working directory, and then the paths above the working directory.
-/

namespace ScriptLint

namespace Path

variable {path base : Path}

theorem anchor_of_relative (relative : path.isAbsolute = false) : path.anchor = "" := by
  simpa only [isAbsolute, ne_eq, decide_not, Bool.not_eq_false', decide_eq_true_eq] using relative

theorem join_of_relative (relative : path.isAbsolute = false) : base.join path = base.below path.parts := by
  rw [join, relative]
  rfl

theorem parents_child (path : Path) (name : String) : (path.child name).parents = path :: path.parents := by
  have shorter : ∀ count ∈ (List.range path.parts.length).reverse,
      (path.parts ++ [name]).take count = path.parts.take count := by
    intro count member
    rw [List.mem_reverse, List.mem_range] at member
    exact List.take_append_of_le_length (Nat.le_of_lt member)
  unfold parents child
  rw [List.length_append, List.length_singleton, List.range_succ, List.reverse_append, List.reverse_singleton,
    List.singleton_append, List.map_cons, List.take_left]
  exact congrArg (path :: ·) (List.map_congr_left fun count member => by rw [shorter count member])

/-- From a path below a base the way up goes first to the base and then on from there. -/
theorem parents_below (base : Path) (anchor : String) (names : List String) :
    base.below names :: (base.below names).parents =
      (⟨anchor, names⟩ :: parents ⟨anchor, names⟩).map (fun path => base.below path.parts) ++ base.parents := by
  induction names using List.reverseRecOn with
  | nil =>
    have here : base.below [] = base := by
      rw [below, List.append_nil]
    rw [here, List.map_cons, here]
    rfl
  | append_singleton names name ih =>
    have last : base.below (names ++ [name]) = (base.below names).child name := by
      rw [below, child, below, List.append_assoc]
    have above : parents ⟨anchor, names ++ [name]⟩ = ⟨anchor, names⟩ :: parents ⟨anchor, names⟩ :=
      parents_child ⟨anchor, names⟩ name
    rw [above, List.map_cons, List.cons_append, ← ih, last, parents_child]

end Path

namespace Workspace

variable {workspace : Workspace} {path : Path}

/-- A path as an absolute one. -/
def rooted (workspace : Workspace) (path : Path) : Path := workspace.currentPath.join path

/-- Whether a path is not too long to be followed. A null character counts before its length. -/
def Fits (path : Path) : Prop := path.hasNull = true ∨ path.isTooLong = false

instance (path : Path) : Decidable (Fits path) := inferInstanceAs (Decidable (_ ∨ _))

/-- Only a path that is too long to be followed leaves open whether it leads to a file. -/
theorem isFile_eq_error_iff {fault : AccessFault} :
    workspace.isFile path = .error fault ↔
      workspace.find path = .error .tooLong ∧ fault = ⟨.tooLong, path.toString⟩ := by
  constructor
  · intro failed
    cases found : workspace.find path with
    | ok reached =>
      rw [isFile, probe, found] at failed
      cases failed
    | error problem =>
      cases problem with
      | tooLong =>
        rw [isFile_of_tooLong found] at failed
        exact ⟨rfl, (Except.error.inj failed).symm⟩
      | _ =>
        rw [isFile, probe, found] at failed
        cases failed
  · rintro ⟨long, rfl⟩
    exact isFile_of_tooLong long

theorem exists_find_of_isFile (leads : workspace.isFile path = .ok true) :
    ∃ location bytes, workspace.find path = .ok (location, .file bytes) := by
  unfold isFile probe at leads
  cases found : workspace.find path with
  | error problem =>
    rw [found] at leads
    cases problem <;> cases leads
  | ok reached =>
    obtain ⟨location, content⟩ := reached
    cases content with
    | directory =>
      rw [found] at leads
      cases leads
    | file bytes => exact ⟨location, bytes, rfl⟩

theorem find_of_not_fits (long : ¬ Fits path) : workspace.find path = .error .tooLong := by
  obtain ⟨clean, tooLong⟩ := not_or.mp long
  rw [find, if_neg clean, if_pos ((Bool.not_eq_false _).mp tooLong)]

section Rooted
variable (proper : workspace.IsProper) (relative : path.isAbsolute = false)

include relative in
theorem rooted_of_relative : workspace.rooted path = workspace.currentPath.below path.parts :=
  Path.join_of_relative relative

include relative in
/-- The absolute path is the longer one. -/
theorem isTooLong_rooted (nonempty : path.parts ≠ []) (long : path.isTooLong = true) :
    (workspace.rooted path).isTooLong = true := by
  rw [rooted_of_relative relative]
  refine Path.isTooLong_mono nonempty (List.sublist_append_right ..) ?_ long
  rw [Path.anchor_of_relative relative]
  exact Nat.zero_le _

include proper

theorem walk_currentPath (names : List String) :
    workspace.tree.walk [] (workspace.directory ++ names) = workspace.tree.walk workspace.directory names := by
  have followed : workspace.tree.walk [] workspace.directory = .ok workspace.directory :=
    @FileTree.walk_of_content? workspace.tree [] workspace.directory proper.tree .directory proper.directory
  exact FileTree.walk_append followed

include relative

theorem hasNull_rooted : (workspace.rooted path).hasNull = path.hasNull := by
  have clean : (workspace.directory.any fun name => name.toList.contains '\x00') = false := by
    rw [List.any_eq_false]
    intro name member null
    have ordinary := FileTree.isEntryName_of_content? proper.tree proper.directory name member
    exact ordinary.2.2 (List.contains_iff_mem.mp null)
  rw [rooted_of_relative relative]
  simp only [Path.hasNull, Path.below, currentPath, List.any_append, clean, Bool.false_or]

theorem find_rooted (nonempty : path.parts ≠ []) (fits : Fits (workspace.rooted path)) :
    workspace.find (workspace.rooted path) = workspace.find path := by
  have null := hasNull_rooted proper relative
  unfold find
  rw [null]
  split
  · rfl
  next clean =>
    have short : (workspace.rooted path).isTooLong = false := fits.resolve_left (null ▸ clean)
    have alsoShort : path.isTooLong = false := by
      refine Bool.eq_false_iff.mpr fun long => ?_
      rw [isTooLong_rooted relative nonempty long] at short
      cases short
    have start : workspace.start path = workspace.directory := by
      rw [Workspace.start, relative]
      rfl
    have root : workspace.start (workspace.rooted path) = [] := by
      rw [rooted_of_relative relative]
      rfl
    have parts : (workspace.rooted path).parts = workspace.directory ++ path.parts := by
      rw [rooted_of_relative relative]
      rfl
    rw [short, alsoShort, root, start, parts, walk_currentPath proper]

theorem find_rooted_of_tooLong (nonempty : path.parts ≠ []) (long : workspace.find path = .error .tooLong) :
    workspace.find (workspace.rooted path) = .error .tooLong := by
  by_cases fits : Fits (workspace.rooted path)
  · rw [find_rooted proper relative nonempty fits, long]
  · exact find_of_not_fits fits

/-- Where the absolute path can be followed, both lead to a file or neither does. -/
theorem isFile_rooted {answer : Bool} (nonempty : path.parts ≠ []) (fits : Fits (workspace.rooted path))
    (told : workspace.isFile path = .ok answer) : workspace.isFile (workspace.rooted path) = .ok answer := by
  unfold isFile probe at told ⊢
  rw [find_rooted proper relative nonempty fits]
  cases found : workspace.find path with
  | ok reached => rwa [found] at told
  | error problem =>
    rw [found] at told
    cases problem <;> first | exact told | cases told

end Rooted

end Workspace

end ScriptLint
