import Mathlib.Algebra.Order.BigOperators.Group.List
import Mathlib.Algebra.Order.Ring.Nat
import ScriptLint.Proofs.FileTree.Proper

/-! # Paths that are too long

It cannot be told what is at the end of a path if the whole path is too long, or if it has a name that is
too long where the directory that would hold it is there. Of every other path without `..` it is known
whether a file is at its end: the one at the location that it names.
-/

namespace ScriptLint

namespace Path

section Size
variable {size : String → Nat} (additive : ∀ first second, size (first ++ second) = size first + size second)
variable (slash : size "/" = 1)
include additive slash

/-- Each name adds its own size and a slash, except that there is no slash after the last one. -/
theorem size_joinNames {names : List String} (nonempty : names ≠ []) :
    size (joinNames names) + 1 = (names.map (size · + 1)).sum := by
  fun_induction joinNames names with
  | case1 => exact absurd rfl nonempty
  | case2 name => rfl
  | case3 name rest more ih =>
    have total := ih more
    rw [additive, additive, List.map_cons, List.sum_cons]
    omega

theorem size_toString {path : Path} (nonempty : path.parts ≠ []) :
    size path.toString + 1 = size path.anchor + (path.parts.map (size · + 1)).sum := by
  have spelled : path.toString = path.anchor ++ joinNames path.parts := if_neg fun empty => nonempty empty.2
  have total := size_joinNames additive slash nonempty
  rw [spelled, additive]
  omega

end Size

/-- More names make a longer path. -/
theorem isTooLong_mono {path other : Path} (nonempty : path.parts ≠ []) (more : path.parts.Sublist other.parts)
    (anchors : path.anchor.utf8ByteSize ≤ other.anchor.utf8ByteSize) (long : path.isTooLong = true) :
    other.isTooLong = true := by
  have bytes (path : Path) (nonempty : path.parts ≠ []) :=
    @size_toString String.utf8ByteSize (fun _ _ => String.utf8ByteSize_append) rfl path nonempty
  have size := bytes path nonempty
  have other_size := bytes other fun empty => nonempty (List.sublist_nil.mp (empty ▸ more))
  have sums : (path.parts.map (String.utf8ByteSize · + 1)).sum ≤ (other.parts.map (String.utf8ByteSize · + 1)).sum :=
    (more.map _).sum_le_sum fun _ _ => Nat.zero_le _
  unfold isTooLong at long ⊢
  rw [decide_eq_true_eq] at long ⊢
  omega

end Path

namespace FileTree

variable {tree : FileTree} {start : Location} {names : List String}

/-- Whether names lead to a directory after which a name comes that is too long. -/
def MeetsLongName (tree : FileTree) (start : Location) (names : List String) : Prop :=
  ∃ before name after, names = before ++ name :: after ∧ tree.content? (start ++ before) = some .directory ∧
    maxNameBytes < name.utf8ByteSize

theorem not_meetsLongName_nil : ¬ tree.MeetsLongName start [] := by
  rintro ⟨before, name, after, cut, -, -⟩
  exact List.append_ne_nil_of_right_ne_nil before (List.cons_ne_nil name after) cut.symm

/-- The name that is too long is the first one or comes later. -/
theorem meetsLongName_cons {name : String} :
    tree.MeetsLongName start (name :: names) ↔
      tree.content? start = some .directory ∧ maxNameBytes < name.utf8ByteSize ∨
        tree.MeetsLongName (start ++ [name]) names := by
  constructor
  · rintro ⟨before, long, after, cut, held, tooLong⟩
    cases before with
    | nil =>
      obtain ⟨rfl, rfl⟩ := List.cons.inj cut
      exact .inl ⟨by rwa [List.append_nil] at held, tooLong⟩
    | cons first before =>
      obtain ⟨rfl, rfl⟩ := List.cons.inj cut
      exact .inr ⟨before, long, after, rfl, by rwa [List.append_assoc], tooLong⟩
  · rintro (⟨held, tooLong⟩ | ⟨before, long, after, rfl, held, tooLong⟩)
    · exact ⟨[], name, names, rfl, by rwa [List.append_nil], tooLong⟩
    · exact ⟨name :: before, long, after, rfl, by rwa [List.append_assoc] at held, tooLong⟩

/-- Only directories lead to directories. -/
theorem content?_of_meetsLongName (proper : tree.IsProper) (meets : tree.MeetsLongName start names) :
    tree.content? start = some .directory := by
  obtain ⟨before, name, after, -, held, -⟩ := meets
  cases before with
  | nil => rwa [List.append_nil] at held
  | cons first before => exact content?_of_below proper held

/-- A name that is too long stops a walk where the directory that would hold it is there. -/
theorem walk_eq_tooLong_iff (proper : tree.IsProper) (plain : parentName ∉ names) :
    tree.walk start names = .error .tooLong ↔ tree.MeetsLongName start names := by
  induction names generalizing start with
  | nil => exact iff_of_false (fun stopped => by cases stopped) not_meetsLongName_nil
  | cons name rest ih =>
    have ordinary : name ≠ parentName := fun same => plain (same ▸ List.mem_cons_self ..)
    have others : parentName ∉ rest := fun member => plain (List.mem_cons_of_mem _ member)
    unfold walk
    split
    next held =>
      rw [meetsLongName_cons, if_neg ordinary]
      split
      next tooLong => exact iff_of_true rfl (.inl ⟨held, tooLong⟩)
      next fits =>
        rw [ih others]
        exact ⟨.inr, fun meets => meets.resolve_left fun first => fits first.2⟩
    -- Nothing is below a file or below nothing.
    next held =>
      refine iff_of_false (fun stopped => by cases stopped) fun meets => ?_
      rw [content?_of_meetsLongName proper meets] at held
      cases held
    next held =>
      refine iff_of_false (fun stopped => by cases stopped) fun meets => ?_
      rw [content?_of_meetsLongName proper meets] at held
      cases held

end FileTree

namespace Workspace

variable {workspace : Workspace} {path : Path}

/-- Whether it cannot be told what is at the end of a path. -/
def Untold (workspace : Workspace) (path : Path) : Prop :=
  path.hasNull = false ∧
    (path.isTooLong = true ∨ workspace.tree.MeetsLongName (workspace.start path) path.parts)

theorem find_eq_tooLong_iff (proper : workspace.tree.IsProper) (plain : path.IsPlain) :
    workspace.find path = .error .tooLong ↔ workspace.Untold path := by
  unfold find Untold
  rw [← FileTree.walk_eq_tooLong_iff proper plain]
  cases path.hasNull with
  | true => simp only [↓reduceIte, Except.error.injEq, reduceCtorEq, false_and]
  | false =>
    cases path.isTooLong with
    | true => simp only [Bool.false_eq_true, ↓reduceIte, true_or, and_self]
    | false =>
      simp only [Bool.false_eq_true, ↓reduceIte, false_or, true_and]
      cases workspace.tree.walk (workspace.start path) path.parts with
      | error problem => simp only [Except.error.injEq]
      | ok location =>
        dsimp only
        split <;> simp only [reduceCtorEq, Except.error.injEq]

/-- Where nothing is too long, everything can be told. -/
theorem told_of_short (short : path.isTooLong = false)
    (names : ∀ name ∈ path.parts, name.utf8ByteSize ≤ maxNameBytes) :
    ¬ workspace.Untold path := by
  rintro ⟨-, long | ⟨before, name, after, parts, -, long⟩⟩
  · rw [short] at long
    cases long
  · have fits := names name (parts ▸ List.mem_append_right _ (List.mem_cons_self ..))
    omega

theorem isFile_of_tooLong (long : workspace.find path = .error .tooLong) :
    workspace.isFile path = .error ⟨.tooLong, path.toString⟩ := by
  rw [isFile, probe, long]
  rfl

theorem isFile_of_untold (proper : workspace.tree.IsProper) (plain : path.IsPlain) (untold : workspace.Untold path) :
    workspace.isFile path = .error ⟨.tooLong, path.toString⟩ := by
  exact isFile_of_tooLong ((find_eq_tooLong_iff proper plain).mpr untold)

theorem content?_of_fileAt? {location : Location} {bytes : List UInt8}
    (held : workspace.fileAt? location = some bytes) : workspace.tree.content? location = some (.file bytes) := by
  unfold fileAt? at held
  split at held
  next present =>
    cases held
    exact present
  next => contradiction

section Held
variable {bytes : List UInt8} (proper : workspace.IsProper) (plain : path.IsPlain)
variable (held : workspace.fileAt? (workspace.resolve path) = some bytes)
include proper plain held

/-- The names of what is found have no null characters. -/
theorem hasNull_of_fileAt? : path.hasNull = false := by
  have content := content?_of_fileAt? held
  rw [resolve_of_plain plain] at content
  rw [Path.hasNull, List.any_eq_false]
  intro name member null
  have ordinary := FileTree.isEntryName_of_content? proper.tree content name (List.mem_append_right _ member)
  exact ordinary.2.2 (List.contains_iff_mem.mp null)

/-- A path without `..` leads to the file at the location that it names. -/
theorem find_of_fileAt? (told : ¬ workspace.Untold path) :
    workspace.find path = .ok (workspace.resolve path, .file bytes) := by
  have clean := hasNull_of_fileAt? proper plain held
  have short : path.isTooLong = false := Bool.eq_false_iff.mpr fun long => told ⟨clean, .inl long⟩
  exact (find_of_plain proper plain clean short).mpr ⟨rfl, content?_of_fileAt? held⟩

end Held

/-- Where it can be told, a path leads to a file exactly if one is at the location that it names. -/
theorem isFile_of_told (proper : workspace.IsProper) (plain : path.IsPlain) (told : ¬ workspace.Untold path) :
    workspace.isFile path = .ok (workspace.fileAt? (workspace.resolve path)).isSome := by
  cases held : workspace.fileAt? (workspace.resolve path) with
  | some bytes =>
    rw [isFile, probe, find_of_fileAt? proper plain held told]
    rfl
  | none =>
    have known : workspace.find path ≠ .error .tooLong := fun long =>
      told ((find_eq_tooLong_iff proper.tree plain).mp long)
    unfold isFile probe
    cases found : workspace.find path with
    | error problem => cases problem <;> first | rfl | exact absurd found known
    | ok reached =>
      obtain ⟨location, content⟩ := reached
      cases content with
      | directory => rfl
      | file bytes =>
        rw [fileAt?, resolve_of_find found, (content?_of_find found).2] at held
        cases held

end Workspace

end ScriptLint
