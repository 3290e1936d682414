import Mathlib.Data.List.Perm.Basic
import ScriptLint.Config.Load
import ScriptLint.Proofs.FileTree.Proper

/-! # Orders of enumeration

Two trees with the same entries in different orders are the same to every reader. What is found where,
where paths lead and which configuration holds are equal, as long as the trees are proper; what lies
below a directory is equal up to its order.
-/

namespace ScriptLint

namespace FileTree

section Walk
variable {tree other : FileTree} (same : ∀ location, other.content? location = tree.content? location)
include same

/-- Names are followed by what is found on their way. -/
theorem walk_congr (names : List String) (start : Location) : other.walk start names = tree.walk start names := by
  induction names generalizing start with
  | nil => rfl
  | cons name rest ih => simp only [walk, same, ih]

end Walk

section Enumeration
variable {tree other : FileTree} (perm : other.entries.Perm tree.entries)
include perm

theorem hasBelow_of_perm (location : Location) : other.hasBelow location = tree.hasBelow location :=
  Bool.eq_iff_iff.mpr <| by
    rw [hasBelow_iff, hasBelow_iff]
    simp only [perm.mem_iff]

theorem listedBelow_perm (location : Location) : (other.listedBelow location).Perm (tree.listedBelow location) :=
  perm.filterMap _

theorem filesBelow_perm (location : Location) : (other.filesBelow location).Perm (tree.filesBelow location) :=
  perm.filterMap _

theorem IsProper.of_perm (proper : tree.IsProper) : other.IsProper where
  distinct := (perm.map Prod.fst).nodup_iff.mpr proper.distinct
  closed entry member file := by
    rw [hasBelow_of_perm perm]
    exact proper.closed entry (perm.mem_iff.mp member) file
  names entry member := proper.names entry (perm.mem_iff.mp member)

theorem content?_of_perm (proper : tree.IsProper) (location : Location) :
    other.content? location = tree.content? location := by
  have listed : listed? location other.entries = listed? location tree.entries := by
    refine Option.ext fun content => ?_
    rw [listed?_eq_some_iff proper, listed?_eq_some_iff (proper.of_perm perm), perm.mem_iff]
  simp only [content?, listed, hasBelow_of_perm perm]

end Enumeration

end FileTree

/-- Whether two workspaces differ in the order of enumeration only. -/
structure Workspace.SameFiles (other workspace : Workspace) : Prop where
  directory : other.directory = workspace.directory
  perm : other.tree.entries.Perm workspace.tree.entries

namespace Workspace

variable {workspace other : Workspace}

theorem SameFiles.symm (same : other.SameFiles workspace) : workspace.SameFiles other :=
  ⟨same.directory.symm, same.perm.symm⟩

theorem SameFiles.isProper (same : other.SameFiles workspace) (proper : workspace.IsProper) : other.IsProper where
  tree := proper.tree.of_perm same.perm
  directory := by rw [FileTree.content?_of_perm same.perm proper.tree, same.directory, proper.directory]

theorem SameFiles.resolve (same : other.SameFiles workspace) (path : Path) :
    other.resolve path = workspace.resolve path := by
  simp only [Workspace.resolve, start, same.directory]

section Enumeration
variable (same : other.SameFiles workspace) (proper : workspace.tree.IsProper)
include same proper

theorem find_of_sameFiles (path : Path) : other.find path = workspace.find path := by
  have content := FileTree.content?_of_perm same.perm proper
  simp only [find, start, same.directory, FileTree.walk_congr content, content]

theorem directory?_of_sameFiles (path : Path) : other.directory? path = workspace.directory? path := by
  simp only [directory?, probe, find_of_sameFiles same proper]

theorem read_of_sameFiles (path : Path) : other.read path = workspace.read path := by
  simp only [read, find_of_sameFiles same proper]

theorem fileAt?_of_sameFiles (location : Location) : other.fileAt? location = workspace.fileAt? location := by
  simp only [fileAt?, FileTree.content?_of_perm same.perm proper]

/-- The configuration does not depend on the order of enumeration. -/
theorem load_of_sameFiles (start : Option Path) : Config.load other start = Config.load workspace start := by
  have isFile (path : Path) : other.isFile path = workspace.isFile path := by
    simp only [Workspace.isFile, probe, find_of_sameFiles same proper]
  have first (paths : List Path) : Config.firstFile? other paths = Config.firstFile? workspace paths := by
    induction paths with
    | nil => rfl
    | cons path rest ih => simp only [Config.firstFile?, isFile, ih]
  simp only [Config.load, Config.closest?, currentPath, same.directory, first, read_of_sameFiles same proper]

end Enumeration

end Workspace

end ScriptLint
