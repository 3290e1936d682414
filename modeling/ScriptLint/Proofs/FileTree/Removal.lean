import ScriptLint.Proofs.FileTree.Proper

/-! # Trees without one file

A tree that lacks a file of another one has everything else that is found there, the directories on the
way to the file included. All paths lead to the same places, except those that led to the file and now
lead nowhere; a path that went on below the file fails in another way.
-/

namespace ScriptLint

/-- Whether a workspace is another one without what is found at a location. -/
structure Workspace.Lacks (bare workspace : Workspace) (location : Location) : Prop where
  proper : bare.tree.IsProper
  directory : bare.directory = workspace.directory
  /-- Nothing is found at the location, and everything else as before. -/
  content : ∀ other, bare.tree.content? other = if other = location then none else workspace.tree.content? other

variable {bare workspace : Workspace} {location : Location} {bytes : List UInt8} {path : Path}

namespace Workspace

section
variable (lacks : bare.Lacks workspace location)
include lacks

theorem Lacks.resolve (path : Path) : bare.resolve path = workspace.resolve path := by
  simp only [Workspace.resolve, start, lacks.directory]

variable (present : workspace.tree.content? location = some (.file bytes))
include present

/-- Names lead to the same place, or they lead below the file. -/
theorem Lacks.walk_cases (names : List String) (start : Location) :
    bare.tree.walk start names = workspace.tree.walk start names ∨
      bare.tree.walk start names = .error .missing ∧ workspace.tree.walk start names = .error .notDirectory := by
  induction names generalizing start with
  | nil => exact .inl rfl
  | cons name rest ih =>
    by_cases same : start = location
    · subst same
      right
      simp only [FileTree.walk, lacks.content, ↓reduceIte, present, and_self]
    · simp only [FileTree.walk, lacks.content, same, ↓reduceIte]
      cases workspace.tree.content? start with
      | none => exact .inl rfl
      | some content =>
        cases content with
        | file bytes => exact .inl rfl
        | directory =>
          dsimp only
          split
          · exact .inl rfl
          · exact ih _

/-- A path leads to the same place, or it led to the file or below it. -/
theorem Lacks.find_cases (path : Path) :
    bare.find path = workspace.find path ∨ bare.find path = .error .missing ∧
      (workspace.find path = .ok (location, .file bytes) ∨ workspace.find path = .error .notDirectory) := by
  unfold find
  split
  · exact .inl rfl
  · split
    · exact .inl rfl
    · have starts : bare.start path = workspace.start path := by
        rw [start, start, lacks.directory]
      rw [starts]
      rcases lacks.walk_cases present path.parts (workspace.start path) with same | ⟨missing, blocked⟩
      · rw [same]
        cases workspace.tree.walk (workspace.start path) path.parts with
        | error problem => exact .inl rfl
        | ok found =>
          by_cases here : found = location
          · subst here
            simp only [lacks.content, ↓reduceIte, present, true_or, and_true, or_true]
          · simp only [lacks.content, here, ↓reduceIte, true_or]
      · simp only [missing, blocked, or_true, and_self]

theorem Lacks.directory? (path : Path) : bare.directory? path = workspace.directory? path := by
  unfold Workspace.directory? probe
  rcases lacks.find_cases present path with same | ⟨missing, leads | blocked⟩
  · rw [same]
  · rw [missing, leads]
    rfl
  · rw [missing, blocked]

/-- Away from the file the same can be read, though what cannot be may fail in another way. -/
theorem Lacks.toOption_read (elsewhere : ∀ content, workspace.find path ≠ .ok (location, content)) :
    (bare.read path).toOption = (workspace.read path).toOption := by
  unfold read
  rcases lacks.find_cases present path with same | ⟨missing, leads | blocked⟩
  · rw [same]
  · exact absurd leads (elsewhere _)
  · rw [missing, blocked]
    rfl

end

end Workspace

end ScriptLint
