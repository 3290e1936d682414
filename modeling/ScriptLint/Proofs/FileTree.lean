import ScriptLint.FileTree

/-! # Replacing the bytes of a file

New bytes for a file that is there change nothing except what is read from that file: the same names
are found below every directory, the same paths lead to the same locations, and all other files keep
their bytes. A path that ends in an ordinary name leads to a location that ends in it.
-/

namespace ScriptLint

namespace FileTree

variable {location : Location} {content : Content}

theorem listed?_writeIn_self (location : Location) (content : Content) (entries : List (Location × Content)) :
    listed? location (writeIn location content entries) = some content := by
  induction entries with
  | nil => simp only [writeIn, listed?, ↓reduceIte]
  | cons entry rest ih =>
    obtain ⟨other, old⟩ := entry
    by_cases same : other = location <;> simp only [writeIn, listed?, same, ↓reduceIte, ih]

theorem listed?_writeIn_of_ne {other : Location} (different : other ≠ location) (content : Content)
    (entries : List (Location × Content)) :
    listed? other (writeIn location content entries) = listed? other entries := by
  induction entries with
  | nil => simp only [writeIn, listed?, Ne.symm different, ↓reduceIte]
  | cons entry rest ih =>
    obtain ⟨first, old⟩ := entry
    by_cases same : first = location
    · simp only [writeIn, listed?, same, Ne.symm different, ↓reduceIte]
    · simp only [writeIn, listed?, same, ↓reduceIte, ih]

theorem map_fst_writeIn {old : Content} {entries : List (Location × Content)}
    (present : listed? location entries = some old) (content : Content) :
    (writeIn location content entries).map Prod.fst = entries.map Prod.fst := by
  induction entries with
  | nil => simp only [listed?, reduceCtorEq] at present
  | cons entry rest ih =>
    obtain ⟨other, first⟩ := entry
    by_cases same : other = location
    · simp only [writeIn, same, ↓reduceIte, List.map_cons]
    · simp only [listed?, same, ↓reduceIte] at present
      simp only [writeIn, same, ↓reduceIte, List.map_cons, ih present]

/-- Only a listed file is a file; everything else that is found is a directory. -/
theorem listed?_of_content?_file {tree : FileTree} {bytes : List UInt8}
    (found : tree.content? location = some (.file bytes)) :
    listed? location tree.entries = some (.file bytes) := by
  unfold content? at found
  cases listed : listed? location tree.entries with
  | some content => simpa only [listed] using found
  | none =>
    simp only [listed] at found
    split at found <;> simp only [Option.some.injEq, reduceCtorEq] at found

/-- Whether a location lies below another one. -/
def isBelow (location other : Location) : Bool :=
  match namesBelow? location other with
  | some (_ :: _) => true
  | _ => false

/-- Whether something is found below a location depends on the listed locations only. -/
theorem hasBelow_eq_any (tree : FileTree) (location : Location) :
    tree.hasBelow location = (tree.entries.map Prod.fst).any (isBelow location) := by
  rw [List.any_map]
  rfl

section Rewriting
variable {tree : FileTree} {old : List UInt8}
variable (present : tree.content? location = some (.file old)) (bytes : List UInt8)
include present

theorem hasBelow_rewrite (other : Location) :
    (tree.write location (.file bytes)).hasBelow other = tree.hasBelow other := by
  have names := map_fst_writeIn (listed?_of_content?_file present) (.file bytes)
  rw [hasBelow_eq_any, hasBelow_eq_any, write, names]

/-- The new bytes are found at the location, and everything else as before. -/
theorem content?_rewrite (other : Location) :
    (tree.write location (.file bytes)).content? other =
      if other = location then some (.file bytes) else tree.content? other := by
  have below := hasBelow_rewrite present bytes other
  unfold content?
  rw [below]
  simp only [write]
  by_cases same : other = location
  · subst same
    simp only [listed?_writeIn_self, ↓reduceIte]
  · simp only [listed?_writeIn_of_ne same, same, ↓reduceIte]

theorem walk_rewrite (names : List String) (start : Location) :
    (tree.write location (.file bytes)).walk start names = tree.walk start names := by
  induction names generalizing start with
  | nil => rfl
  | cons name rest ih =>
    simp only [walk, content?_rewrite present]
    by_cases same : start = location
    · -- A file has no names below it, whatever its bytes.
      subst same
      simp only [↓reduceIte, present]
    · simp only [same, ↓reduceIte, ih]

theorem filesBelow_rewrite (directory : Location) :
    (tree.write location (.file bytes)).filesBelow directory = tree.filesBelow directory := by
  have listed := listed?_of_content?_file present
  clear present
  unfold filesBelow write
  generalize tree.entries = entries at listed ⊢
  induction entries with
  | nil => simp only [listed?, reduceCtorEq] at listed
  | cons entry rest ih =>
    obtain ⟨other, first⟩ := entry
    by_cases same : other = location
    · simp only [listed?, same, ↓reduceIte, Option.some.injEq] at listed
      subst listed
      simp only [writeIn, same, ↓reduceIte, List.filterMap_cons]
    · simp only [listed?, same, ↓reduceIte] at listed
      simp only [writeIn, same, ↓reduceIte, List.filterMap_cons, ih listed]

/-- What is listed below a directory differs in bytes only. -/
theorem map_listedBelow_rewrite {α : Type} {observe : List String × Content → α}
    (blind : ∀ names, observe (names, .file bytes) = observe (names, .file old)) (directory : Location) :
    ((tree.write location (.file bytes)).listedBelow directory).map observe =
      (tree.listedBelow directory).map observe := by
  have listed := listed?_of_content?_file present
  clear present
  unfold listedBelow write
  generalize tree.entries = entries at listed ⊢
  induction entries with
  | nil => simp only [listed?, reduceCtorEq] at listed
  | cons entry rest ih =>
    obtain ⟨other, first⟩ := entry
    by_cases same : other = location
    · simp only [listed?, same, ↓reduceIte, Option.some.injEq] at listed
      subst listed
      simp only [writeIn, same, ↓reduceIte, List.filterMap_cons]
      cases namesBelow? directory location with
      | none => rfl
      | some names => simp only [Option.map_some, List.map_cons, blind]
    · simp only [listed?, same, ↓reduceIte] at listed
      simp only [writeIn, same, ↓reduceIte, List.filterMap_cons]
      cases namesBelow? directory other with
      | none => exact ih listed
      | some names => simp only [Option.map_some, List.map_cons, ih listed]

end Rewriting

/-- The last name of a path is the last name of where it leads, unless it is the name of the directory
above. -/
theorem getLast?_of_walk {tree : FileTree} {names : List String} {name : String} {start found : Location}
    (walked : tree.walk start (names ++ [name]) = .ok found) (ordinary : name ≠ parentName) :
    found.getLast? = some name := by
  induction names generalizing start with
  | nil =>
    simp only [List.nil_append, walk, ordinary, ↓reduceIte] at walked
    split at walked
    · split at walked
      · contradiction
      · obtain rfl := Except.ok.inj walked
        exact List.getLast?_concat ..
    · contradiction
    · contradiction
  | cons first rest ih =>
    simp only [List.cons_append, walk] at walked
    split at walked
    · split at walked
      · contradiction
      · exact ih walked
    · contradiction
    · contradiction

end FileTree

namespace Workspace

variable {workspace : Workspace} {location : Location} {old : List UInt8}

theorem content?_of_find {path : Path} {found : Location} {content : Content}
    (leads : workspace.find path = .ok (found, content)) :
    workspace.tree.walk (workspace.start path) path.parts = .ok found ∧
      workspace.tree.content? found = some content := by
  unfold find at leads
  split at leads
  · contradiction
  · split at leads
    · contradiction
    · split at leads
      next => contradiction
      next reached walked =>
        split at leads
        next content' held =>
          cases leads
          exact ⟨walked, held⟩
        next => contradiction

/-- The last name of a path is the last name of the location it leads to. -/
theorem getLast?_of_find {path : Path} {found : Location} {content : Content} {name : String}
    (leads : workspace.find path = .ok (found, content)) (last : path.parts.getLast? = some name)
    (ordinary : name ≠ parentName) : found.getLast? = some name := by
  obtain ⟨names, parts⟩ := List.getLast?_eq_some_iff.mp last
  have walked := (content?_of_find leads).1
  rw [parts] at walked
  exact FileTree.getLast?_of_walk walked ordinary

section Rewriting
variable (present : workspace.tree.content? location = some (.file old)) (bytes : List UInt8)
include present

theorem find_rewrite (path : Path) :
    (workspace.write location (.file bytes)).find path =
      (workspace.find path).map fun found =>
        (found.1, if found.1 = location then .file bytes else found.2) := by
  unfold find
  split
  · rfl
  · split
    · rfl
    · simp only [write, start, FileTree.walk_rewrite present, FileTree.content?_rewrite present]
      cases walked : workspace.tree.walk (if path.isAbsolute then [] else workspace.directory) path.parts with
      | error problem => rfl
      | ok reached =>
        by_cases same : reached = location
        · subst same
          simp only [↓reduceIte, present, Except.map]
        · simp only [same, ↓reduceIte]
          cases held : workspace.tree.content? reached with
          | none => rfl
          | some content => simp only [Except.map, same, ↓reduceIte]

theorem find_rewrite_self {path : Path} (leads : workspace.find path = .ok (location, .file old)) :
    (workspace.write location (.file bytes)).find path = .ok (location, .file bytes) := by
  rw [find_rewrite present, leads]
  simp only [Except.map, ↓reduceIte]

theorem find_rewrite_of_elsewhere {path : Path}
    (elsewhere : ∀ content, workspace.find path ≠ .ok (location, content)) :
    (workspace.write location (.file bytes)).find path = workspace.find path := by
  rw [find_rewrite present]
  cases leads : workspace.find path with
  | error problem => rfl
  | ok found =>
    obtain ⟨reached, content⟩ := found
    have different : reached ≠ location := by
      rintro rfl
      exact elsewhere content leads
    simp only [Except.map, different, ↓reduceIte]

/-- What depends on the kind of what a path leads to, and not on bytes, stays. -/
theorem map_probe_rewrite {α : Type} {observe : Option (Location × Content) → α}
    (blind : observe (some (location, .file bytes)) = observe (some (location, .file old))) (path : Path) :
    ((workspace.write location (.file bytes)).probe path).map observe = (workspace.probe path).map observe := by
  unfold probe
  rw [find_rewrite present]
  cases leads : workspace.find path with
  | error problem => cases problem <;> rfl
  | ok found =>
    obtain ⟨reached, content⟩ := found
    by_cases same : reached = location
    · subst same
      have held := (content?_of_find leads).2
      rw [present] at held
      obtain rfl := Option.some.inj held
      simp only [Except.map, ↓reduceIte, blind]
    · simp only [Except.map, same, ↓reduceIte]

theorem isFile_rewrite (path : Path) :
    (workspace.write location (.file bytes)).isFile path = workspace.isFile path :=
  map_probe_rewrite present bytes rfl path

theorem directory?_rewrite (path : Path) :
    (workspace.write location (.file bytes)).directory? path = workspace.directory? path :=
  map_probe_rewrite present bytes rfl path

theorem read_rewrite_of_elsewhere {path : Path}
    (elsewhere : ∀ content, workspace.find path ≠ .ok (location, content)) :
    (workspace.write location (.file bytes)).read path = workspace.read path := by
  unfold read
  rw [find_rewrite_of_elsewhere present bytes elsewhere]

end Rewriting

end Workspace

end ScriptLint
