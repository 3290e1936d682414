import ScriptLint.Proofs.FileTree

/-! # Proper file trees

In a proper tree everything is listed once, nothing lies below a file, and every name can be followed.
There a location is found exactly if names lead to it, and a path leads to the location that it names
by its spelling. A path without the name `..` is followed by its spelling alone, so that all its
spellings that are not too long lead to the same place.
-/

namespace ScriptLint

/-- Whether a name can stand in a file tree. -/
def IsEntryName (name : String) : Prop :=
  name ≠ parentName ∧ name.utf8ByteSize ≤ maxNameBytes ∧ '\x00' ∉ name.toList

instance (name : String) : Decidable (IsEntryName name) := inferInstanceAs (Decidable (_ ∧ _ ∧ _))

theorem namesBelow?_eq_some_iff {location other : Location} {names : List String} :
    namesBelow? location other = some names ↔ other = location ++ names := by
  induction location generalizing other with
  | nil => simp only [namesBelow?, Option.some.injEq, List.nil_append]
  | cons first rest ih =>
    cases other with
    | nil => simp only [namesBelow?, reduceCtorEq, List.cons_append]
    | cons name others =>
      by_cases same : first = name
      · simp only [namesBelow?, same, ↓reduceIte, ih, List.cons_append, List.cons.injEq, true_and]
      · simp only [namesBelow?, same, ↓reduceIte, reduceCtorEq, List.cons_append, List.cons.injEq,
          Ne.symm same, false_and]

namespace FileTree

/-- A tree as file systems have them. -/
structure IsProper (tree : FileTree) : Prop where
  /-- Everything is listed once. -/
  distinct : (tree.entries.map Prod.fst).Nodup
  /-- Nothing lies below a file. -/
  closed : ∀ entry ∈ tree.entries, entry.2 ≠ .directory → tree.hasBelow entry.1 = false
  /-- All names can be followed. -/
  names : ∀ entry ∈ tree.entries, ∀ name ∈ entry.1, IsEntryName name

instance (tree : FileTree) : Decidable tree.IsProper :=
  decidable_of_iff ((tree.entries.map Prod.fst).Nodup ∧
      (∀ entry ∈ tree.entries, entry.2 ≠ .directory → tree.hasBelow entry.1 = false) ∧
      ∀ entry ∈ tree.entries, ∀ name ∈ entry.1, IsEntryName name)
    ⟨fun ⟨distinct, closed, names⟩ => ⟨distinct, closed, names⟩,
      fun ⟨distinct, closed, names⟩ => ⟨distinct, closed, names⟩⟩

section Content
variable {tree : FileTree} {location : Location} {name : String} {names : List String} {content : Content}

theorem mem_of_listed? {entries : List (Location × Content)} (listed : listed? location entries = some content) :
    (location, content) ∈ entries := by
  induction entries with
  | nil => simp only [listed?, reduceCtorEq] at listed
  | cons entry rest ih =>
    obtain ⟨other, first⟩ := entry
    by_cases same : other = location
    · simp only [listed?, same, ↓reduceIte, Option.some.injEq] at listed
      rw [same, listed]
      exact List.mem_cons_self ..
    · simp only [listed?, same, ↓reduceIte] at listed
      exact List.mem_cons_of_mem _ (ih listed)

theorem listed?_of_mem {entries : List (Location × Content)} (distinct : (entries.map Prod.fst).Nodup)
    (member : (location, content) ∈ entries) : listed? location entries = some content := by
  induction entries with
  | nil => exact absurd member List.not_mem_nil
  | cons entry rest ih =>
    obtain ⟨other, first⟩ := entry
    obtain ⟨new, others⟩ := List.nodup_cons.mp distinct
    rcases List.mem_cons.mp member with same | member
    · cases same
      simp only [listed?, ↓reduceIte]
    · have different : other ≠ location := by
        rintro rfl
        exact new (List.mem_map.mpr ⟨_, member, rfl⟩)
      simp only [listed?, different, ↓reduceIte]
      exact ih others member

theorem listed?_eq_some_iff (proper : tree.IsProper) :
    listed? location tree.entries = some content ↔ (location, content) ∈ tree.entries :=
  ⟨mem_of_listed?, listed?_of_mem proper.distinct⟩

theorem hasBelow_iff :
    tree.hasBelow location = true ↔
      ∃ name names content, (location ++ name :: names, content) ∈ tree.entries := by
  unfold hasBelow
  rw [List.any_eq_true]
  constructor
  · rintro ⟨⟨other, content⟩, member, below⟩
    split at below
    next name names led =>
      obtain rfl := namesBelow?_eq_some_iff.mp led
      exact ⟨name, names, content, member⟩
    next => contradiction
  · rintro ⟨name, names, content, member⟩
    have led : namesBelow? location (location ++ name :: names) = some (name :: names) :=
      namesBelow?_eq_some_iff.mpr rfl
    exact ⟨_, member, by rw [led]⟩

theorem content?_of_mem (proper : tree.IsProper) (member : (location, content) ∈ tree.entries) :
    tree.content? location = some content := by
  simp only [content?, (listed?_eq_some_iff proper).mpr member]

theorem content?_file_iff (proper : tree.IsProper) {bytes : List UInt8} :
    tree.content? location = some (.file bytes) ↔ (location, .file bytes) ∈ tree.entries :=
  ⟨fun found => mem_of_listed? (listed?_of_content?_file found), content?_of_mem proper⟩

/-- Whatever is found is listed itself or has something listed below it, unless it is the root. -/
theorem exists_listed_of_content? (found : tree.content? location = some content) :
    location = [] ∨ ∃ names listed, (location ++ names, listed) ∈ tree.entries := by
  unfold content? at found
  split at found
  next listed held => exact .inr ⟨[], listed, by simpa only [List.append_nil] using mem_of_listed? held⟩
  next =>
    split at found
    next here =>
      refine here.imp_right fun below => ?_
      obtain ⟨name, names, listed, member⟩ := hasBelow_iff.mp below
      exact ⟨name :: names, listed, member⟩
    next => contradiction

/-- What has something below it is a directory. -/
theorem content?_of_below (proper : tree.IsProper)
    (found : tree.content? (location ++ name :: names) = some content) :
    tree.content? location = some .directory := by
  have below : tree.hasBelow location = true := by
    rcases exists_listed_of_content? found with empty | ⟨others, listed, member⟩
    · exact absurd (List.append_eq_nil_iff.mp empty).2 (List.cons_ne_nil name names)
    · rw [List.append_assoc, List.cons_append] at member
      exact hasBelow_iff.mpr ⟨name, names ++ others, listed, member⟩
  unfold content?
  split
  next listed held =>
    cases listed with
    | directory => rfl
    | file bytes =>
      have nothing := proper.closed _ (mem_of_listed? held) (by simp only [ne_eq, reduceCtorEq, not_false_eq_true])
      rw [below] at nothing
      contradiction
  next => rw [if_pos (.inr below)]

theorem isEntryName_of_content? (proper : tree.IsProper) (found : tree.content? location = some content) :
    ∀ name ∈ location, IsEntryName name := by
  intro name member
  rcases exists_listed_of_content? found with rfl | ⟨others, listed, entry⟩
  · exact absurd member List.not_mem_nil
  · exact proper.names _ entry name (List.mem_append_left _ member)

theorem mem_filesBelow_iff (proper : tree.IsProper) :
    names ∈ tree.filesBelow location ↔ ∃ bytes, tree.content? (location ++ names) = some (.file bytes) := by
  unfold filesBelow
  rw [List.mem_filterMap]
  constructor
  · rintro ⟨⟨other, listed⟩, member, led⟩
    cases listed with
    | directory => exact absurd led (by simp only [reduceCtorEq, not_false_eq_true])
    | file bytes =>
      obtain rfl := namesBelow?_eq_some_iff.mp led
      exact ⟨bytes, (content?_file_iff proper).mpr member⟩
  · rintro ⟨bytes, found⟩
    exact ⟨_, (content?_file_iff proper).mp found, namesBelow?_eq_some_iff.mpr rfl⟩

theorem mem_listedBelow_iff :
    (names, content) ∈ tree.listedBelow location ↔ (location ++ names, content) ∈ tree.entries := by
  unfold listedBelow
  rw [List.mem_filterMap]
  constructor
  · rintro ⟨⟨other, listed⟩, member, led⟩
    obtain ⟨others, below, same⟩ := Option.map_eq_some_iff.mp led
    cases same
    rwa [← namesBelow?_eq_some_iff.mp below]
  · intro member
    exact ⟨_, member, by rw [namesBelow?_eq_some_iff.mpr rfl]; rfl⟩

end Content

section Walk
variable {tree : FileTree} {start found : Location} {names : List String}

/-- Names lead where their spelling says, as far as they lead anywhere. -/
theorem eq_spelledFrom_of_walk (walked : tree.walk start names = .ok found) :
    found = Workspace.spelledFrom start names := by
  induction names generalizing start with
  | nil => exact (Except.ok.inj walked).symm
  | cons name rest ih =>
    unfold walk at walked
    split at walked
    next =>
      split at walked
      · contradiction
      · exact ih walked
    next => contradiction
    next => contradiction

theorem walk_append {first : Location} {others : List String} (walked : tree.walk start names = .ok first) :
    tree.walk start (names ++ others) = tree.walk first others := by
  induction names generalizing start with
  | nil =>
    obtain rfl := Except.ok.inj walked
    rfl
  | cons name rest ih =>
    unfold walk at walked
    split at walked
    next held =>
      split at walked
      · contradiction
      next fits =>
        rw [List.cons_append]
        simp only [walk, held, fits, ↓reduceIte]
        exact ih walked
    next => contradiction
    next => contradiction

/-- The names that lead to something that is found can be followed. -/
theorem walk_of_content? (proper : tree.IsProper) {content : Content}
    (present : tree.content? (start ++ names) = some content) :
    tree.walk start names = .ok (start ++ names) := by
  induction names generalizing start with
  | nil => rw [List.append_nil]; rfl
  | cons name rest ih =>
    have directory := content?_of_below proper present
    obtain ⟨ordinary, short, -⟩ := isEntryName_of_content? proper present name
      (List.mem_append_right _ (List.mem_cons_self ..))
    have next : tree.walk (start ++ [name]) rest = .ok (start ++ [name] ++ rest) :=
      ih (by rwa [List.append_assoc])
    simp only [walk, directory, Nat.not_lt.mpr short, ordinary, ↓reduceIte]
    rw [next, List.append_assoc]
    rfl

end Walk

end FileTree

theorem Workspace.spelledFrom_of_plain {names : List String} (plain : parentName ∉ names) (start : Location) :
    spelledFrom start names = start ++ names := by
  unfold spelledFrom
  induction names generalizing start with
  | nil => exact (List.append_nil start).symm
  | cons name rest ih =>
    have ordinary : name ≠ parentName := fun same => plain (same ▸ List.mem_cons_self ..)
    have others : parentName ∉ rest := fun member => plain (List.mem_cons_of_mem _ member)
    rw [List.foldl_cons, if_neg ordinary, ih others, List.append_assoc]
    rfl

namespace Path

/-- Whether the name `..` does not occur in a path. -/
def IsPlain (path : Path) : Prop := parentName ∉ path.parts

instance (path : Path) : Decidable path.IsPlain := inferInstanceAs (Decidable (¬ _))

theorem hasNull_below (path : Path) {names : List String} (ordinary : ∀ name ∈ names, '\x00' ∉ name.toList) :
    (path.below names).hasNull = path.hasNull := by
  have clean : (names.any fun name => name.toList.contains '\x00') = false := by
    rw [List.any_eq_false]
    intro name member held
    exact ordinary name member (List.contains_iff_mem.mp held)
  simp only [hasNull, below, List.any_append, clean, Bool.or_false]

end Path

namespace Workspace

/-- A proper tree with a working directory that is one. -/
structure IsProper (workspace : Workspace) : Prop where
  tree : workspace.tree.IsProper
  /-- The working directory is there. -/
  directory : workspace.tree.content? workspace.directory = some .directory

instance (workspace : Workspace) : Decidable workspace.IsProper :=
  decidable_of_iff (workspace.tree.IsProper ∧ workspace.tree.content? workspace.directory = some .directory)
    ⟨fun ⟨tree, directory⟩ => ⟨tree, directory⟩, fun ⟨tree, directory⟩ => ⟨tree, directory⟩⟩

def fileAt? (workspace : Workspace) (location : Location) : Option (List UInt8) :=
  match workspace.tree.content? location with
  | some (.file bytes) => some bytes
  | _ => none

section Find
variable {workspace : Workspace} {path : Path} {location : Location} {content : Content}

/-- A path leads to the location that it names by its spelling, as far as it leads anywhere. -/
theorem resolve_of_find (leads : workspace.find path = .ok (location, content)) :
    workspace.resolve path = location :=
  (FileTree.eq_spelledFrom_of_walk (content?_of_find leads).1).symm

theorem hasNull_of_find (leads : workspace.find path = .ok (location, content)) : path.hasNull = false := by
  unfold find at leads
  split at leads
  · contradiction
  next clean => exact Bool.eq_false_iff.mpr clean

theorem isTooLong_of_find (leads : workspace.find path = .ok (location, content)) : path.isTooLong = false := by
  unfold find at leads
  split at leads
  · contradiction
  · split at leads
    · contradiction
    next short => exact Bool.eq_false_iff.mpr short

theorem find_of_walk (clean : path.hasNull = false) (short : path.isTooLong = false)
    (walked : workspace.tree.walk (workspace.start path) path.parts = .ok location)
    (held : workspace.tree.content? location = some content) :
    workspace.find path = .ok (location, content) := by
  simp only [find, clean, short, Bool.false_eq_true, ↓reduceIte, walked, held]

/-- What is found below a directory is found on every path below each path to that directory. -/
theorem find_below (proper : workspace.tree.IsProper) {names : List String}
    (leads : workspace.find path = .ok (location, .directory))
    (held : workspace.tree.content? (location ++ names) = some content)
    (short : (path.below names).isTooLong = false) :
    workspace.find (path.below names) = .ok (location ++ names, content) := by
  have walked : workspace.tree.walk (workspace.start path) (path.parts ++ names) = .ok (location ++ names) := by
    rw [FileTree.walk_append (content?_of_find leads).1]
    exact FileTree.walk_of_content? proper held
  have clean : (path.below names).hasNull = false := by
    rw [Path.hasNull_below, hasNull_of_find leads]
    intro name member
    exact (FileTree.isEntryName_of_content? proper held name (List.mem_append_right _ member)).2.2
  exact find_of_walk clean short walked held

theorem resolve_below {names : List String} (leads : workspace.find path = .ok (location, content))
    (plain : parentName ∉ names) : workspace.resolve (path.below names) = location ++ names := by
  have here : spelledFrom (workspace.start path) path.parts = location := resolve_of_find leads
  show spelledFrom (workspace.start path) (path.parts ++ names) = location ++ names
  calc
    spelledFrom (workspace.start path) (path.parts ++ names)
      = spelledFrom (spelledFrom (workspace.start path) path.parts) names := List.foldl_append ..
    _ = location ++ names := by rw [here, spelledFrom_of_plain plain]

section Plain
variable (proper : workspace.IsProper) (plain : path.IsPlain)
include proper plain

omit proper in
theorem resolve_of_plain : workspace.resolve path = workspace.start path ++ path.parts :=
  spelledFrom_of_plain plain _

/-- A path without `..` leads to what is found at the location that it names. -/
theorem find_of_plain (clean : path.hasNull = false) (short : path.isTooLong = false) :
    workspace.find path = .ok (location, content) ↔
      workspace.resolve path = location ∧ workspace.tree.content? location = some content := by
  constructor
  · intro leads
    exact ⟨resolve_of_find leads, (content?_of_find leads).2⟩
  · rintro ⟨rfl, held⟩
    refine find_of_walk clean short ?_ held
    rw [resolve_of_plain plain] at held ⊢
    exact FileTree.walk_of_content? proper.tree held

theorem read_of_plain (clean : path.hasNull = false) (short : path.isTooLong = false) :
    (workspace.read path).toOption = workspace.fileAt? (workspace.resolve path) := by
  have leads (content : Content) : workspace.find path = .ok (workspace.resolve path, content) ↔ _ :=
    find_of_plain proper plain clean short
  unfold read fileAt?
  cases held : workspace.tree.content? (workspace.resolve path) with
  | some content =>
    rw [(leads content).mpr ⟨rfl, held⟩]
    cases content <;> rfl
  | none =>
    cases found : workspace.find path with
    | error problem => rfl
    | ok reached =>
      obtain ⟨location, content⟩ := reached
      obtain ⟨rfl, present⟩ := (find_of_plain proper plain clean short).mp found
      rw [held] at present
      contradiction

end Plain

end Find

end Workspace

end ScriptLint
