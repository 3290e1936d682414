import ScriptLint.Proofs.Check.Expansion

/-! # The scripts of a directory

A script of a directory is a file below it with the suffix of a script, where no directory between the
two has a name that is passed over. An argument that leads to a directory stands for all of them if no
name in its own spelling is passed over, and for nothing otherwise: the names of the directory itself
and of those above it count as far as they are spelled, so that one directory may give its scripts
under one spelling and none under another.
-/

namespace ScriptLint

namespace Check

def isScriptName (name : String) : Bool := scriptSuffixes.contains (Text.lower (Path.suffixOf name))

/-- Whether a file is a script of a directory. -/
def IsScriptOf (tree : FileTree) (directory file : Location) : Prop :=
  ∃ between name, file = directory ++ between ++ [name] ∧
    (∃ bytes, tree.content? file = some (.file bytes)) ∧ isScriptName name = true ∧
    ∀ above ∈ between, above ∉ skippedNames

/-- Whether no name in the spelling of a path is passed over. -/
def IsClear (path : Path) : Prop := ∀ name ∈ path.parts, name ∉ skippedNames

instance (path : Path) : Decidable (IsClear path) := inferInstanceAs (Decidable (∀ _ ∈ _, _))

variable {workspace : Workspace} {argument : Path} {directory file : Location} {paths : List Path}

/-- No name that is passed over is the name of a script. -/
theorem not_mem_skippedNames_of_isScriptName {name : String} (script : isScriptName name = true) :
    name ∉ skippedNames := by
  have others : ∀ skipped ∈ skippedNames, isScriptName skipped = false := by decide +kernel
  intro skipped
  rw [others name skipped] at script
  contradiction

theorem isScript_below_concat (argument : Path) (between : List String) (name : String) :
    isScript (argument.below (between ++ [name])) = isScriptName name := by
  have last : (argument.parts ++ (between ++ [name])).getLast? = some name := by
    rw [← List.append_assoc]
    exact List.getLast?_concat ..
  simp only [isScript, Path.suffix, Path.below, last, isScriptName]

theorem isCollected_below_concat_iff (argument : Path) (between : List String) (name : String) :
    isCollected (argument.below (between ++ [name])) = true ↔
      isScriptName name = true ∧ IsClear argument ∧ ∀ above ∈ between, above ∉ skippedNames := by
  unfold isCollected IsClear
  rw [isScript_below_concat, Bool.and_eq_true, Bool.not_eq_true', List.any_eq_false]
  refine and_congr_right fun script => ?_
  have own := not_mem_skippedNames_of_isScriptName script
  have parts : (argument.below (between ++ [name])).parts = argument.parts ++ (between ++ [name]) := rfl
  simp only [parts, List.forall_mem_append, List.forall_mem_singleton, List.contains_iff_mem, own,
    not_false_eq_true, and_true]

/-- The collected paths lead to the scripts of the directory, as far as its spelling lets them. -/
theorem mem_scriptsBelow_leads (proper : workspace.tree.IsProper)
    (leads : workspace.find argument = .ok (directory, .directory)) {path : Path}
    (member : path ∈ scriptsBelow workspace argument directory) :
    IsClear argument ∧ IsScriptOf workspace.tree directory (workspace.resolve path) ∧
      ∃ names, path = argument.below names ∧ workspace.resolve path = directory ++ names := by
  obtain ⟨names, rfl, ⟨bytes, held⟩, collected⟩ := (mem_scriptsBelow_iff proper).mp member
  have plain : parentName ∉ names := fun inside =>
    (FileTree.isEntryName_of_content? proper held _ (List.mem_append_right _ inside)).1 rfl
  have place := Workspace.resolve_below leads plain
  rcases names.eq_nil_or_concat' with rfl | ⟨between, name, rfl⟩
  · -- The directory itself is no file.
    have here := (Workspace.content?_of_find leads).2
    rw [List.append_nil, here] at held
    simp only [Option.some.injEq, reduceCtorEq] at held
  · obtain ⟨script, clear, passed⟩ := (isCollected_below_concat_iff argument between name).mp collected
    rw [place]
    refine ⟨clear, ⟨between, name, ?_, ⟨bytes, held⟩, script, passed⟩, between ++ [name], rfl, rfl⟩
    rw [List.append_assoc]

theorem exists_mem_scriptsBelow_iff (proper : workspace.tree.IsProper)
    (leads : workspace.find argument = .ok (directory, .directory)) :
    (∃ path ∈ scriptsBelow workspace argument directory, workspace.resolve path = file) ↔
      IsClear argument ∧ IsScriptOf workspace.tree directory file := by
  constructor
  · rintro ⟨path, member, rfl⟩
    obtain ⟨clear, script, -⟩ := mem_scriptsBelow_leads proper leads member
    exact ⟨clear, script⟩
  · rintro ⟨clear, between, name, rfl, ⟨bytes, held⟩, script, passed⟩
    rw [List.append_assoc] at held ⊢
    have collected := (isCollected_below_concat_iff argument between name).mpr ⟨script, clear, passed⟩
    refine ⟨argument.below (between ++ [name]),
      (mem_scriptsBelow_iff proper).mpr ⟨_, rfl, ⟨bytes, held⟩, collected⟩, Workspace.resolve_below leads ?_⟩
    exact fun inside => (FileTree.isEntryName_of_content? proper held _ (List.mem_append_right _ inside)).1 rfl

/-- The collected paths lead to files, each to the one that it names by its spelling. -/
theorem find_of_mem_scriptsBelow (proper : workspace.tree.IsProper)
    (leads : workspace.find argument = .ok (directory, .directory))
    (short : ∀ names, NeedsLook workspace argument directory names → (argument.below names).isTooLong = false)
    {path : Path} (member : path ∈ scriptsBelow workspace argument directory) :
    ∃ bytes, workspace.find path = .ok (workspace.resolve path, .file bytes) := by
  obtain ⟨-, -, names, rfl, place⟩ := mem_scriptsBelow_leads proper leads member
  obtain ⟨others, same, ⟨bytes, held⟩, collected⟩ := (mem_scriptsBelow_iff proper).mp member
  obtain rfl := List.append_cancel_left (congrArg Path.parts same)
  have script : isScript (argument.below names) = true := (Bool.and_eq_true_iff.mp collected).1
  rw [place]
  exact ⟨bytes, Workspace.find_below proper leads held (short names ⟨_, held, .inr script⟩)⟩

/-- What a directory argument stands for. It has no answer exactly if something that has to be looked
at is too long. Otherwise its paths lead to the scripts of the directory if its spelling is clear, and
there are none if it is not: so they lead to exactly the scripts of the directory if and only if the
spelling is clear or there is no script. Two clear spellings of one directory, from whatever working
directories, lead to the same scripts. -/
theorem expand_directory_iff (proper : workspace.tree.IsProper)
    (leads : workspace.directory? argument = .ok (some directory)) :
    ((∃ fault, expand workspace argument = .error fault) ↔
      ∃ names, NeedsLook workspace argument directory names ∧ (argument.below names).isTooLong = true) ∧
    ∀ paths, expand workspace argument = .ok paths →
      (∀ path ∈ paths, ∃ bytes, workspace.find path = .ok (workspace.resolve path, .file bytes)) ∧
      (∀ file, (∃ path ∈ paths, workspace.resolve path = file) ↔
        IsClear argument ∧ IsScriptOf workspace.tree directory file) ∧
      ((∀ file, (∃ path ∈ paths, workspace.resolve path = file) ↔ IsScriptOf workspace.tree directory file) ↔
        IsClear argument ∨ ¬ ∃ file, IsScriptOf workspace.tree directory file) ∧
      ∀ (elsewhere : Workspace) (other : Path) (others : List Path), elsewhere.tree = workspace.tree →
        elsewhere.directory? other = .ok (some directory) → expand elsewhere other = .ok others →
        IsClear argument → IsClear other →
        ∀ file, (∃ path ∈ others, elsewhere.resolve path = file) ↔ ∃ path ∈ paths, workspace.resolve path = file := by
  have found := Workspace.directory?_eq_some_iff.mp leads
  have exactly (file : Location) := @exists_mem_scriptsBelow_iff workspace argument directory file proper found
  refine ⟨?_, fun paths expanded => ?_⟩
  · simp only [expand, leads]
    exact collect_fails_iff proper (Workspace.isTooLong_of_find found)
  · obtain ⟨rfl, short⟩ := scripts_of_expand proper leads expanded
    refine ⟨fun path member => find_of_mem_scriptsBelow proper found short member, exactly, ?_, ?_⟩
    · constructor
      · intro complete
        by_cases some : ∃ file, IsScriptOf workspace.tree directory file
        · obtain ⟨file, script⟩ := some
          exact .inl ((exactly file).mp ((complete file).mpr script)).1
        · exact .inr some
      · rintro (clear | nothing) file
        · rw [exactly, and_iff_right clear]
        · rw [exactly]
          exact and_iff_right_of_imp fun script => absurd ⟨file, script⟩ nothing
    · intro elsewhere other others sameTree otherLeads otherExpanded clear otherClear file
      have otherProper : elsewhere.tree.IsProper := sameTree ▸ proper
      have otherFound := Workspace.directory?_eq_some_iff.mp otherLeads
      obtain ⟨rfl, -⟩ := scripts_of_expand otherProper otherLeads otherExpanded
      rw [exactly, exists_mem_scriptsBelow_iff otherProper otherFound, sameTree, and_iff_right clear,
        and_iff_right otherClear]

section Samples

/-- A script in a directory whose name is passed over. -/
def builtTree : FileTree := ⟨[(["build", "a.ps1"], .file [97, 98])]⟩

theorem expand_directory_iff_built :
    builtTree.IsProper ∧ Workspace.directory? ⟨builtTree, ["build"]⟩ ⟨"", []⟩ = .ok (some ["build"]) ∧
      expand ⟨builtTree, ["build"]⟩ ⟨"", []⟩ = .ok [⟨"", ["a.ps1"]⟩] ∧
      ∀ file, (∃ path ∈ [Path.mk "" ["a.ps1"]], Workspace.resolve ⟨builtTree, ["build"]⟩ path = file) ↔
        IsScriptOf builtTree ["build"] file := by
  have proper : builtTree.IsProper := by decide
  have leads : Workspace.directory? ⟨builtTree, ["build"]⟩ ⟨"", []⟩ = .ok (some ["build"]) := by decide +kernel
  have expanded : expand ⟨builtTree, ["build"]⟩ ⟨"", []⟩ = .ok [⟨"", ["a.ps1"]⟩] := by decide +kernel
  obtain ⟨-, answers⟩ := @expand_directory_iff ⟨builtTree, ["build"]⟩ ⟨"", []⟩ ["build"] proper leads
  exact ⟨proper, leads, expanded, (answers _ expanded).2.2.1.mpr (.inl (by decide))⟩

/-- The name of a directory, or its spelling from the root, hides the script that the same directory
gives as the working directory. -/
theorem expand_hides_own_name :
    IsScriptOf builtTree ["build"] ["build", "a.ps1"] ∧
      expand ⟨builtTree, []⟩ ⟨"", ["build"]⟩ = .ok [] ∧
      expand ⟨builtTree, ["build"]⟩ ⟨"/", ["build"]⟩ = .ok [] ∧
      expand ⟨builtTree, ["build"]⟩ ⟨"", []⟩ = .ok [⟨"", ["a.ps1"]⟩] :=
  ⟨⟨[], "a.ps1", rfl, ⟨[97, 98], rfl⟩, by decide +kernel, by simp⟩, by decide +kernel, by decide +kernel,
    by decide +kernel⟩

end Samples

end Check

end ScriptLint
