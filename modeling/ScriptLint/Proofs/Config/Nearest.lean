import Mathlib.Algebra.Ring.Nat
import ScriptLint.Proofs.Config.Section
import ScriptLint.Proofs.FileTree.Length

/-! # The closest configuration file

The search for a configuration looks at the starting point and then at each directory above it. It ends
at the first place that holds a file, whatever the file says, or at the first place of which it cannot be
told what is there. So two file trees that agree up to the closest configuration file lead to the same
configuration as far as the search gets stuck at the same places in both.
-/

namespace ScriptLint.Path

/-- The paths of one name in the directories above a path are all spelled differently. -/
theorem eq_of_toString_child {anchor name : String} {whole front other : List String} (front_above : front <+: whole)
    (other_above : other <+: whole)
    (same : Path.toString ⟨anchor, front ++ [name]⟩ = Path.toString ⟨anchor, other ++ [name]⟩) : front = other := by
  have long (names : List String) : (Path.toString ⟨anchor, names ++ [name]⟩).length + 1 =
      anchor.length + (names.map (·.length + 1)).sum + (name.length + 1) := by
    have nonempty := List.append_ne_nil_of_right_ne_nil names (List.cons_ne_nil name [])
    have total : (Path.toString ⟨anchor, names ++ [name]⟩).length + 1 =
        anchor.length + ((names ++ [name]).map (·.length + 1)).sum :=
      @size_toString String.length String.length_append rfl ⟨anchor, names ++ [name]⟩ nonempty
    rw [List.map_append, List.sum_append, List.map_singleton, List.sum_singleton] at total
    omega
  have equal : (front.map (·.length + 1)).sum = (other.map (·.length + 1)).sum := by
    have first := long front
    have second := long other
    rw [same] at first
    omega
  -- A directory further down has a longer spelling.
  have shorter {upper lower : List String} (above : upper <+: lower)
      (equal : (upper.map (·.length + 1)).sum = (lower.map (·.length + 1)).sum) : upper = lower := by
    obtain ⟨rest, rfl⟩ := above
    cases rest with
    | nil => exact (List.append_nil upper).symm
    | cons next rest =>
      rw [List.map_append, List.sum_append, List.map_cons, List.sum_cons] at equal
      omega
  rcases List.prefix_or_prefix_of_prefix front_above other_above with above | above
  · exact shorter above equal
  · exact (shorter above equal.symm).symm

end ScriptLint.Path

namespace ScriptLint.Config

/-- Where the search for a configuration file starts. -/
def origin (workspace : Workspace) (start : Option Path) : Path := start.getD workspace.currentPath

/-- The place where a directory would hold its configuration file, spelled like the starting point. -/
def placeIn (origin : Path) (front : Location) : Path := ⟨origin.anchor, front ++ [fileName]⟩

/-- The bytes of the configuration file that a directory holds. -/
def heldIn? (workspace : Workspace) (front : Location) : Option (List UInt8) :=
  workspace.fileAt? (front ++ [fileName])

/-- Whether no directory from the starting point up, but strictly below another one, holds a
configuration file. -/
def NoneBelow (workspace : Workspace) (origin : Path) (front : Location) : Prop :=
  ∀ inner, inner <+: origin.parts → front.length < inner.length → heldIn? workspace inner = none

/-- Whether a directory is the deepest one from the starting point up that holds a configuration file. -/
structure IsNearest (workspace : Workspace) (origin : Path) (front : Location) (bytes : List UInt8) : Prop where
  above : front <+: origin.parts
  held : heldIn? workspace front = some bytes
  deepest : NoneBelow workspace origin front

/-- Whether the search gets to a directory and cannot tell what it holds. -/
structure IsStuck (workspace : Workspace) (origin : Path) (front : Location) : Prop where
  above : front <+: origin.parts
  untold : workspace.Untold (placeIn origin front)
  passed : NoneBelow workspace origin front
  told : ∀ inner, inner <+: origin.parts → front.length < inner.length → ¬ workspace.Untold (placeIn origin inner)

/-- Whether two file trees agree on the configuration files from the starting point up to the closest. -/
def AgreeToNearest (first second : Workspace) (origin : Path) : Prop :=
  ∀ front, front <+: origin.parts → NoneBelow first origin front → heldIn? first front = heldIn? second front

section Search
variable {workspace : Workspace} {origin : Path} {front : Location} {bytes : List UInt8}

theorem candidates_eq (origin : Path) :
    candidates origin =
      (List.range (origin.parts.length + 1)).reverse.map fun count => placeIn origin (origin.parts.take count) := by
  unfold candidates Path.parents
  rw [List.range_succ, List.reverse_append, List.reverse_singleton, List.singleton_append, List.map_cons,
    List.map_cons, List.map_map, List.take_length]
  rfl

/-- Before the place in a directory come places in directories further down. -/
theorem candidates_split (above : front <+: origin.parts) :
    ∃ before after, candidates origin = before ++ placeIn origin front :: after ∧
      ∀ path ∈ before, ∃ inner, inner <+: origin.parts ∧ front.length < inner.length ∧
        path = placeIn origin inner := by
  have bound : front.length ∈ (List.range (origin.parts.length + 1)).reverse :=
    List.mem_reverse.mpr (List.mem_range.mpr (Nat.lt_succ_of_le above.length_le))
  obtain ⟨deeper, higher, cut⟩ := List.append_of_mem bound
  have falling : (deeper ++ front.length :: higher).Pairwise (· > ·) := by
    rw [← cut, List.pairwise_reverse]
    exact List.pairwise_lt_range
  refine ⟨deeper.map fun count => placeIn origin (origin.parts.take count),
    higher.map fun count => placeIn origin (origin.parts.take count), ?_, ?_⟩
  · rw [candidates_eq, cut, List.map_append, List.map_cons, ← List.prefix_iff_eq_take.mp above]
  · intro path member
    obtain ⟨count, early, rfl⟩ := List.mem_map.mp member
    have small : count < origin.parts.length + 1 := by
      apply List.mem_range.mp
      rw [← List.mem_reverse, cut]
      exact List.mem_append_left _ early
    have longer : count > front.length :=
      (List.pairwise_append.mp falling).2.2 count early front.length (List.mem_cons_self ..)
    refine ⟨origin.parts.take count, List.take_prefix .., ?_, rfl⟩
    rw [List.length_take]
    omega

theorem exists_of_mem_candidates {path : Path} (member : path ∈ candidates origin) :
    ∃ front, front <+: origin.parts ∧ path = placeIn origin front := by
  rw [candidates_eq] at member
  obtain ⟨count, -, rfl⟩ := List.mem_map.mp member
  exact ⟨_, List.take_prefix .., rfl⟩

theorem firstFile?_append {before after : List Path} (passed : ∀ path ∈ before, workspace.isFile path = .ok false) :
    firstFile? workspace (before ++ after) = firstFile? workspace after := by
  induction before with
  | nil => rfl
  | cons path rest ih =>
    rw [List.cons_append, firstFile?, passed path (List.mem_cons_self ..)]
    exact ih fun other member => passed other (List.mem_cons_of_mem _ member)

/-- Of the directories above a path that have a property one is the deepest. -/
theorem exists_deepest {front whole : List String} (holds : List String → Prop) (above : front <+: whole)
    (held : holds front) :
    ∃ deepest, deepest <+: whole ∧ front.length ≤ deepest.length ∧ holds deepest ∧
      ∀ inner, inner <+: whole → deepest.length < inner.length → ¬ holds inner := by
  by_cases more : ∃ inner, inner <+: whole ∧ front.length < inner.length ∧ holds inner
  · obtain ⟨inner, inner_above, longer, inner_held⟩ := more
    have bound := inner_above.length_le
    obtain ⟨deepest, deepest_above, deep, rest⟩ := exists_deepest holds inner_above inner_held
    exact ⟨deepest, deepest_above, by omega, rest⟩
  · refine ⟨front, above, Nat.le_refl _, held, ?_⟩
    intro inner inner_above longer inner_held
    exact more ⟨inner, inner_above, longer, inner_held⟩
termination_by whole.length - front.length

section Places
variable (absolute : origin.isAbsolute = true) (plain : origin.IsPlain)

include plain in
theorem isPlain_placeIn (above : front <+: origin.parts) : (placeIn origin front).IsPlain := by
  intro member
  rcases List.mem_append.mp member with inside | last
  · exact plain (above.subset inside)
  · rw [List.mem_singleton] at last
    exact absurd last (by decide)

include absolute plain

theorem resolve_placeIn (above : front <+: origin.parts) :
    workspace.resolve (placeIn origin front) = front ++ [fileName] := by
  have rooted : workspace.start (placeIn origin front) = [] := if_pos absolute
  rw [Workspace.resolve_of_plain (isPlain_placeIn plain above), rooted]
  rfl

variable (proper : workspace.IsProper)
include proper

theorem isFile_placeIn (above : front <+: origin.parts) (told : ¬ workspace.Untold (placeIn origin front)) :
    workspace.isFile (placeIn origin front) = .ok (heldIn? workspace front).isSome := by
  rw [Workspace.isFile_of_told proper (isPlain_placeIn plain above) told, resolve_placeIn absolute plain above]
  rfl

/-- The search passes over the directories that can be told to hold no configuration file. -/
theorem closest?_eq (above : front <+: origin.parts) (passed : NoneBelow workspace origin front)
    (told : ∀ inner, inner <+: origin.parts → front.length < inner.length →
      ¬ workspace.Untold (placeIn origin inner)) :
    ∃ after, closest? workspace origin = firstFile? workspace (placeIn origin front :: after) := by
  obtain ⟨before, after, cut, deeper⟩ := candidates_split above
  refine ⟨after, ?_⟩
  rw [closest?, cut]
  apply firstFile?_append
  intro path member
  obtain ⟨inner, inner_above, longer, rfl⟩ := deeper path member
  rw [isFile_placeIn absolute plain proper inner_above (told inner inner_above longer),
    passed inner inner_above longer]
  rfl

theorem closest?_of_stuck (stuck : IsStuck workspace origin front) :
    closest? workspace origin = .error ⟨.tooLong, (placeIn origin front).toString⟩ := by
  obtain ⟨after, search⟩ := closest?_eq absolute plain proper stuck.above stuck.passed stuck.told
  rw [search, firstFile?, Workspace.isFile_of_untold proper.tree (isPlain_placeIn plain stuck.above) stuck.untold]

omit absolute plain proper in
/-- A search that gets stuck nowhere can tell of everything it looks at what is there. -/
theorem told_of_unstuck (free : ∀ front, ¬ IsStuck workspace origin front)
    (passed : NoneBelow workspace origin front) {inner : Location} (inner_above : inner <+: origin.parts)
    (deep : front.length ≤ inner.length) : ¬ workspace.Untold (placeIn origin inner) := by
  intro untold
  obtain ⟨deepest, deepest_above, deeper, stuck, told⟩ :=
    exists_deepest (fun place => workspace.Untold (placeIn origin place)) inner_above untold
  refine free deepest ⟨deepest_above, stuck, ?_, told⟩
  intro other other_above longer
  exact passed other other_above (by omega)

theorem closest?_of_nearest (free : ∀ front, ¬ IsStuck workspace origin front)
    (nearest : IsNearest workspace origin front bytes) :
    closest? workspace origin = .ok (some (placeIn origin front)) := by
  have told {inner : Location} (inner_above : inner <+: origin.parts) (deep : front.length ≤ inner.length) :=
    told_of_unstuck free nearest.deepest inner_above deep
  obtain ⟨after, search⟩ := closest?_eq absolute plain proper nearest.above nearest.deepest
    fun inner inner_above longer => told inner_above (Nat.le_of_lt longer)
  rw [search, firstFile?, isFile_placeIn absolute plain proper nearest.above (told nearest.above (Nat.le_refl _)),
    nearest.held]
  rfl

theorem closest?_of_none (free : ∀ front, ¬ IsStuck workspace origin front)
    (nothing : ∀ front, front <+: origin.parts → heldIn? workspace front = none) :
    closest? workspace origin = .ok none := by
  have passed : NoneBelow workspace origin [] := fun inner inner_above _ => nothing inner inner_above
  rw [closest?, ← List.append_nil (candidates origin)]
  apply firstFile?_append
  intro path member
  obtain ⟨front, above, rfl⟩ := exists_of_mem_candidates member
  rw [isFile_placeIn absolute plain proper above (told_of_unstuck free passed above (Nat.zero_le _)),
    nothing front above]
  rfl

end Places

/-- Either no directory holds a configuration file or one of them is the nearest that does. -/
theorem nothing_or_nearest (workspace : Workspace) (origin : Path) :
    (∀ front, front <+: origin.parts → heldIn? workspace front = none) ∨
      ∃ front bytes, IsNearest workspace origin front bytes := by
  by_cases held : ∃ front, front <+: origin.parts ∧ heldIn? workspace front ≠ none
  · obtain ⟨front, above, present⟩ := held
    obtain ⟨deepest, deepest_above, -, found, rest⟩ :=
      exists_deepest (fun place => heldIn? workspace place ≠ none) above present
    obtain ⟨bytes, held⟩ := Option.ne_none_iff_exists'.mp found
    exact .inr ⟨deepest, bytes, deepest_above, held, fun inner inner_above longer =>
      Classical.not_not.mp (rest inner inner_above longer)⟩
  · exact .inl fun front above => Classical.not_not.mp fun present => held ⟨front, above, present⟩

end Search

open Toml (Table)

/-- Whether a document has no section for a configuration. -/
def LacksSection (root : Table) : Prop :=
  root.find? "tool" = none ∨ ∃ tool : Table, root.find? "tool" = some (.table tool) ∧ tool.find? "pslint" = none

theorem ofDocument_of_lacksSection {root : Table} (lacks : LacksSection root) : ofDocument root = .ok {} := by
  have located : sectionOf root = .ok (.table []) := by
    rcases lacks with absent | ⟨tool, present, absent⟩
    · rw [sectionOf, absent]
      rfl
    · simp only [sectionOf, present, Option.getD_some, member, absent, bind, Except.bind]
      rfl
  exact @Written.ofDocument_eq {} root ⟨[], located, rfl, rfl, rfl⟩

/-- What a file says is no failed access. -/
theorem result_ofBytes_ne (path : Path) (bytes : List UInt8) (fault : AccessFault) :
    (ofBytes path bytes).result ≠ .error (.inaccessible fault) := by
  cases read : document bytes with
  | error cause =>
    rw [ofBytes, read]
    unfold document at read
    intro failed
    cases Except.error.inj failed
    split at read
    · cases read
    · split at read <;> cases read
  | ok root =>
    cases root with
    | none =>
      rw [ofBytes, read]
      intro failed
      cases failed
    | some root =>
      rw [ofBytes_of_document read]
      cases ofDocument root <;> intro failed <;> cases failed

section Load
variable {workspace : Workspace} {start : Option Path} {front : Location} {bytes : List UInt8}
variable (proper : workspace.IsProper)
variable (spelled : ∀ path, start = some path → path.isAbsolute = true ∧ path.IsPlain)

include spelled in
theorem isAbsolute_origin : (origin workspace start).isAbsolute = true := by
  cases start with
  | none => rfl
  | some path => exact (spelled path rfl).1

include proper spelled

theorem isPlain_origin : (origin workspace start).IsPlain := by
  cases start with
  | none => exact fun member => (FileTree.isEntryName_of_content? proper.tree proper.directory _ member).1 rfl
  | some path => exact (spelled path rfl).2

/-- Where the search gets stuck, the failure names the place. -/
theorem load_of_stuck (stuck : IsStuck workspace (origin workspace start) front) :
    load workspace start =
      Traced.fail (.inaccessible ⟨.tooLong, (placeIn (origin workspace start) front).toString⟩) := by
  exact load_of_error (closest?_of_stuck (isAbsolute_origin spelled) (isPlain_origin proper spelled) proper stuck)

/-- The nearest configuration file alone is read. -/
theorem load_of_nearest (free : ∀ front, ¬ IsStuck workspace (origin workspace start) front)
    (nearest : IsNearest workspace (origin workspace start) front bytes) :
    load workspace start = ofBytes (placeIn (origin workspace start) front) bytes := by
  have absolute : (origin workspace start).isAbsolute = true := isAbsolute_origin spelled
  have plain := isPlain_origin proper spelled
  have held : workspace.fileAt? (workspace.resolve (placeIn (origin workspace start) front)) = some bytes := by
    rw [resolve_placeIn absolute plain nearest.above]
    exact nearest.held
  apply load_of_closest (closest?_of_nearest absolute plain proper free nearest)
  exact Workspace.find_of_fileAt? proper (isPlain_placeIn plain nearest.above) held
    (told_of_unstuck free nearest.deepest nearest.above (Nat.le_refl _))

theorem load_of_nothing (free : ∀ front, ¬ IsStuck workspace (origin workspace start) front)
    (nothing : ∀ front, front <+: (origin workspace start).parts → heldIn? workspace front = none) :
    load workspace start = ⟨[], .ok {}⟩ := by
  exact load_of_none (closest?_of_none (isAbsolute_origin spelled) (isPlain_origin proper spelled) proper free nothing)

/-- Only a search that gets stuck fails as one. -/
theorem isStuck_of_result (above : front <+: (origin workspace start).parts)
    (failed : (load workspace start).result =
      .error (.inaccessible ⟨.tooLong, (placeIn (origin workspace start) front).toString⟩)) :
    IsStuck workspace (origin workspace start) front := by
  by_cases free : ∀ front, ¬ IsStuck workspace (origin workspace start) front
  · rcases nothing_or_nearest workspace (origin workspace start) with nothing | ⟨place, bytes, nearest⟩
    · rw [load_of_nothing proper spelled free nothing] at failed
      cases failed
    · rw [load_of_nearest proper spelled free nearest] at failed
      exact absurd failed (result_ofBytes_ne _ _ _)
  · obtain ⟨place, stuck⟩ := Classical.not_forall_not.mp free
    rw [load_of_stuck proper spelled stuck] at failed
    simp only [Traced.fail, Except.error.injEq, Failure.inaccessible.injEq, AccessFault.mk.injEq, true_and] at failed
    rwa [← Path.eq_of_toString_child stuck.above above failed]

end Load

section Agreement
variable {first second : Workspace} {origin : Path} {front : Location} {bytes : List UInt8}
variable (agree : AgreeToNearest first second origin)
include agree

theorem heldIn?_of_agree (unheld : NoneBelow first origin front)
    {inner : Location} (inner_above : inner <+: origin.parts) (deep : front.length ≤ inner.length) :
    heldIn? second inner = heldIn? first inner := by
  refine (agree inner inner_above fun other other_above longer => ?_).symm
  exact unheld other other_above (by omega)

theorem isNearest_of_agree (nearest : IsNearest first origin front bytes) :
    IsNearest second origin front bytes where
  above := nearest.above
  held := by
    rw [heldIn?_of_agree agree nearest.deepest nearest.above (Nat.le_refl _), nearest.held]
  deepest inner inner_above longer := by
    rw [heldIn?_of_agree agree nearest.deepest inner_above (Nat.le_of_lt longer)]
    exact nearest.deepest inner inner_above longer

end Agreement

/-- Searches that get stuck at the same places lead to the same configuration. -/
theorem load_eq_of_alike {first second : Workspace} {start : Option Path} (first_proper : first.IsProper)
    (second_proper : second.IsProper)
    (spelled : ∀ path, start = some path → path.isAbsolute = true ∧ path.IsPlain)
    (same : origin second start = origin first start)
    (agree : AgreeToNearest first second (origin first start))
    (alike : ∀ front,
      IsStuck first (origin first start) front ↔ IsStuck second (origin second start) front) :
    load first start = load second start := by
  by_cases free : ∀ front, ¬ IsStuck first (origin first start) front
  · have alsoFree : ∀ front, ¬ IsStuck second (origin second start) front :=
      fun front stuck => free front ((alike front).mpr stuck)
    rcases nothing_or_nearest first (origin first start) with nothing | ⟨front, bytes, nearest⟩
    · rw [load_of_nothing first_proper spelled free nothing]
      refine (load_of_nothing second_proper spelled alsoFree fun front above => ?_).symm
      rw [same] at above
      rw [← nothing front above]
      exact (agree front above fun inner inner_above _ => nothing inner inner_above).symm
    · have alsoNearest := isNearest_of_agree agree nearest
      rw [← same] at alsoNearest
      rw [load_of_nearest first_proper spelled free nearest,
        load_of_nearest second_proper spelled alsoFree alsoNearest, same]
  · obtain ⟨front, stuck⟩ := Classical.not_forall_not.mp free
    rw [load_of_stuck first_proper spelled stuck,
      load_of_stuck second_proper spelled ((alike front).mp stuck), same]

/-- The configuration at an absolute starting point without `..`, or in the working directory, depends on the
nearest configuration file alone, wherever the searches in two file trees that agree up to it get stuck at
the same places. What the file says does not matter for that, even if it is no document or has no section. -/
theorem load_depends_on_nearest {first second : Workspace} {start : Option Path} (first_proper : first.IsProper)
    (second_proper : second.IsProper)
    (spelled : ∀ path, start = some path → path.isAbsolute = true ∧ path.IsPlain)
    (working : start = none → first.directory = second.directory)
    (agree : AgreeToNearest first second (origin first start)) :
    ((load first start).result = (load second start).result ↔
      ∀ front, IsStuck first (origin first start) front ↔ IsStuck second (origin second start) front) ∧
    (∀ front, IsStuck first (origin first start) front → load first start =
      ⟨[], .error (.inaccessible ⟨.tooLong, (placeIn (origin first start) front).toString⟩)⟩) ∧
    ((∀ front, ¬ IsStuck first (origin first start) front) →
      ((∀ front, front <+: (origin first start).parts → heldIn? first front = none) →
        load first start = ⟨[], .ok {}⟩) ∧
      ∀ front bytes, IsNearest first (origin first start) front bytes →
        load first start = ofBytes (placeIn (origin first start) front) bytes ∧
        (document bytes = .ok none ∨ (∃ root, document bytes = .ok (some root) ∧ LacksSection root) →
          (load first start).result = .ok {})) := by
  have same : origin second start = origin first start := by
    cases start with
    | none =>
      rw [origin, origin, Option.getD_none, Option.getD_none, Workspace.currentPath, Workspace.currentPath,
        working rfl]
    | some path => rfl
  refine ⟨⟨fun equal front => ⟨fun stuck => ?_, fun stuck => ?_⟩, fun alike => ?_⟩,
    fun front stuck => load_of_stuck first_proper spelled stuck,
    fun free => ⟨load_of_nothing first_proper spelled free, fun front bytes nearest => ?_⟩⟩
  · rw [load_of_stuck first_proper spelled stuck, ← same] at equal
    exact isStuck_of_result second_proper spelled (same ▸ stuck.above) equal.symm
  · rw [load_of_stuck second_proper spelled stuck, same] at equal
    exact isStuck_of_result first_proper spelled (same ▸ stuck.above) equal
  · rw [load_eq_of_alike first_proper second_proper spelled same agree alike]
  · have read := load_of_nearest first_proper spelled free nearest
    refine ⟨read, ?_⟩
    rintro (ignored | ⟨root, parsed, lacks⟩)
    · rw [read, ofBytes_of_ignored ignored]
    · rw [read, ofBytes_of_document parsed, ofDocument_of_lacksSection lacks]
      rfl

section Samples

/-- An empty configuration file in a directory, and further up a file or directory of that name. -/
def emptyBelow (above : Content) : Workspace where
  tree := ⟨[(["w", fileName], .file []), (["w", "s"], .directory), ([fileName], above)]⟩
  directory := ["w", "s"]

/-- What is further up than the nearest configuration file does not matter, even if that file is empty. -/
theorem load_depends_on_nearest_emptyBelow :
    (load (emptyBelow (.file [91])) none).result = (load (emptyBelow .directory) none).result ∧
      (load (emptyBelow (.file [91])) none).result = .ok {} := by
  have places {front : Location} (above : front <+: ["w", "s"]) :
      front = [] ∨ front = ["w"] ∨ front = ["w", "s"] := by
    rcases List.prefix_cons_iff.mp above with rfl | ⟨rest, rfl, inside⟩
    · exact .inl rfl
    · rcases List.prefix_cons_iff.mp inside with rfl | ⟨last, rfl, nothing⟩
      · exact .inr (.inl rfl)
      · obtain rfl := List.prefix_nil.mp nothing
        exact .inr (.inr rfl)
  have free (content : Content) : ∀ front, ¬ IsStuck (emptyBelow content) ⟨"/", ["w", "s"]⟩ front := by
    intro front stuck
    refine Workspace.told_of_short ?_ ?_ stuck.untold <;>
      rcases places stuck.above with rfl | rfl | rfl <;> decide +kernel
  have nearest : IsNearest (emptyBelow (.file [91])) ⟨"/", ["w", "s"]⟩ ["w"] [] :=
    ⟨by decide +kernel, rfl, fun inner above longer => by
      rcases places above with rfl | rfl | rfl
      · exact absurd longer (by decide)
      · exact absurd longer (by decide)
      · rfl⟩
  have agree : AgreeToNearest (emptyBelow (.file [91])) (emptyBelow .directory) ⟨"/", ["w", "s"]⟩ := by
    intro front above unheld
    rcases places above with rfl | rfl | rfl
    · cases unheld ["w"] nearest.above (by decide)
    · rfl
    · rfl
  have lacks : document [] = .ok (some []) := by
    cbv
  obtain ⟨same, -, loaded⟩ := @load_depends_on_nearest (emptyBelow (.file [91])) (emptyBelow .directory) none
    (by decide +kernel) (by decide +kernel) (fun _ none => by cases none) (fun _ => rfl) agree
  refine ⟨same.mpr fun front => iff_of_false (free _ front) (free _ front), ?_⟩
  exact ((loaded (free _)).2 _ _ nearest).2 (.inr ⟨[], lacks, .inl rfl⟩)

def nowhere : Workspace where
  tree := ⟨[]⟩
  directory := []

def letters (count : Nat) : String := String.ofList (List.replicate count 'n')

theorem utf8ByteSize_letters (count : Nat) : (letters count).utf8ByteSize = count := by
  induction count with
  | zero => rfl
  | succ count ih =>
    have split : letters (count + 1) = "n" ++ letters count := by
      rw [letters, List.replicate_succ, String.ofList_cons]
      rfl
    have one : "n".utf8ByteSize = 1 := rfl
    rw [split, String.utf8ByteSize_append, ih, one, Nat.add_comm]

/-- If the name of the starting point is too long, the search gets stuck there. -/
theorem isStuck_letters {count : Nat} (long : maxNameBytes < count) :
    IsStuck nowhere ⟨"/", [letters count]⟩ [letters count] where
  above := List.prefix_refl _
  untold := by
    have letter : (letters count).toList.contains '\x00' = false := by
      have other : ('\x00' == 'n') = false := rfl
      rw [letters, String.toList_ofList, List.contains_replicate, other, Bool.false_and]
    have file : fileName.toList.contains '\x00' = false := by decide +kernel
    refine ⟨?_, .inr ⟨[], letters count, [fileName], rfl, rfl, by rwa [utf8ByteSize_letters]⟩⟩
    simp only [placeIn, Path.hasNull, List.cons_append, List.nil_append, List.any_cons, List.any_nil, letter, file,
      Bool.or_self]
  passed inner _ _ := by
    cases inner <;> rfl
  told _ above longer := absurd above.length_le (Nat.not_le.mpr longer)

/-- No directory holds a configuration file, and yet there is no default configuration. -/
theorem load_breaks_off_at_longPlace :
    nowhere.IsProper ∧ (Path.isAbsolute ⟨"/", [letters 256]⟩ = true ∧ Path.IsPlain ⟨"/", [letters 256]⟩) ∧
      (∀ front, heldIn? nowhere front = none) ∧
      load nowhere (some ⟨"/", [letters 256]⟩) =
        ⟨[], .error (.inaccessible ⟨.tooLong, Path.toString ⟨"/", [letters 256, "pyproject.toml"]⟩⟩)⟩ := by
  have proper : nowhere.IsProper := by decide +kernel
  have spelled : Path.isAbsolute ⟨"/", [letters 256]⟩ = true ∧ Path.IsPlain ⟨"/", [letters 256]⟩ := by decide +kernel
  have long : maxNameBytes < 256 := Nat.lt_succ_self 255
  have start : ∀ path, some (Path.mk "/" [letters 256]) = some path → path.isAbsolute = true ∧ path.IsPlain := by
    intro path given
    rwa [← Option.some.inj given]
  have failed := load_of_stuck proper start (isStuck_letters long)
  have place : placeIn (origin nowhere (some ⟨"/", [letters 256]⟩)) [letters 256] =
      ⟨"/", [letters 256, "pyproject.toml"]⟩ := rfl
  rw [place] at failed
  refine ⟨proper, spelled, fun front => ?_, failed⟩
  cases front <;> rfl

end Samples

end ScriptLint.Config
