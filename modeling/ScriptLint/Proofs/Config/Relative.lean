import Mathlib
import ScriptLint.Proofs.Config.Nearest
import ScriptLint.Proofs.FileTree.Rooted

/-! # Relative starting points

The search for a configuration goes up by spelling. From a relative starting point it ends at the working
directory, whereas from the absolute path that the starting point stands for it goes on to the root. Both lead
to the same configuration as far as the first one finds a file, or else as long as the directories above the
working directory make no difference.
-/

namespace ScriptLint.Config

/-- Whether two loads come out alike. Two failures to tell what is at a place are alike however the place
is spelled. -/
def SameOutcome : Except Failure Config → Except Failure Config → Prop
  | .error (.inaccessible first), .error (.inaccessible second) => first.problem = second.problem
  | first, second => first = second

/-- Whether all places to look at can be followed, as far as their lengths go. -/
def AllFit (start : Path) : Prop := ∀ path ∈ candidates start, Workspace.Fits path

instance (start : Path) : Decidable (AllFit start) := inferInstanceAs (Decidable (∀ path ∈ candidates start, _))

section Outcome
variable {outcome : Except Failure Config} {config : Config} {fault : AccessFault}

theorem sameOutcome_refl (outcome : Except Failure Config) : SameOutcome outcome outcome := by
  unfold SameOutcome
  split <;> rfl

theorem sameOutcome_ok_iff : SameOutcome (.ok config) outcome ↔ outcome = .ok config := by
  cases outcome <;> exact eq_comm

/-- Only a failure to tell what is at a place is like another one. -/
theorem exists_inaccessible_of_sameOutcome (same : SameOutcome outcome (.error (.inaccessible fault))) :
    ∃ other, outcome = .error (.inaccessible other) := by
  cases outcome with
  | ok config => cases same
  | error failure =>
    cases failure with
    | inaccessible other => exact ⟨other, rfl⟩
    | _ => cases same

end Outcome

section Search
variable {workspace : Workspace} {start path : Path} {fault : AccessFault}

/-- A search looks at one path after the other until it finds a file or cannot tell. -/
theorem firstFile?_cases (workspace : Workspace) (paths : List Path) :
    ((∀ path ∈ paths, workspace.isFile path = .ok false) ∧ firstFile? workspace paths = .ok none) ∨
      ∃ before path after, paths = before ++ path :: after ∧
        (∀ other ∈ before, workspace.isFile other = .ok false) ∧
        ((workspace.isFile path = .ok true ∧ firstFile? workspace paths = .ok (some path)) ∨
          ∃ fault, workspace.isFile path = .error fault ∧ firstFile? workspace paths = .error fault) := by
  induction paths with
  | nil => exact .inl ⟨fun _ member => absurd member List.not_mem_nil, rfl⟩
  | cons path rest ih =>
    cases here : workspace.isFile path with
    | error fault =>
      refine .inr ⟨[], path, rest, rfl, fun _ member => absurd member List.not_mem_nil, .inr ⟨fault, here, ?_⟩⟩
      rw [firstFile?, here]
    | ok isFile =>
      cases isFile with
      | true =>
        refine .inr ⟨[], path, rest, rfl, fun _ member => absurd member List.not_mem_nil, .inl ⟨here, ?_⟩⟩
        rw [firstFile?, here]
      | false =>
        have onward : firstFile? workspace (path :: rest) = firstFile? workspace rest := by
          rw [firstFile?, here]
        rw [onward]
        rcases ih with ⟨passed, outcome⟩ | ⟨before, other, after, rfl, passed, outcome⟩
        · exact .inl ⟨List.forall_mem_cons.mpr ⟨here, passed⟩, outcome⟩
        · exact .inr ⟨path :: before, other, after, rfl, List.forall_mem_cons.mpr ⟨here, passed⟩, outcome⟩

theorem isFile_of_closest?_none (nothing : closest? workspace start = .ok none) :
    ∀ path ∈ candidates start, workspace.isFile path = .ok false := by
  rcases firstFile?_cases workspace (candidates start) with
    ⟨passed, -⟩ | ⟨before, path, after, -, -, ⟨-, outcome⟩ | ⟨fault, -, outcome⟩⟩
  · exact passed
  · cases nothing.symm.trans outcome
  · cases nothing.symm.trans outcome

theorem exists_cut_of_closest?_some (closest : closest? workspace start = .ok (some path)) :
    ∃ before after, candidates start = before ++ path :: after ∧
      (∀ other ∈ before, workspace.isFile other = .ok false) ∧ workspace.isFile path = .ok true := by
  rcases firstFile?_cases workspace (candidates start) with
    ⟨-, outcome⟩ | ⟨before, other, after, cut, passed, ⟨leads, outcome⟩ | ⟨fault, -, outcome⟩⟩
  · cases closest.symm.trans outcome
  · cases closest.symm.trans outcome
    exact ⟨before, after, cut, passed, leads⟩
  · cases closest.symm.trans outcome

/-- A search gets stuck only at a place that is too long. -/
theorem exists_cut_of_closest?_error (stuck : closest? workspace start = .error fault) :
    ∃ before path after, candidates start = before ++ path :: after ∧
      (∀ other ∈ before, workspace.isFile other = .ok false) ∧
      workspace.find path = .error .tooLong ∧ fault = ⟨.tooLong, path.toString⟩ := by
  rcases firstFile?_cases workspace (candidates start) with
    ⟨-, outcome⟩ | ⟨before, path, after, cut, passed, ⟨-, outcome⟩ | ⟨other, failed, outcome⟩⟩
  · cases stuck.symm.trans outcome
  · cases stuck.symm.trans outcome
  · cases stuck.symm.trans outcome
    exact ⟨before, path, after, cut, passed, Workspace.isFile_eq_error_iff.mp failed⟩

theorem exists_find_of_closest? (closest : closest? workspace start = .ok (some path)) :
    ∃ location bytes, workspace.find path = .ok (location, .file bytes) := by
  obtain ⟨before, after, -, -, leads⟩ := exists_cut_of_closest?_some closest
  exact Workspace.exists_find_of_isFile leads

/-- A later place to look at is spelled with fewer names. -/
theorem pairwise_candidates (start : Path) :
    (candidates start).Pairwise fun path later =>
      later.anchor = path.anchor ∧ later.parts ≠ [] ∧ later.parts.Sublist path.parts := by
  rw [candidates_eq, List.pairwise_map, List.pairwise_reverse]
  refine List.pairwise_lt_range.imp fun fewer => ⟨rfl, ?_, ?_⟩
  · exact List.append_ne_nil_of_right_ne_nil _ (List.cons_ne_nil fileName [])
  · exact (List.take_sublist_take_left (Nat.le_of_lt fewer)).append (List.Sublist.refl _)

/-- Behind a place that can be followed come no places that are too long. -/
theorem fits_of_cut {before after : List Path} {later : Path} (cut : candidates start = before ++ path :: after)
    (short : path.isTooLong = false) (member : later ∈ after) : Workspace.Fits later := by
  have falling := pairwise_candidates start
  rw [cut] at falling
  obtain ⟨anchor, nonempty, fewer⟩ := List.rel_of_pairwise_cons (List.pairwise_append.mp falling).2.1 member
  refine .inr (Bool.eq_false_iff.mpr fun long => ?_)
  rw [Path.isTooLong_mono nonempty fewer (by rw [anchor]) long] at short
  cases short

/-- If some place is too long to be followed, the search breaks off there or before. -/
theorem closest?_of_not_allFit (long : ¬ AllFit start) :
    ∃ place, closest? workspace start = .error ⟨.tooLong, place⟩ := by
  obtain ⟨path, member, unfit⟩ : ∃ path ∈ candidates start, ¬ Workspace.Fits path := by
    simpa only [AllFit, not_forall, exists_prop] using long
  have untold : workspace.isFile path ≠ .ok false := by
    rw [Workspace.isFile_of_tooLong (Workspace.find_of_not_fits unfit)]
    exact nofun
  cases search : closest? workspace start with
  | error fault =>
    obtain ⟨_, other, _, -, -, -, rfl⟩ := exists_cut_of_closest?_error search
    exact ⟨_, rfl⟩
  | ok found =>
    cases found with
    | none => exact absurd (isFile_of_closest?_none search path member) untold
    | some other =>
      obtain ⟨before, after, cut, passed, leads⟩ := exists_cut_of_closest?_some search
      obtain ⟨location, bytes, found⟩ := Workspace.exists_find_of_isFile leads
      rw [cut] at member
      rcases List.mem_append.mp member with earlier | later
      · exact absurd (passed path earlier) untold
      rcases List.mem_cons.mp later with rfl | later
      · rw [Workspace.find_of_not_fits unfit] at found
        cases found
      · exact absurd (fits_of_cut cut (Workspace.isTooLong_of_find found) later) unfit

section Rooted
variable (proper : workspace.IsProper) (relative : start.isAbsolute = false)

include relative in
theorem relative_of_mem_candidates (member : path ∈ candidates start) :
    path.isAbsolute = false ∧ path.parts ≠ [] := by
  obtain ⟨front, -, rfl⟩ := exists_of_mem_candidates member
  exact ⟨relative, List.append_ne_nil_of_right_ne_nil front (List.cons_ne_nil fileName [])⟩

include relative in
/-- From the absolute path the search looks at the same places first and then above the working directory. -/
theorem candidates_rooted :
    candidates (workspace.rooted start) =
      (candidates start).map workspace.rooted ++ workspace.currentPath.parents.map (·.child fileName) := by
  have place : ∀ path ∈ start :: start.parents,
      (workspace.currentPath.below path.parts).child fileName = workspace.rooted (path.child fileName) := by
    intro path member
    have placed : path.child fileName ∈ candidates start := List.mem_map_of_mem member
    rw [Workspace.rooted_of_relative (relative_of_mem_candidates relative placed).1]
    exact congrArg (Path.mk _) (List.append_assoc ..)
  unfold candidates
  rw [Workspace.rooted_of_relative relative, Path.parents_below _ start.anchor, List.map_append, List.map_map,
    List.map_map]
  exact congrArg (· ++ _) (List.map_congr_left place)

include relative in
theorem rooted_mem_candidates (member : path ∈ candidates start) :
    workspace.rooted path ∈ candidates (workspace.rooted start) := by
  rw [candidates_rooted relative]
  exact List.mem_append_left _ (List.mem_map_of_mem member)

include proper relative

/-- The search from the absolute path passes over what the one from the relative path passes over. -/
theorem firstFile?_rooted {before after : List Path} (fits : AllFit (workspace.rooted start))
    (members : ∀ path ∈ before, path ∈ candidates start)
    (passed : ∀ path ∈ before, workspace.isFile path = .ok false) :
    firstFile? workspace (before.map workspace.rooted ++ after) = firstFile? workspace after := by
  apply firstFile?_append
  intro rooted member
  obtain ⟨path, earlier, rfl⟩ := List.mem_map.mp member
  obtain ⟨alsoRelative, nonempty⟩ := relative_of_mem_candidates relative (members path earlier)
  have fit := fits _ (rooted_mem_candidates relative (members path earlier))
  exact Workspace.isFile_rooted proper alsoRelative nonempty fit (passed path earlier)

theorem closest?_rooted_of_cut {before after : List Path} (fits : AllFit (workspace.rooted start))
    (cut : candidates start = before ++ path :: after)
    (passed : ∀ other ∈ before, workspace.isFile other = .ok false) :
    closest? workspace (workspace.rooted start) =
      firstFile? workspace (workspace.rooted path :: (after.map workspace.rooted ++
        workspace.currentPath.parents.map (·.child fileName))) := by
  rw [closest?, candidates_rooted relative, cut, List.map_append, List.append_assoc, List.map_cons, List.cons_append]
  exact firstFile?_rooted proper relative fits (fun _ earlier => cut ▸ List.mem_append_left _ earlier) passed

/-- Where the search from the relative path gets stuck, the one from the absolute path has got stuck as well. -/
theorem closest?_rooted_of_error (stuck : closest? workspace start = .error fault) :
    ∃ place, closest? workspace (workspace.rooted start) = .error ⟨.tooLong, place⟩ := by
  obtain ⟨before, path, after, cut, passed, long, -⟩ := exists_cut_of_closest?_error stuck
  by_cases fits : AllFit (workspace.rooted start)
  · have member : path ∈ candidates start := cut ▸ List.mem_append_right _ (List.mem_cons_self ..)
    obtain ⟨alsoRelative, nonempty⟩ := relative_of_mem_candidates relative member
    have alsoLong := Workspace.find_rooted_of_tooLong proper alsoRelative nonempty long
    refine ⟨(workspace.rooted path).toString, ?_⟩
    rw [closest?_rooted_of_cut proper relative fits cut passed, firstFile?, Workspace.isFile_of_tooLong alsoLong]
  · exact closest?_of_not_allFit fits

theorem closest?_rooted_of_some (fits : AllFit (workspace.rooted start))
    (closest : closest? workspace start = .ok (some path)) :
    closest? workspace (workspace.rooted start) = .ok (some (workspace.rooted path)) ∧
      workspace.find (workspace.rooted path) = workspace.find path := by
  obtain ⟨before, after, cut, passed, leads⟩ := exists_cut_of_closest?_some closest
  have member : path ∈ candidates start := cut ▸ List.mem_append_right _ (List.mem_cons_self ..)
  obtain ⟨alsoRelative, nonempty⟩ := relative_of_mem_candidates relative member
  have fit := fits _ (rooted_mem_candidates relative member)
  have alsoLeads := Workspace.isFile_rooted proper alsoRelative nonempty fit leads
  refine ⟨?_, Workspace.find_rooted proper alsoRelative nonempty fit⟩
  rw [closest?_rooted_of_cut proper relative fits cut passed, firstFile?, alsoLeads]

theorem closest?_rooted_of_none (fits : AllFit (workspace.rooted start))
    (nothing : closest? workspace start = .ok none) :
    closest? workspace (workspace.rooted start) =
      firstFile? workspace (workspace.currentPath.parents.map (·.child fileName)) := by
  rw [closest?, candidates_rooted relative]
  exact firstFile?_rooted proper relative fits (fun _ => id) (isFile_of_closest?_none nothing)

end Rooted

end Search

section Load
variable {workspace : Workspace} {start path : Path} {fault : AccessFault}

/-- Searches with one outcome lead to one configuration. -/
theorem load_congr {other : Path} (same : closest? workspace start = closest? workspace other) :
    load workspace (some start) = load workspace (some other) := by
  simp only [load, Option.getD_some, same]

/-- What a file says does not depend on how its path is spelled. -/
theorem result_ofBytes_spelling (path other : Path) (bytes : List UInt8) :
    (ofBytes path bytes).result = (ofBytes other bytes).result := by
  cases read : document bytes with
  | error cause => simp only [ofBytes, read]; rfl
  | ok root =>
    cases root with
    | none => rw [ofBytes_of_ignored read, ofBytes_of_ignored read]
    | some root => rw [ofBytes_of_document read, ofBytes_of_document read]

/-- Where the search does not get stuck, the load does not fail as if it did. -/
theorem result_load_ne {found : Option Path} (closest : closest? workspace start = .ok found) :
    (load workspace (some start)).result ≠ .error (.inaccessible fault) := by
  intro failed
  cases found with
  | none =>
    rw [load_of_none closest] at failed
    cases failed
  | some path =>
    obtain ⟨location, bytes, leads⟩ := exists_find_of_closest? closest
    rw [load_of_closest closest leads] at failed
    exact result_ofBytes_ne path bytes fault failed

section Rooted
variable (proper : workspace.IsProper) (relative : start.isAbsolute = false)
variable (fits : AllFit (workspace.rooted start))
include proper relative fits

theorem result_load_rooted_of_some (closest : closest? workspace start = .ok (some path)) :
    (load workspace (some (workspace.rooted start))).result = (load workspace (some start)).result := by
  obtain ⟨alsoClosest, same⟩ := closest?_rooted_of_some proper relative fits closest
  obtain ⟨location, bytes, leads⟩ := exists_find_of_closest? closest
  have loaded : load workspace (some start) = ofBytes path bytes := load_of_closest closest leads
  rw [load_of_closest alsoClosest (same.trans leads), loaded]
  exact result_ofBytes_spelling _ path bytes

theorem load_rooted_of_top (top : workspace.directory = []) (nothing : closest? workspace start = .ok none) :
    load workspace (some (workspace.rooted start)) = ⟨[], .ok {}⟩ := by
  have parents : workspace.currentPath.parents = [] := by
    rw [Workspace.currentPath, top]
    rfl
  have search := closest?_rooted_of_none proper relative fits nothing
  rw [parents] at search
  exact load_of_none search

/-- What is found above the working directory is what is found from the directory above it. -/
theorem load_rooted_of_above {above : Location} {name : String} (below : workspace.directory = above ++ [name])
    (nothing : closest? workspace start = .ok none) :
    load workspace (some (workspace.rooted start)) = load workspace (some ⟨"/", above⟩) := by
  have parents : workspace.currentPath.parents = ⟨"/", above⟩ :: Path.parents ⟨"/", above⟩ := by
    rw [Workspace.currentPath, below]
    exact Path.parents_child ⟨"/", above⟩ name
  apply load_congr
  rw [closest?_rooted_of_none proper relative fits nothing, parents]
  rfl

/-- Without a file up to the working directory the outcomes are alike if nothing above it counts. -/
theorem result_load_rooted_of_none (nothing : closest? workspace start = .ok none) :
    (load workspace (some (workspace.rooted start))).result = .ok {} ↔
      ∀ above name, workspace.directory = above ++ [name] → (load workspace (some ⟨"/", above⟩)).result = .ok {} := by
  constructor
  · intro default above name below
    rwa [← load_rooted_of_above proper relative fits below nothing]
  · intro default
    rcases List.eq_nil_or_concat' workspace.directory with top | ⟨above, name, below⟩
    · rw [load_rooted_of_top proper relative fits top nothing]
    · rw [load_rooted_of_above proper relative fits below nothing]
      exact default above name below

end Rooted

theorem problem_of_closest?_error (stuck : closest? workspace start = .error fault) :
    fault.problem = .tooLong := by
  obtain ⟨_, path, _, -, -, -, rfl⟩ := exists_cut_of_closest?_error stuck
  rfl

theorem load_of_not_allFit (long : ¬ AllFit start) :
    ∃ place, load workspace (some start) = ⟨[], .error (.inaccessible ⟨.tooLong, place⟩)⟩ := by
  obtain ⟨place, stuck⟩ := @closest?_of_not_allFit workspace _ long
  exact ⟨place, load_of_error stuck⟩

variable (proper : workspace.IsProper) (relative : start.isAbsolute = false)
include proper relative

/-- The outcomes are alike if both searches get stuck or come to the same file, or if there is none up to the
working directory and nothing above it counts. -/
theorem sameOutcome_rooted_iff :
    SameOutcome (load workspace (some start)).result (load workspace (some (workspace.rooted start))).result ↔
      (∃ fault, closest? workspace start = .error fault) ∨
        AllFit (workspace.rooted start) ∧
          ((∃ path, closest? workspace start = .ok (some path)) ∨
            ∀ above name, workspace.directory = above ++ [name] →
              (load workspace (some ⟨"/", above⟩)).result = .ok {}) := by
  cases closest : closest? workspace start with
  | error fault =>
    obtain ⟨place, alsoStuck⟩ := closest?_rooted_of_error proper relative closest
    refine iff_of_true ?_ (.inl ⟨fault, rfl⟩)
    rw [load_of_error closest, load_of_error alsoStuck]
    exact problem_of_closest?_error closest
  | ok found =>
    simp only [reduceCtorEq, exists_false, false_or, Except.ok.injEq]
    by_cases fits : AllFit (workspace.rooted start)
    · rw [and_iff_right fits]
      cases found with
      | some path =>
        rw [result_load_rooted_of_some proper relative fits closest]
        exact iff_of_true (sameOutcome_refl _) (.inl ⟨path, rfl⟩)
      | none =>
        rw [load_of_none closest, sameOutcome_ok_iff, result_load_rooted_of_none proper relative fits closest]
        simp only [reduceCtorEq, exists_false, false_or]
    · refine iff_of_false (fun same => ?_) (fun fine => fits fine.1)
      obtain ⟨place, failed⟩ := @load_of_not_allFit workspace _ fits
      rw [failed] at same
      obtain ⟨fault, alsoFailed⟩ := exists_inaccessible_of_sameOutcome same
      exact result_load_ne closest alsoFailed

/-- A relative starting point and the absolute path that it stands for lead to the same configuration or the
same failure exactly if the search from the relative one gets stuck, or no place to look at from the absolute
one is too long and either a file is found already from the relative one or what is found from the directory
above the working directory makes no difference. Without a file up to the working directory the relative
starting point leads to the default configuration whatever lies above. Where a search gets stuck, the place
that is too long is the failure. -/
theorem load_relative_iff :
    (SameOutcome (load workspace (some start)).result (load workspace (some (workspace.rooted start))).result ↔
      (∃ fault, closest? workspace start = .error fault) ∨
        AllFit (workspace.rooted start) ∧
          ((∃ path, closest? workspace start = .ok (some path)) ∨
            ∀ above name, workspace.directory = above ++ [name] →
              (load workspace (some ⟨"/", above⟩)).result = .ok {})) ∧
    (closest? workspace start = .ok none →
      load workspace (some start) = ⟨[], .ok {}⟩ ∧
        (AllFit (workspace.rooted start) → ∀ above name, workspace.directory = above ++ [name] →
          load workspace (some (workspace.rooted start)) = load workspace (some ⟨"/", above⟩))) ∧
    (∀ fault, closest? workspace start = .error fault →
      fault.problem = .tooLong ∧ load workspace (some start) = ⟨[], .error (.inaccessible fault)⟩) ∧
    (¬ AllFit (workspace.rooted start) → ∃ place,
      load workspace (some (workspace.rooted start)) = ⟨[], .error (.inaccessible ⟨.tooLong, place⟩)⟩) := by
  refine ⟨sameOutcome_rooted_iff proper relative, fun nothing => ⟨load_of_none nothing, ?_⟩,
    fun fault stuck => ⟨problem_of_closest?_error stuck, load_of_error stuck⟩, load_of_not_allFit⟩
  intro fits above name below
  exact load_rooted_of_above proper relative fits below nothing

end Load

section Samples

/-- A file that is found from the directory above the working directory is found from the absolute path too. -/
theorem load_relative_iff_upwards :
    SameOutcome (load (emptyBelow (.file [91])) (some ⟨"", [parentName]⟩)).result
      (load (emptyBelow (.file [91])) (some ⟨"/", ["w", "s", parentName]⟩)).result := by
  have proper : (emptyBelow (.file [91])).IsProper := by decide +kernel
  have fits : AllFit ((emptyBelow (.file [91])).rooted ⟨"", [parentName]⟩) := by decide +kernel
  have closest : closest? (emptyBelow (.file [91])) ⟨"", [parentName]⟩ =
      .ok (some ⟨"", [parentName, fileName]⟩) := by
    rfl
  exact (load_relative_iff proper rfl).1.mpr (.inr ⟨fits, .inl ⟨_, closest⟩⟩)

/-- A configuration that leaves out one rule. -/
def leavingOut : String := "[tool.pslint]\nignore = [\"X\"]\n"

/-- An empty working directory below a directory with a configuration file. -/
def inSubdirectory : Workspace where
  tree := ⟨[([fileName], .file (Text.Utf8.encode leavingOut)), (["sub"], .directory)]⟩
  directory := ["sub"]

/-- The file above the working directory is found from its absolute path only. -/
theorem load_misses_above :
    load inSubdirectory (some (Path.ofString ".")) = ⟨[], .ok {}⟩ ∧
      (load inSubdirectory (some (inSubdirectory.rooted (Path.ofString ".")))).result = .ok { ignore := ["X"] } := by
  have parsed : document (Text.Utf8.encode leavingOut) =
      .ok (some [("tool", .table [("pslint", .table [("ignore", .array [.text "X"])])])]) := by
    cbv
  have closest : closest? inSubdirectory (inSubdirectory.rooted (Path.ofString ".")) =
      .ok (some ⟨"/", [fileName]⟩) := by
    rfl
  have leads : inSubdirectory.find ⟨"/", [fileName]⟩ = .ok ([fileName], .file (Text.Utf8.encode leavingOut)) := by
    rfl
  exact ⟨rfl, result_load_at closest leads parsed rfl⟩

end Samples

end ScriptLint.Config
