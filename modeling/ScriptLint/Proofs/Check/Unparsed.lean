import ScriptLint.Proofs.Check.Collection
import ScriptLint.Proofs.Check.Unreadable
import ScriptLint.Proofs.FileTree.Removal
import ScriptLint.Proofs.Text.Utf8
import ScriptLint.Server.Session

/-! # Configuration files that are not TOML

A configuration file that is a text, but not a document, is passed over: with a warning it comes to the
default configuration. Where no further configuration file takes its place, commands and servers work as
if the file were not there. A file that is not even a text is not passed over; loading it fails.
-/

namespace ScriptLint

variable {bare workspace : Workspace} {location directory : Location} {bytes : List UInt8}
variable {argument path : Path} {paths : List Path}

namespace Check

/-- Paths in strictly increasing order are known by what is among them. -/
theorem eq_of_increasing {others : List Path} (first : paths.Pairwise fun path later => path.parts < later.parts)
    (second : others.Pairwise fun path later => path.parts < later.parts)
    (same : ∀ path, path ∈ paths ↔ path ∈ others) : paths = others := by
  have nodup {paths : List Path} (increasing : paths.Pairwise fun path later => path.parts < later.parts) :
      paths.Nodup := by
    refine List.Pairwise.imp ?_ increasing
    rintro path _ less rfl
    exact List.lt_irrefl path.parts less
  have perm := (List.perm_ext_iff_of_nodup (nodup first) (nodup second)).mpr same
  exact perm.eq_of_pairwise (fun _ _ _ _ less greater => absurd greater (List.lt_asymm less)) first second

section Lacking
variable (lacks : bare.Lacks workspace location) (proper : workspace.tree.IsProper)
variable (present : workspace.tree.content? location = some (.file bytes))
variable (last : location.getLast? = some Config.fileName)

include last in
/-- A script is not the configuration file. -/
theorem ne_of_isScript_below {names : List String} (script : isScript (argument.below names) = true)
    (apart : directory ≠ location) : directory ++ names ≠ location := by
  rintro rfl
  rcases List.eq_nil_or_concat names with rfl | ⟨front, name, rfl⟩
  · exact apart (List.append_nil directory).symm
  · rw [List.concat_eq_append, ← List.append_assoc, List.getLast?_concat] at last
    rw [List.concat_eq_append, isScript_below_concat, Option.some.inj last] at script
    exact absurd script (by decide +kernel)

include lacks present last

theorem needsLook_of_lacks (apart : directory ≠ location) (names : List String) :
    NeedsLook bare argument directory names ↔ NeedsLook workspace argument directory names := by
  refine exists_congr fun content => ?_
  rw [lacks.content]
  by_cases same : directory ++ names = location
  · rw [if_pos same, same, present]
    refine iff_of_false (fun found => by simp only [reduceCtorEq, false_and] at found) ?_
    rintro ⟨found, kind⟩
    obtain rfl := Option.some.inj found
    have script := kind.resolve_left (by simp only [reduceCtorEq, not_false_eq_true])
    exact ne_of_isScript_below last script apart same
  · rw [if_neg same]

include proper

omit present in
theorem scriptsBelow_of_lacks (apart : directory ≠ location) :
    scriptsBelow bare argument directory = scriptsBelow workspace argument directory := by
  refine eq_of_increasing (scriptsBelow_pairwise lacks.proper argument directory)
    (scriptsBelow_pairwise proper argument directory) fun path => ?_
  rw [mem_scriptsBelow_iff lacks.proper, mem_scriptsBelow_iff proper]
  refine exists_congr fun names => and_congr_right ?_
  rintro rfl
  refine and_congr_left fun collected => ?_
  have script : isScript (argument.below names) = true := (Bool.and_eq_true_iff.mp collected).1
  rw [lacks.content, if_neg (ne_of_isScript_below last script apart)]

/-- Arguments stand for the same paths without the configuration file. -/
theorem expand_of_lacks : expand bare argument = .ok paths ↔ expand workspace argument = .ok paths := by
  unfold expand
  rw [lacks.directory? present]
  cases led : workspace.directory? argument with
  | error fault => rfl
  | ok held =>
    cases held with
    | none => rfl
    | some directory =>
      have leads := Workspace.directory?_eq_some_iff.mp led
      have short := Workspace.isTooLong_of_find leads
      have apart : directory ≠ location := by
        rintro rfl
        rw [(Workspace.content?_of_find leads).2] at present
        simp only [Option.some.injEq, reduceCtorEq] at present
      dsimp only
      rw [collect_eq_ok_iff lacks.proper short, collect_eq_ok_iff proper short,
        scriptsBelow_of_lacks lacks proper last apart]
      simp only [needsLook_of_lacks lacks present last apart]

theorem opens_of_lacks : Opens bare argument ↔ Opens workspace argument :=
  and_congr_right fun _ => exists_congr fun _ => expand_of_lacks lacks proper present last

theorem expansion_of_lacks (opens : Opens workspace argument) :
    expansion bare argument = expansion workspace argument := by
  have expanded := expand_eq_expansion opens
  exact expansion_of_expand ((expand_of_lacks lacks proper present last).mpr expanded)

omit proper last in
/-- Away from the configuration file nothing else is found. -/
theorem linesFor_of_lacks (print : String → String) (strings : Strings) (rules : List Rule)
    (elsewhere : ∀ content, workspace.find path ≠ .ok (location, content)) :
    linesFor print strings bare rules path = linesFor print strings workspace rules path := by
  have read := lacks.toOption_read present elsewhere
  have records : recordsAt strings bare rules path = recordsAt strings workspace rules path := by
    unfold recordsAt Script.load
    revert read
    cases bare.read path <;> cases workspace.read path <;> intro read
    · rfl
    · contradiction
    · contradiction
    · rw [Option.some.inj read]
  rw [linesFor, linesFor, records]

end Lacking

theorem distinctFrom_of_lacks (lacks : bare.Lacks workspace location) (seen : List Location) (paths : List Path) :
    distinctFrom bare seen paths = distinctFrom workspace seen paths := by
  induction paths generalizing seen with
  | nil => rfl
  | cons path rest ih => simp only [distinctFrom, lacks.resolve, ih]

/-- A run does not show whether the configuration file is there, as long as it comes to the same
configuration and is not checked itself. -/
theorem sameAnswer_of_lacks {print : String → String} {config : Config} {arguments : List Path}
    (preferred : Option String)
    (lineLength : Option Int) (lacks : bare.Lacks workspace location) (proper : workspace.tree.IsProper)
    (present : workspace.tree.content? location = some (.file bytes))
    (last : location.getLast? = some Config.fileName)
    (loaded : (Config.load workspace none).result = .ok config) (same : (Config.load bare none).result = .ok config)
    (elsewhere : ∀ argument ∈ arguments, ∀ content, workspace.find argument ≠ .ok (location, content)) :
    Transcript.SameAnswer print (run (Strings.shippedFor preferred) workspace lineLength arguments)
      (run (Strings.shippedFor preferred) bare lineLength arguments) := by
  obtain ⟨active, applied, longLines⟩ := exists_rules_of_load preferred lineLength loaded
  have alsoApplied : (Check.rules (Strings.shippedFor preferred) bare lineLength).result = .ok active := by
    rw [← applied]
    simp only [Check.rules, Traced.result_bind, loaded, same]
  have opensIff (argument : Path) : Opens bare argument ↔ Opens workspace argument :=
    opens_of_lacks lacks proper present last
  by_cases opens : ∀ argument ∈ arguments, Opens workspace argument
  · have alsoOpens : ∀ argument ∈ arguments, Opens bare argument := fun argument given =>
      (opensIff argument).mpr (opens argument given)
    have expanded : arguments.flatMap (expansion bare) = arguments.flatMap (expansion workspace) :=
      List.flatMap_congr fun argument given => expansion_of_lacks lacks proper present last (opens argument given)
    have report := reports_run proper applied longLines opens
    have bareReport := reports_run lacks.proper alsoApplied longLines alsoOpens
    rw [expanded, distinctFrom_of_lacks lacks] at bareReport
    have lines : ∀ path ∈ distinctFrom workspace [] (arguments.flatMap (expansion workspace)),
        linesFor print (Strings.shippedFor preferred) bare active path =
          linesFor print (Strings.shippedFor preferred) workspace active path := by
      intro path member
      refine linesFor_of_lacks lacks present _ _ _ fun content => ?_
      rcases mem_expandAll (expandAll_of_opens opens) (mem_of_mem_distinctFrom member) with asked | collected
      · exact elsewhere path asked content
      · exact find_ne_of_isCollected collected last content
    have output : (run (Strings.shippedFor preferred) workspace lineLength arguments).output print =
        (run (Strings.shippedFor preferred) bare lineLength arguments).output print := by
      rw [report.output, bareReport.output, List.flatMap_congr lines]
    exact ⟨output, by rw [report.exitCode_eq print, bareReport.exitCode_eq print, output]⟩
  · obtain ⟨argument, given, blocked⟩ : ∃ argument, argument ∈ arguments ∧ ¬ Opens workspace argument := by
      simpa only [not_forall, exists_prop] using opens
    obtain ⟨empty, broken⟩ := answer_of_blocked applied given blocked
    obtain ⟨alsoEmpty, alsoBroken⟩ := answer_of_blocked alsoApplied given fun opened =>
      blocked ((opensIff argument).mp opened)
    exact ⟨empty.trans alsoEmpty.symm, broken.trans alsoBroken.symm⟩

end Check

namespace Config

variable {start : Option Path}

theorem document_eq_none_iff :
    document bytes = .ok none ↔
      ∃ text, Text.Utf8.decode bytes = .ok text ∧ Toml.parse text = .error .malformed := by
  unfold document
  cases Text.Utf8.decode bytes with
  | error fault => simp only [reduceCtorEq, false_and, exists_false]
  | ok text =>
    simp only [Except.ok.injEq, exists_eq_left']
    cases Toml.parse text with
    | ok table => simp only [Except.ok.injEq, reduceCtorEq]
    | error problem => cases problem <;> simp only [reduceCtorEq, Except.error.injEq]

/-- What a configuration file that is no document comes to. It is passed over exactly if it is a text that
is found not to be TOML; bytes that are no text fail instead. Where it is passed over, a server starts
with the rules as they are built in. So it does without the file, if no further one takes its place, and
then commands give the same answers, as long as they do not check the file itself. -/
theorem load_refused_iff (print : String → String) (preferred : Option String)
    (closest : closest? workspace (start.getD workspace.currentPath) = .ok (some path))
    (leads : workspace.find path = .ok (location, .file bytes)) (refused : ∀ root, document bytes ≠ .ok (some root)) :
    (load workspace start = ⟨[.configIgnored path], .ok {}⟩ ↔
      ∃ text, Text.Utf8.decode bytes = .ok text ∧ Toml.parse text = .error .malformed) ∧
    (∀ fault, Text.Utf8.decode bytes = .error fault → load workspace start = ⟨[], .error (.undecodable fault)⟩) ∧
    (start = none → (load workspace start).result = .ok {} →
      (Server.configuredRules (Strings.shippedFor preferred) workspace).result = .ok Rule.builtin ∧
      ∀ bare : Workspace, bare.Lacks workspace location → workspace.tree.IsProper →
        closest? bare bare.currentPath = .ok none →
        (Server.configuredRules (Strings.shippedFor preferred) bare).result = .ok Rule.builtin ∧
        ∀ lineLength arguments,
          (∀ argument ∈ arguments, ∀ content, workspace.find argument ≠ .ok (location, content)) →
          Transcript.SameAnswer print (Check.run (Strings.shippedFor preferred) workspace lineLength arguments)
            (Check.run (Strings.shippedFor preferred) bare lineLength arguments)) := by
  have loaded := load_of_closest closest leads
  refine ⟨?_, fun fault undecoded => ?_, ?_⟩
  · rw [loaded, ← document_eq_none_iff]
    rcases ofBytes_of_refused refused with ⟨read, ignored⟩ | ⟨cause, read, fails⟩
    · exact iff_of_true ignored read
    · rw [read, fails]
      exact iff_of_false (fun same => by simp only [Traced.mk.injEq, reduceCtorEq, and_false] at same)
        (fun same => by contradiction)
  · have read : document bytes = .error (.undecodable fault) := by
      rw [document, undecoded]
    rw [loaded, ofBytes, read]
    rfl
  · rintro rfl passed
    have builtin {files : Workspace} (default : (load files none).result = .ok {}) :
        (Server.configuredRules (Strings.shippedFor preferred) files).result = .ok Rule.builtin := by
      exact (result_rulesAt preferred default).trans rfl
    refine ⟨builtin passed, fun bare lacks proper nothing => ?_⟩
    have alsoDefault : (load bare none).result = .ok {} := by
      rw [load_of_none nothing]
    have last := Workspace.getLast?_of_find leads (getLast?_of_closest? closest) (by decide)
    exact ⟨builtin alsoDefault, fun lineLength arguments elsewhere => Check.sameAnswer_of_lacks preferred lineLength
      lacks proper (Workspace.content?_of_find leads).2 last passed alsoDefault elsewhere⟩

section Samples

/-- A configuration file with given bytes next to a script. -/
def besides (bytes : List UInt8) : Workspace where
  tree := ⟨[([fileName], .file bytes), (["a.ps1"], .file [97, 98])]⟩
  directory := []

def unconfigured : Workspace where
  tree := ⟨[(["a.ps1"], .file [97, 98])]⟩
  directory := []

theorem unconfigured_lacks (bytes : List UInt8) : unconfigured.Lacks (besides bytes) [fileName] where
  proper := by decide +kernel
  directory := rfl
  content other := by
    by_cases configuration : other = [fileName]
    · subst configuration
      rfl
    by_cases script : other = ["a.ps1"]
    · subst script
      rfl
    cases other with
    | nil => rfl
    | cons name rest =>
      -- Nothing is found below the root but the two files.
      have top (file : String) : FileTree.isBelow (name :: rest) [file] = false := by
        by_cases same : name = file
        · simp only [FileTree.isBelow, namesBelow?, same, ↓reduceIte]
          cases rest <;> rfl
        · simp only [FileTree.isBelow, namesBelow?, same, ↓reduceIte]
      simp only [FileTree.content?, FileTree.hasBelow_eq_any, besides, unconfigured, FileTree.listed?,
        Ne.symm configuration, Ne.symm script, configuration, List.map_cons, List.map_nil, List.any_cons,
        List.any_nil, top, Bool.or_self, ↓reduceIte, reduceCtorEq, Bool.false_eq_true, or_self]

/-- A configuration file that ends in the middle of a table header is no document. -/
theorem load_refused_iff_bracket :
    load (besides (Text.Utf8.encode "[")) none = ⟨[.configIgnored ⟨"/", [fileName]⟩], .ok {}⟩ ∧
      Transcript.SameAnswer id
        (Check.run (Strings.shippedFor none) (besides (Text.Utf8.encode "[")) (some 1) [⟨"", ["a.ps1"]⟩])
        (Check.run (Strings.shippedFor none) unconfigured (some 1) [⟨"", ["a.ps1"]⟩]) := by
  have decoded : Text.Utf8.decode (Text.Utf8.encode "[") = .ok "[" := Text.Utf8.decode_encode "["
  have malformed : Toml.parse "[" = .error .malformed := by
    cbv
  have unread : document (Text.Utf8.encode "[") = .ok none := document_eq_none_iff.mpr ⟨_, decoded, malformed⟩
  obtain ⟨ignored, -, absent⟩ := @load_refused_iff (besides (Text.Utf8.encode "[")) [fileName]
    (Text.Utf8.encode "[") ⟨"/", [fileName]⟩ none id none rfl rfl fun root read => by
      rw [unread] at read
      simp only [Except.ok.injEq, reduceCtorEq] at read
  have passed := ignored.mpr ⟨_, decoded, malformed⟩
  obtain ⟨-, same⟩ := absent rfl (by rw [passed])
  refine ⟨passed, (same unconfigured (unconfigured_lacks _) (by decide +kernel) rfl).2 (some 1) _ ?_⟩
  intro argument member content leads
  obtain rfl := List.mem_singleton.mp member
  have elsewhere := Workspace.getLast?_of_find leads rfl (by decide)
  exact absurd elsewhere (by decide)

/-- A configuration file that is no text is not passed over. -/
theorem load_fails_at_stray_byte :
    (∀ root, document [0xFF] ≠ .ok (some root)) ∧
      load (besides [0xFF]) none = ⟨[], .error (.undecodable ⟨0, 1, 0xFF, .invalidStart⟩)⟩ :=
  ⟨fun _ read => by contradiction, rfl⟩

end Samples

end Config

end ScriptLint
