import ScriptLint.Proofs.Config.LastWords

/-! # Shapes of configuration files

A document is checked at five places, one after the other: its tables on the way to the section, the two
lists of names, and the table of rules. It holds a configuration exactly if nothing is wrong at any of
them, and otherwise the first place at which something is wrong gives the failure. Where it holds one,
the configuration is read off the same five places.
-/

namespace ScriptLint

namespace Toml.Value

/-- What stands at the end of a path of keys through tables. -/
def at? : KeyPath → Value → Option Value
  | [], value => some value
  | key :: path, .table entries => (OrderedMap.find? key entries).bind (at? path)
  | _ :: _, _ => none

theorem at?_append (path more : KeyPath) (value : Value) :
    value.at? (path ++ more) = (value.at? path).bind (at? more) := by
  induction path generalizing value with
  | nil => rfl
  | cons key rest ih =>
    cases value with
    | table entries =>
      show (OrderedMap.find? key entries).bind (at? (rest ++ more)) =
        ((OrderedMap.find? key entries).bind (at? rest)).bind (at? more)
      cases OrderedMap.find? key entries with
      | none => rfl
      | some inner => exact ih inner
    | _ => rfl

theorem kind_eq_table_iff {value : Value} : value.kind = .table ↔ ∃ entries, value = .table entries := by
  cases value <;> simp only [kind, reduceCtorEq, false_iff, not_exists, not_false_eq_true, implies_true,
    Value.table.injEq, exists_eq']

theorem kind_eq_text_iff {value : Value} : value.kind = .text ↔ ∃ text, value = .text text := by
  cases value <;> simp only [kind, reduceCtorEq, false_iff, not_exists, not_false_eq_true, implies_true,
    Value.text.injEq, exists_eq']

end Toml.Value

namespace Config

open Toml (Table Value KeyPath)

/-- Whether a value can stand for names: a text, a table, or a list of nothing but texts. -/
def HoldsNames (value : Value) : Prop :=
  (∃ text, value = .text text) ∨ (∃ entries, value = .table entries) ∨
    ∃ items, value = .array items ∧ ∀ item ∈ items, ∃ text, item = .text text

/-- Whether a document has the shape of a configuration, as far as it has the entries in question. -/
structure WellShaped (root : Table) : Prop where
  tool : ∀ value, (Value.table root).at? ["tool"] = some value → ∃ entries, value = .table entries
  pslint : ∀ value, (Value.table root).at? ["tool", "pslint"] = some value → ∃ entries, value = .table entries
  select : ∀ value, (Value.table root).at? ["tool", "pslint", "select"] = some value → HoldsNames value
  ignore : ∀ value, (Value.table root).at? ["tool", "pslint", "ignore"] = some value → HoldsNames value
  rules : ∀ value, (Value.table root).at? ["tool", "pslint", "rules"] = some value →
    ∃ entries, value = .table entries

/-- What is wrong with a value whose entries are asked for. -/
def sectionFault? (value : Value) : Option ShapeFault :=
  if value.kind = .table then none else some (.sectionNotTable value.kind)

/-- What is wrong with a value that stands for names: of a list, the first item that is no text. -/
def namesFault? : Value → Option ShapeFault
  | .text _ => none
  | .table _ => none
  | .array items => (items.find? fun item => item.kind ≠ .text).map fun item => .nameNotText item.kind
  | value => some (.namesNotIterable value.kind)

/-- What is wrong with a value that stands for the rules. -/
def rulesFault? (value : Value) : Option ShapeFault :=
  if value.kind = .table then none else some (.rulesNotTable value.kind)

/-- The places that are checked, in this order. -/
def checks : List (KeyPath × (Value → Option ShapeFault)) :=
  [(["tool"], sectionFault?), (["tool", "pslint"], sectionFault?),
    (["tool", "pslint", "select"], namesFault?), (["tool", "pslint", "ignore"], namesFault?),
    (["tool", "pslint", "rules"], rulesFault?)]

/-- What is wrong at the first place where something is. -/
def firstFault? (root : Table) : Option ShapeFault :=
  checks.findSome? fun check => ((Value.table root).at? check.1).bind check.2

def asText? : Value → Option String
  | .text value => some value
  | _ => none

/-- The names that a value stands for, in upper case. -/
def namesIn : Value → List String
  | .array items => (items.filterMap asText?).map Text.upper
  | .table entries => (OrderedMap.keys entries).map Text.upper
  | .text name => name.toList.map fun c => Text.upper (String.singleton c)
  | _ => []

/-- The rules table of a document, empty if there is none. -/
def rulesIn (root : Table) : Table :=
  (((Value.table root).at? ["tool", "pslint", "rules"]).bind asTable?).getD []

/-- The configuration that is read off a document. -/
def configIn (root : Table) : Config where
  select := ((Value.table root).at? ["tool", "pslint", "select"]).map namesIn
  ignore := (((Value.table root).at? ["tool", "pslint", "ignore"]).map namesIn).getD []
  options := OrderedMap.ofPairs ((rulesIn root).filterMap ruleEntry?)

/-- An outcome that is a fault, if there is one, and a value otherwise. -/
def orFault {α : Type} (fault? : Option ShapeFault) (value : α) : Except ShapeFault α :=
  match fault? with
  | some fault => .error fault
  | none => .ok value

theorem namesOfItems_eq (items : List Value) :
    namesOfItems items = orFault (namesFault? (.array items)) (namesIn (.array items)) := by
  induction items with
  | nil => rfl
  | cons item rest ih =>
    by_cases text : item.kind = .text
    · obtain ⟨name, rfl⟩ := Value.kind_eq_text_iff.mp text
      rw [namesOfItems, ih]
      simp only [namesFault?, namesIn, asText?, List.find?_cons, ne_eq, not_true_eq_false, decide_false, text,
        List.filterMap_cons, List.map_cons]
      cases (rest.find? fun item => item.kind ≠ .text) <;> rfl
    · have refused : namesOfItems (item :: rest) = .error (.nameNotText item.kind) := by
        cases item <;> first | rfl | exact absurd rfl text
      rw [refused]
      simp only [namesFault?, List.find?_cons, ne_eq, text, not_false_eq_true, decide_true, Option.map_some, orFault]

theorem namesOf_eq (value : Value) : namesOf value = orFault (namesFault? value) (namesIn value) := by
  cases value with
  | array items => exact namesOfItems_eq items
  | _ => rfl

/-- Going on after a check is going on without its fault. -/
theorem bind_eq_orFault {α β : Type} (first second : Option ShapeFault) {value : α} {result : β}
    {operation : Except ShapeFault α} {next : α → Except ShapeFault β} (held : operation = orFault first value)
    (continued : next value = orFault second result) :
    (operation >>= next) = orFault (first.or second) result := by
  subst held
  cases first with
  | none => exact continued
  | some fault => rfl

theorem member_getD (name : String) (place : Option Value) :
    member name (place.getD (.table [])) = orFault (place.bind sectionFault?) (place.bind (Value.at? [name])) := by
  cases place with
  | none => rfl
  | some value =>
    cases value with
    | table entries =>
      show Except.ok (OrderedMap.find? name entries) = .ok ((OrderedMap.find? name entries).bind (Value.at? []))
      cases OrderedMap.find? name entries <;> rfl
    | _ => rfl

theorem ignored_eq (place : Option Value) :
    namesOf (place.getD (.array [])) = orFault (place.bind namesFault?) ((place.map namesIn).getD []) := by
  cases place with
  | none => rfl
  | some value => exact namesOf_eq value

theorem ruleOptions_eq (place : Option Value) :
    ruleOptions (place.getD (.table [])) =
      orFault (place.bind rulesFault?) (OrderedMap.ofPairs (((place.bind asTable?).getD []).filterMap ruleEntry?)) := by
  cases place with
  | none => rfl
  | some value => cases value <;> rfl

/-- A section comes to its first fault, or else to what its three entries hold. -/
theorem ofSection_eq (place : Option Value) :
    ofSection (place.getD (.table [])) =
      orFault ((place.bind sectionFault?).or
        (((place.bind (Value.at? ["select"])).bind namesFault?).or
          (((place.bind (Value.at? ["ignore"])).bind namesFault?).or
            ((place.bind (Value.at? ["rules"])).bind rulesFault?))))
      { select := (place.bind (Value.at? ["select"])).map namesIn
        ignore := ((place.bind (Value.at? ["ignore"])).map namesIn).getD []
        options := OrderedMap.ofPairs
          ((((place.bind (Value.at? ["rules"])).bind asTable?).getD []).filterMap ruleEntry?) } := by
  unfold ofSection
  simp only [member_getD, ignored_eq, ruleOptions_eq]
  cases place.bind sectionFault? with
  | some fault => rfl
  | none =>
    have rest (select : Option (List String)) :
        (do
          let ignore ← orFault ((place.bind (Value.at? ["ignore"])).bind namesFault?)
            (((place.bind (Value.at? ["ignore"])).map namesIn).getD [])
          let options ← orFault ((place.bind (Value.at? ["rules"])).bind rulesFault?)
            (OrderedMap.ofPairs ((((place.bind (Value.at? ["rules"])).bind asTable?).getD []).filterMap ruleEntry?))
          pure ({ select, ignore, options } : Config)) = orFault _ _ :=
      bind_eq_orFault _ _ rfl (bind_eq_orFault _ none rfl rfl)
    simp only [Option.or_none] at rest
    cases place.bind (Value.at? ["select"]) with
    | none => exact rest none
    | some names =>
      have selected : some <$> namesOf names = orFault (namesFault? names) (some (namesIn names)) := by
        rw [namesOf_eq]
        cases namesFault? names <;> rfl
      change (some <$> namesOf names >>= fun select => _) = _
      exact bind_eq_orFault (namesFault? names) _ selected (rest (some (namesIn names)))

theorem sectionOf_eq (root : Table) :
    sectionOf root = orFault (((Value.table root).at? ["tool"]).bind sectionFault?)
      (((Value.table root).at? ["tool", "pslint"]).getD (.table [])) := by
  have tool : root.find? "tool" = (Value.table root).at? ["tool"] := by
    show root.find? "tool" = (root.find? "tool").bind (Value.at? [])
    cases root.find? "tool" <;> rfl
  have pslint : (Value.table root).at? ["tool", "pslint"] =
      ((Value.table root).at? ["tool"]).bind (Value.at? ["pslint"]) := Value.at?_append ["tool"] ["pslint"] _
  unfold sectionOf
  simp only [tool, pslint, member_getD]
  cases ((Value.table root).at? ["tool"]).bind sectionFault? <;> rfl

/-- A document comes to its first fault, or else to the configuration that is read off it. -/
theorem ofDocument_eq_orFault (root : Table) : ofDocument root = orFault (firstFault? root) (configIn root) := by
  have below (name : String) : ((Value.table root).at? ["tool", "pslint"]).bind (Value.at? [name]) =
      (Value.table root).at? ["tool", "pslint", name] := (Value.at?_append ["tool", "pslint"] [name] _).symm
  have held := ofSection_eq ((Value.table root).at? ["tool", "pslint"])
  simp only [below] at held
  unfold ofDocument
  refine (bind_eq_orFault _ _ (sectionOf_eq root) held).trans ?_
  have later (check : KeyPath × (Value → Option ShapeFault)) (rest : List (KeyPath × (Value → Option ShapeFault)))
      (fault? : KeyPath × (Value → Option ShapeFault) → Option ShapeFault) :
      (check :: rest).findSome? fault? = (fault? check).or (rest.findSome? fault?) := by
    rw [List.findSome?_cons]
    cases fault? check <;> rfl
  simp only [firstFault?, checks, later, List.findSome?_nil, Option.or_none]
  rfl

/-- Nothing is wrong anywhere exactly if the document is well-shaped. -/
theorem firstFault?_eq_none_iff (root : Table) : firstFault? root = none ↔ WellShaped root := by
  have absent {fault? : Value → Option ShapeFault} {fits : Value → Prop} (place : Option Value)
      (sound : ∀ value, fault? value = none ↔ fits value) :
      place.bind fault? = none ↔ ∀ value, place = some value → fits value := by
    cases place with
    | none => simp only [Option.bind_none, reduceCtorEq, false_implies, implies_true]
    | some value => simp only [Option.bind_some, sound, Option.some.injEq, forall_eq']
  have isSection (value : Value) : sectionFault? value = none ↔ ∃ entries, value = .table entries := by
    simp only [sectionFault?, ite_eq_left_iff, reduceCtorEq, imp_false, not_not, Value.kind_eq_table_iff]
  have isRules (value : Value) : rulesFault? value = none ↔ ∃ entries, value = .table entries := by
    simp only [rulesFault?, ite_eq_left_iff, reduceCtorEq, imp_false, not_not, Value.kind_eq_table_iff]
  have isNames (value : Value) : namesFault? value = none ↔ HoldsNames value := by
    unfold HoldsNames
    cases value with
    | array items =>
      simp only [namesFault?, Option.map_eq_none_iff, List.find?_eq_none, ne_eq, decide_not, Bool.not_eq_true',
        Bool.not_eq_false, decide_eq_true_eq, Value.kind_eq_text_iff, reduceCtorEq, exists_false, false_or,
        Value.array.injEq, exists_eq_left']
    | _ => simp only [namesFault?, Value.text.injEq, Value.table.injEq, reduceCtorEq, exists_eq', exists_false,
        false_and, or_false, or_true]
  simp only [firstFault?, checks, List.findSome?_eq_none_iff, List.mem_cons, List.not_mem_nil, or_false,
    forall_eq_or_imp, forall_eq]
  rw [absent _ isSection, absent _ isSection, absent _ isNames, absent _ isNames, absent _ isRules]
  exact ⟨fun ⟨tool, pslint, select, ignore, rules⟩ => ⟨tool, pslint, select, ignore, rules⟩,
    fun ⟨tool, pslint, select, ignore, rules⟩ => ⟨tool, pslint, select, ignore, rules⟩⟩

def valueOf : Scalar → Value
  | .int value => .integer value
  | .text value => .text value
  | .bool value => .boolean value

def isScalar (value : Value) : Bool :=
  value.kind = .integer || value.kind = .text || value.kind = .boolean

/-- The option values of a table are its integers, texts and truth values, in file order. -/
theorem map_optionValues (entries : Table) :
    (optionValues entries).map (fun entry => (entry.1, valueOf entry.2)) =
      entries.filter fun entry => isScalar entry.2 := by
  unfold optionValues
  rw [List.map_filterMap, ← List.filterMap_eq_filter]
  refine List.filterMap_congr fun entry _ => ?_
  obtain ⟨key, value⟩ := entry
  cases value <;> rfl

/-- A rule has the option values of the last table under some spelling of its name. -/
theorem find?_options_configIn (root : Table) (key : String) :
    (configIn root).options.find? key =
      (lastUnder? (fun name => Text.upper name = key) asTable? (rulesIn root)).map optionValues := by
  rw [configIn, OrderedMap.find?_ofPairs, OrderedMap.last?, List.filterMap_filterMap, lastUnder?, ← List.getLast?_map,
    List.map_filterMap]
  congr 1
  refine List.filterMap_congr fun entry _ => ?_
  obtain ⟨name, value⟩ := entry
  cases value <;> simp only [ ruleEntry?, asTable?, Option.bind_none, Option.bind_some, OrderedMap.valueAt?,
    decide_eq_true_eq, apply_ite (Option.map optionValues), Option.map_some, Option.map_none, ite_self]

/-- The type of a value, as failures name it. -/
def typeName : Value → String
  | .text _ => "str"
  | .integer _ => "int"
  | .float _ => "float"
  | .boolean _ => "bool"
  | .date _ => "datetime.date"
  | .time _ => "datetime.time"
  | .dateTime .. => "datetime.datetime"
  | .array _ => "list"
  | .table _ => "dict"

/-- The class and the wording by which a value has no member of a name. -/
def lacks (member : String) (value : Value) : String × String :=
  ("AttributeError", "'" ++ typeName value ++ "' object has no attribute '" ++ member ++ "'")

/-- How a value is refused that should be a table with a member. -/
def tableError? (member : String) : Value → Option (String × String)
  | .table _ => none
  | value => some (lacks member value)

/-- How a value is refused that should stand for names: a list for its first item that is no text. -/
def namesError? : Value → Option (String × String)
  | .text _ => none
  | .table _ => none
  | .array items => (items.find? fun item => (asText? item).isNone).map (lacks "upper")
  | value => some ("TypeError", "'" ++ typeName value ++ "' object is not iterable")

/-- How a document is refused: as it is at the first place where it is. -/
def firstError? (root : Table) : Option (String × String) :=
  [(["tool"], tableError? "get"), (["tool", "pslint"], tableError? "get"),
    (["tool", "pslint", "select"], namesError?), (["tool", "pslint", "ignore"], namesError?),
    (["tool", "pslint", "rules"], tableError? "items")].findSome? fun check =>
      ((Value.table root).at? check.1).bind check.2

/-- The class and the wording of a fault. -/
def reported (fault : ShapeFault) : String × String :=
  ((Failure.shape fault).className, (Failure.shape fault).message)

theorem name_kind (value : Value) : value.kind.name = typeName value := by
  cases value <;> rfl

theorem reported_of_missing {fault : ShapeFault} {member : String} {value : Value}
    (kind : (Failure.shape fault).className = "AttributeError")
    (wording : (Failure.shape fault).message = missingMember value.kind member) :
    reported fault = lacks member value := by
  rw [reported, kind, wording, lacks, missingMember, name_kind]

theorem map_reported_sectionFault? (value : Value) : (sectionFault? value).map reported = tableError? "get" value := by
  cases value <;> rfl

theorem map_reported_rulesFault? (value : Value) : (rulesFault? value).map reported = tableError? "items" value := by
  cases value <;> rfl

theorem map_reported_namesFault? (value : Value) : (namesFault? value).map reported = namesError? value := by
  cases value with
  | array items =>
    have same : (fun item : Value => decide (item.kind ≠ .text)) = fun item => (asText? item).isNone := by
      funext item
      cases item <;> rfl
    simp only [namesFault?, namesError?, same, Option.map_map]
    congr 1
    funext item
    exact reported_of_missing rfl rfl
  | _ => rfl

theorem map_reported_firstFault? (root : Table) : (firstFault? root).map reported = firstError? root := by
  have place (path : KeyPath) (fault? : Value → Option ShapeFault) :
      (((Value.table root).at? path).bind fault?).map reported =
        ((Value.table root).at? path).bind fun value => (fault? value).map reported := by
    cases (Value.table root).at? path <;> rfl
  rw [firstFault?, List.map_findSome?]
  simp only [firstError?, checks, Function.comp_def, place, List.findSome?_cons, List.findSome?_nil,
    map_reported_sectionFault?, map_reported_namesFault?, map_reported_rulesFault?]

section Load
variable {workspace : Workspace} {start : Option Path} {path : Path} {location : Location} {bytes : List UInt8}
variable {root : Table}

/-- What a configuration file with any document in it comes to: a configuration exactly if the document is
well-shaped, and otherwise what the first place that is refused gives, in the order of the checks. -/
theorem load_wellShaped_iff (closest : closest? workspace (start.getD workspace.currentPath) = .ok (some path))
    (leads : workspace.find path = .ok (location, .file bytes)) (parsed : document bytes = .ok (some root)) :
    ((∃ config, (load workspace start).result = .ok config) ↔ WellShaped root) ∧
    (¬ WellShaped root → ∃ cause, load workspace start = ⟨[.configLoaded path], .error cause⟩ ∧
      firstError? root = some (cause.className, cause.message)) ∧
    ∀ config, (load workspace start).result = .ok config →
      config.select = ((Value.table root).at? ["tool", "pslint", "select"]).map namesIn ∧
      config.ignore = (((Value.table root).at? ["tool", "pslint", "ignore"]).map namesIn).getD [] ∧
      (OrderedMap.keys config.options).Nodup ∧
      ∀ key, (config.options.find? key).map (fun values => values.map fun entry => (entry.1, valueOf entry.2)) =
        (lastUnder? (fun name => Text.upper name = key) asTable? (rulesIn root)).map fun entries =>
          entries.filter fun entry => isScalar entry.2 := by
  have loaded : load workspace start =
      ⟨[.configLoaded path], (orFault (firstFault? root) (configIn root)).mapError .shape⟩ := by
    rw [load_of_closest closest leads, ofBytes_of_document parsed, ofDocument_eq_orFault]
  rw [loaded, ← firstFault?_eq_none_iff]
  refine ⟨?_, ?_, ?_⟩
  · cases firstFault? root with
    | none => exact iff_of_true ⟨_, rfl⟩ rfl
    | some fault =>
      refine iff_of_false ?_ (by simp only [reduceCtorEq, not_false_eq_true])
      rintro ⟨config, success⟩
      contradiction
  · intro wrong
    obtain ⟨fault, found⟩ := Option.ne_none_iff_exists'.mp wrong
    rw [← map_reported_firstFault?, found]
    exact ⟨.shape fault, rfl, rfl⟩
  · intro config success
    cases found : firstFault? root with
    | some fault => rw [found] at success; contradiction
    | none =>
      rw [found] at success
      obtain rfl := Except.ok.inj success
      refine ⟨rfl, rfl, OrderedMap.nodup_keys_ofPairs _, fun key => ?_⟩
      rw [find?_options_configIn, Option.map_map]
      exact congrArg (fun read => Option.map read _) (funext map_optionValues)

end Load

section Samples

/-- A section with a number among its names and a number in place of names. -/
def misshapen : String := "[tool.pslint]\nselect=['a',1,true]\nignore=5"

/-- That section in the working directory. -/
def misshapenHere : Workspace where
  tree := ⟨[([fileName], .file (Text.Utf8.encode misshapen))]⟩
  directory := []

/-- The document in that section. -/
def misshapenRoot : Table :=
  [("tool", .table [("pslint", .table [("select", .array [.text "a", .integer 1, .boolean true]),
    ("ignore", .integer 5)])])]

/-- Of the two faults the first one counts, and of the two items that are no names the first one. -/
theorem load_wellShaped_iff_misshapen :
    ∃ cause, load misshapenHere none = ⟨[.configLoaded ⟨"/", [fileName]⟩], .error cause⟩ ∧
      cause.className = "AttributeError" ∧ cause.message = "'int' object has no attribute 'upper'" := by
  have parsed : document (Text.Utf8.encode misshapen) = .ok (some misshapenRoot) := by
    cbv
  have closest : closest? misshapenHere misshapenHere.currentPath = .ok (some ⟨"/", [fileName]⟩) := rfl
  have wrong : firstFault? misshapenRoot ≠ none := by decide +kernel
  have unshaped : ¬ WellShaped misshapenRoot := mt (firstFault?_eq_none_iff _).mpr wrong
  have leads : misshapenHere.find ⟨"/", [fileName]⟩ = .ok ([fileName], .file (Text.Utf8.encode misshapen)) := rfl
  obtain ⟨cause, outcome, first⟩ := (@load_wellShaped_iff _ none _ _ _ _ closest leads parsed).2.1 unshaped
  have expected : firstError? misshapenRoot = some ("AttributeError", "'int' object has no attribute 'upper'") := by
    decide +kernel
  obtain ⟨kind, wording⟩ := Prod.mk.inj (Option.some.inj (first.symm.trans expected))
  exact ⟨cause, outcome, kind, wording⟩

end Samples

end Config

end ScriptLint
