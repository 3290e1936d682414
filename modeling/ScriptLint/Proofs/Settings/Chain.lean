import ScriptLint.Proofs.Settings

/-! # Chains of configurations

A chain of calls does what one call with all their entries would do. So after a chain every option has the
last value of its type that the whole chain offered under its name, or else the value that it started
with. An option with a later namesake is out of reach. Entries that set nothing can be left out, and what
was given before can be given again.
-/

namespace ScriptLint

namespace RuleOption

/-- Whether an option is the last one with its name. -/
def IsLast (schema : List RuleOption) (option : RuleOption) : Prop :=
  ∃ earlier later, schema = earlier ++ option :: later ∧
    ∀ other ∈ later, Text.lower other.name ≠ Text.lower option.name

variable {schema : List RuleOption} {option : RuleOption}

/-- A name means the last option that has it. -/
theorem named?_eq_some_iff {name : String} :
    named? schema name = some option ↔ IsLast schema option ∧ Text.lower option.name = Text.lower name := by
  unfold named?
  rw [List.find?_eq_some_iff_append]
  constructor
  · rintro ⟨fits, before, after, split, others⟩
    have named := beq_iff_eq.mp fits
    refine ⟨⟨after.reverse, before.reverse, ?_, fun other member same => ?_⟩, named⟩
    · rw [← List.reverse_reverse schema, split, List.reverse_append, List.reverse_cons, List.append_assoc]
      rfl
    · have differs := others other (List.mem_reverse.mp member)
      rw [same, named, beq_self_eq_true] at differs
      contradiction
  · rintro ⟨⟨earlier, later, rfl, others⟩, named⟩
    refine ⟨beq_iff_eq.mpr named, later.reverse, earlier.reverse, ?_, fun other member => ?_⟩
    · rw [List.reverse_append, List.reverse_cons, List.append_assoc]
      rfl
    · rw [Bool.not_eq_true', beq_eq_false_iff_ne, ← named]
      exact others other (List.mem_reverse.mp member)

theorem IsLast.named? (last : IsLast schema option) : RuleOption.named? schema option.name = some option :=
  named?_eq_some_iff.mpr ⟨last, rfl⟩

theorem type_of_coerce {offer : Offer} {value : Scalar} (accepted : option.coerce offer = some value) :
    value.type = option.type := by
  cases offer with
  | foreign => contradiction
  | scalar given =>
    simp only [coerce, Option.ite_none_right_eq_some, Option.some.injEq] at accepted
    obtain ⟨fits, rfl⟩ := accepted
    exact fits

theorem type_of_offered? {entry : String × Offer} {value : Scalar} (offered : option.offered? entry = some value) :
    value.type = option.type := by
  unfold offered? at offered
  split at offered
  next => exact type_of_coerce offered
  next => contradiction

end RuleOption

namespace Settings

open RuleOption (IsLast)

/-- Settings after a call: the very same ones if no entry sets a value. -/
def afterCall (settings : Settings) (entries : List (String × Offer)) : Settings :=
  (settings.configure entries).getD settings

def afterCalls (settings : Settings) (calls : List (List (String × Offer))) : Settings :=
  calls.foldl afterCall settings

/-- Whether an entry sets a value: its name means an option, which takes what is offered. -/
def Accepts (options : List RuleOption) (entry : String × Offer) : Prop :=
  ∃ option value, IsLast (schema options) option ∧ option.offered? entry = some value

/-- The value that an option starts with. -/
def initialValue (given : OrderedMap Scalar) (option : RuleOption) : Scalar :=
  (given.find? option.slot).getD option.default

/-- The last value that entries offer for an option. -/
def lastOffered? (option : RuleOption) (entries : List (String × Offer)) : Option Scalar :=
  (entries.filterMap option.offered?).getLast?

theorem accepted?_eq_none_iff {options : List RuleOption} {entry : String × Offer} :
    accepted? options entry = none ↔ ¬ Accepts options entry := by
  unfold accepted? Accepts RuleOption.offered?
  cases named : RuleOption.named? (schema options) entry.1 with
  | none =>
    refine iff_of_true rfl ?_
    rintro ⟨option, value, last, offered⟩
    split at offered
    next same => rw [RuleOption.named?_congr _ same, last.named?] at named; contradiction
    next => contradiction
  | some option =>
    obtain ⟨last, same⟩ := RuleOption.named?_eq_some_iff.mp named
    dsimp only
    rw [Option.map_eq_none_iff]
    constructor
    · rintro refused ⟨other, value, otherLast, offered⟩
      split at offered
      next otherSame =>
        rw [RuleOption.named?_congr _ otherSame, otherLast.named?] at named
        rw [Option.some.inj named, refused] at offered
        contradiction
      next => contradiction
    · intro idle
      cases accepted : option.coerce entry.2 with
      | none => rfl
      | some value => exact absurd ⟨option, value, last, by rw [if_pos same.symm, accepted]⟩ idle

section Calls
variable (settings : Settings) (entries : List (String × Offer)) (calls : List (List (String × Offer)))

/-- A call leaves the settings as they are exactly if none of its entries sets a value. -/
theorem configure_eq_none_iff :
    settings.configure entries = none ↔ ∀ entry ∈ entries, ¬ Accepts settings.options entry := by
  have idle : entries.filterMap (accepted? settings.options) = [] ↔
      ∀ entry ∈ entries, ¬ Accepts settings.options entry := by
    simp only [List.filterMap_eq_nil_iff, accepted?_eq_none_iff]
  rw [← idle]
  unfold configure
  split
  next nothing => exact iff_of_true rfl nothing
  next something => exact iff_of_false (by simp only [reduceCtorEq, not_false_eq_true]) something

theorem afterCall_eq :
    settings.afterCall entries = { settings with
      values := OrderedMap.insertAll ((entries.filterMap (accepted? settings.options)).map slotEntry)
        settings.values } := by
  unfold afterCall configure
  split
  next nothing => rw [nothing]; rfl
  next => rfl

/-- What a call gave can be given again. -/
theorem afterCall_again : (settings.afterCall entries).afterCall entries = settings.afterCall entries := by
  simp only [afterCall_eq, OrderedMap.insertAll_again]

/-- A chain of calls does what one call with all their entries does. -/
theorem afterCalls_eq_afterCall : settings.afterCalls calls = settings.afterCall calls.flatten := by
  induction calls generalizing settings with
  | nil => rw [List.flatten_nil, afterCall_eq]; rfl
  | cons call rest ih =>
    calc
      settings.afterCalls (call :: rest) = (settings.afterCall call).afterCall rest.flatten := ih _
      _ = settings.afterCall (call :: rest).flatten := by
        simp only [afterCall_eq, List.flatten_cons, List.filterMap_append, List.map_append, OrderedMap.insertAll,
          List.foldl_append]

end Calls

section Values
variable {options : List RuleOption} {option : RuleOption} {given : OrderedMap Scalar}
variable {calls : List (List (String × Offer))}

theorem options_afterCalls (settings : Settings) (calls : List (List (String × Offer))) :
    (settings.afterCalls calls).options = settings.options := by
  rw [afterCalls_eq_afterCall, afterCall_eq]

theorem values_afterCalls (settings : Settings) (calls : List (List (String × Offer))) :
    (settings.afterCalls calls).values =
      OrderedMap.insertAll ((calls.flatten.filterMap (accepted? settings.options)).map slotEntry)
        settings.values := by
  rw [afterCalls_eq_afterCall, afterCall_eq]

/-- Entries set the slots of options that are the last ones with their names. -/
theorem exists_last_of_mem_accepted {entries : List (String × Offer)} {change : String × Scalar}
    (member : change ∈ (entries.filterMap (accepted? options)).map slotEntry) :
    ∃ option, IsLast (schema options) option ∧ option ∈ schema options ∧ change.1 = option.slot := by
  obtain ⟨⟨option, value⟩, changed, rfl⟩ := List.mem_map.mp member
  obtain ⟨entry, -, accepted⟩ := List.mem_filterMap.mp changed
  unfold accepted? at accepted
  split at accepted
  next => contradiction
  next other named =>
    obtain ⟨_, -, same⟩ := Option.map_eq_some_iff.mp accepted
    cases same
    exact ⟨option, (RuleOption.named?_eq_some_iff.mp named).1, (RuleOption.mem_of_named? named).1, rfl⟩

variable (distinct : ((schema options).map RuleOption.slot).Nodup)
include distinct

theorem initial_values (given : OrderedMap Scalar) :
    (initial options given).values = (schema options).map fun option => (option.slot, initialValue given option) := by
  refine OrderedMap.ofPairs_of_nodup ?_
  rw [OrderedMap.keys, List.map_map]
  exact distinct

theorem find?_initial (declared : option ∈ schema options) :
    (initial options given).values.find? option.slot = some (initialValue given option) := by
  rw [initial_values distinct]
  refine OrderedMap.find?_of_mem ?_ (List.mem_map.mpr ⟨option, declared, rfl⟩)
  rw [OrderedMap.keys, List.map_map]
  exact distinct

theorem keys_afterCalls :
    OrderedMap.keys ((initial options given).afterCalls calls).values = (schema options).map RuleOption.slot := by
  have start : OrderedMap.keys (initial options given).values = (schema options).map RuleOption.slot := by
    rw [initial_values distinct, OrderedMap.keys, List.map_map]
    rfl
  rw [values_afterCalls, OrderedMap.keys_insertAll_of_known, start]
  intro change member
  obtain ⟨option, -, declared, slot⟩ := exists_last_of_mem_accepted member
  rw [start, slot]
  exact List.mem_map_of_mem declared

theorem find?_afterCalls_of_isLast (last : IsLast (schema options) option) :
    ((initial options given).afterCalls calls).values.find? option.slot =
      some ((lastOffered? option calls.flatten).getD (initialValue given option)) := by
  have declared := (RuleOption.mem_of_named? last.named?).1
  rw [values_afterCalls]
  refine (find?_insertAll_accepted distinct last.named? _ _).trans ?_
  rw [find?_initial distinct declared, lastOffered?]
  cases (calls.flatten.filterMap option.offered?).getLast? <;> rfl

theorem find?_afterCalls_of_shadowed (declared : option ∈ schema options)
    (shadowed : ¬ IsLast (schema options) option) :
    ((initial options given).afterCalls calls).values.find? option.slot = some (initialValue given option) := by
  have untouched : OrderedMap.last? option.slot
      ((calls.flatten.filterMap (accepted? options)).map slotEntry) = none := by
    rw [OrderedMap.last?, List.getLast?_eq_none_iff, List.filterMap_eq_nil_iff]
    intro change member
    obtain ⟨other, last, otherDeclared, slot⟩ := exists_last_of_mem_accepted member
    have different : change.1 ≠ option.slot := by
      intro same
      have meant := List.inj_on_of_nodup_map distinct otherDeclared declared (slot.symm.trans same)
      exact shadowed (meant ▸ last)
    rw [OrderedMap.valueAt?, if_neg different]
  rw [values_afterCalls, OrderedMap.find?_insertAll]
  exact (congrArg (Option.or · _) untouched).trans (find?_initial distinct declared)

/-- Values keep the types that their options declare. -/
theorem exists_typed_afterCalls (typed : ∀ option ∈ schema options, (initialValue given option).type = option.type)
    (declared : option ∈ schema options) :
    ∃ value, ((initial options given).afterCalls calls).values.find? option.slot = some value ∧
      value.type = option.type := by
  by_cases last : IsLast (schema options) option
  · refine ⟨_, find?_afterCalls_of_isLast distinct last, ?_⟩
    cases found : lastOffered? option calls.flatten with
    | none => exact typed option declared
    | some value =>
      obtain ⟨entry, -, offered⟩ := List.mem_filterMap.mp (List.mem_of_getLast? found)
      exact RuleOption.type_of_offered? offered
  · exact ⟨_, find?_afterCalls_of_shadowed distinct declared last, typed option declared⟩

end Values

/-- What the end of a chain gave can be given again. -/
theorem afterCalls_again (settings : Settings) (earlier again : List (List (String × Offer))) :
    (settings.afterCalls (earlier ++ again)).afterCalls again = settings.afterCalls (earlier ++ again) := by
  have split : settings.afterCalls (earlier ++ again) = (settings.afterCalls earlier).afterCall again.flatten := by
    rw [← afterCalls_eq_afterCall]
    exact List.foldl_append ..
  rw [split, afterCalls_eq_afterCall, afterCall_again]

/-- An entry that sets nothing can be put in or left out anywhere. -/
theorem afterCalls_insert_idle {settings : Settings} {entry : String × Offer}
    (idle : ¬ Accepts settings.options entry) (earlier later : List (List (String × Offer)))
    (before behind : List (String × Offer)) :
    settings.afterCalls (earlier ++ (before ++ entry :: behind) :: later) =
      settings.afterCalls (earlier ++ (before ++ behind) :: later) := by
  have passed := List.filterMap_cons_none (l := behind) (accepted?_eq_none_iff.mpr idle)
  simp only [afterCalls_eq_afterCall, afterCall_eq, List.flatten_append, List.flatten_cons,
    List.filterMap_append, passed]

/-- What a chain of configurations comes to, whatever the options and their initial values. -/
theorem afterCalls_last_words (options : List RuleOption) (given : OrderedMap Scalar)
    (calls : List (List (String × Offer))) (distinct : ((schema options).map RuleOption.slot).Nodup) :
    let settings := (initial options given).afterCalls calls
    OrderedMap.keys settings.values = (schema options).map RuleOption.slot ∧
    (∀ option, IsLast (schema options) option →
      settings.values.find? option.slot =
        some ((lastOffered? option calls.flatten).getD (initialValue given option))) ∧
    (∀ option ∈ schema options, ¬ IsLast (schema options) option →
      settings.values.find? option.slot = some (initialValue given option)) ∧
    (∀ entries, settings.configure entries = none ↔ ∀ entry ∈ entries, ¬ Accepts options entry) ∧
    ((∀ option ∈ schema options, (initialValue given option).type = option.type) →
      ∀ option ∈ schema options, ∃ value,
        settings.values.find? option.slot = some value ∧ value.type = option.type) ∧
    (∀ entry, ¬ Accepts options entry → ∀ earlier before behind later,
      calls = earlier ++ (before ++ entry :: behind) :: later →
        (initial options given).afterCalls (earlier ++ (before ++ behind) :: later) = settings) ∧
    (∀ earlier again, calls = earlier ++ again → settings.afterCalls again = settings) := by
  refine ⟨keys_afterCalls distinct, fun option last => find?_afterCalls_of_isLast distinct last,
    fun option declared shadowed => find?_afterCalls_of_shadowed distinct declared shadowed, fun entries => ?_,
    fun typed option declared => exists_typed_afterCalls distinct typed declared,
    ?_, ?_⟩
  · rw [configure_eq_none_iff, options_afterCalls]
    rfl
  · rintro entry idle earlier before behind later rfl
    exact (afterCalls_insert_idle idle earlier later before behind).symm
  · rintro earlier again rfl
    exact afterCalls_again _ earlier again

section Samples

/-- A length and a unit under one name. -/
def namesakes : List RuleOption :=
  [⟨"LineLength", .int, .int 120, "line_length"⟩, ⟨"LINELENGTH", .text, .text "x", "unit"⟩]

/-- Values that count as false, among others that are refused. -/
def falsyCalls : List (List (String × Offer)) :=
  [[("ENABLE", .scalar (.bool false)), ("linelength", .scalar (.int 0)), ("LineLength", .scalar (.text ""))],
    [("lineLENGTH", .foreign), ("Enable", .scalar (.int 1))]]

/-- The unit is emptied, the length behind it cannot be reached, and the second call does nothing. -/
theorem afterCalls_last_words_namesakes :
    let settings := (initial namesakes [("enable", .bool true), ("line_length", .int 80)]).afterCalls falsyCalls
    settings.values.find? "unit" = some (.text "") ∧ settings.values.find? "line_length" = some (.int 80) ∧
      settings.values.find? "enable" = some (.bool false) ∧ settings.configure falsyCalls[1] = none := by
  have distinct : ((schema namesakes).map RuleOption.slot).Nodup := by decide
  have isLast {option : RuleOption} (named : RuleOption.named? (schema namesakes) option.name = some option) :
      IsLast (schema namesakes) option := (RuleOption.named?_eq_some_iff.mp named).1
  obtain ⟨-, last, shadowed, unchanged, -⟩ :=
    afterCalls_last_words namesakes [("enable", .bool true), ("line_length", .int 80)] falsyCalls distinct
  refine ⟨(last ⟨"LINELENGTH", .text, .text "x", "unit"⟩ (isLast (by decide +kernel))).trans (by decide +kernel),
    shadowed ⟨"LineLength", .int, .int 120, "line_length"⟩ (by decide) fun reached => ?_,
    (last .enable (isLast (by decide +kernel))).trans (by decide +kernel),
    (unchanged _).mpr fun entry member => accepted?_eq_none_iff.mp ?_⟩
  · exact absurd reached.named? (by decide +kernel)
  · revert entry
    decide +kernel

end Samples

end Settings

end ScriptLint
