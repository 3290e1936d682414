import Mathlib.Data.List.TakeWhile
import ScriptLint.Proofs.OrderedMap
import ScriptLint.Proofs.Strings

/-! # From cultures to tables

Texts are shown in the culture that is asked for, or else in the preferred one, or else in `en-US`; the empty
name stands for none. A culture is shown from the table of its name, or else from the first one of its language,
or else from that of `en-US`. What this table lacks comes from that of `en-US`. A table that has neither the name
of a culture nor its language is never seen from it, and one that comes last is seen from it by its name or as the
only one of the language.
-/

namespace ScriptLint.Strings

open OrderedMap (keys)

/-- Whether texts are shown in a culture, given the one that a user prefers and the one that is asked for. -/
inductive IsRequested (preferred asked : Option String) : String → Prop where
  | asked {culture : String} (given : asked = some culture) (nonempty : culture ≠ "") :
    IsRequested preferred asked culture
  | preferred {culture : String} (unasked : asked = none ∨ asked = some "") (given : preferred = some culture)
    (nonempty : culture ≠ "") : IsRequested preferred asked culture
  | byDefault (unasked : asked = none ∨ asked = some "") (unset : preferred = none ∨ preferred = some "") :
    IsRequested preferred asked "en-US"

/-- Whether a text is the language of a culture: what stands before the first hyphen, in lower case. -/
def IsLanguageOf (name culture : String) : Prop :=
  ∃ front, '-' ∉ front ∧ (culture.toList = front ∨ ∃ rest, culture.toList = front ++ '-' :: rest) ∧
    name = Text.lower (String.ofList front)

def ShareLanguage (culture other : String) : Prop := ∃ name, IsLanguageOf name culture ∧ IsLanguageOf name other

/-- Whether no table has the name of a culture or its language. -/
def IsForeign (tables : OrderedMap StringTable) (culture : String) : Prop :=
  ∀ name ∈ keys tables, name ≠ culture ∧ ¬ ShareLanguage name culture

/-- Whether a culture is shown from a table. -/
inductive ResolvesTo (tables : OrderedMap StringTable) (culture : String) (table : StringTable) : Prop where
  /-- The table has the name of the culture. -/
  | named (member : (culture, table) ∈ tables)
  /-- No table has the name, and this is the first one of the language. -/
  | ofLanguage (front back : OrderedMap StringTable) (name : String) (unnamed : culture ∉ keys tables)
      (place : tables = front ++ (name, table) :: back) (own : ShareLanguage name culture)
      (first : ∀ other ∈ keys front, ¬ ShareLanguage other culture)
  /-- No table has the name or the language, and this is the one of `en-US`. -/
  | byDefault (foreign : IsForeign tables culture) (member : ("en-US", table) ∈ tables)

section Requested

theorem named?_eq_none_iff {asked : Option String} : named? asked = none ↔ asked = none ∨ asked = some "" := by
  cases asked with
  | none => exact iff_of_true rfl (.inl rfl)
  | some culture =>
    rw [named?, Option.some.injEq]
    split
    next empty => exact iff_of_true rfl (.inr empty)
    next given => exact iff_of_false (Option.some_ne_none _) (not_or.mpr ⟨Option.some_ne_none _, given⟩)

theorem named?_eq_some_iff {asked : Option String} {culture : String} :
    named? asked = some culture ↔ asked = some culture ∧ culture ≠ "" := by
  cases asked with
  | none => exact iff_of_false nofun fun both => nomatch both.1
  | some name =>
    rw [named?, Option.some.injEq]
    split
    next empty => exact iff_of_false nofun fun both => both.2 (both.1.symm.trans empty)
    next given =>
      rw [Option.some.injEq]
      exact ⟨fun same => ⟨same, same ▸ given⟩, And.left⟩

/-- There is one culture to show texts in. -/
theorem isRequested_iff (strings : Strings) (asked : Option String) {culture : String} :
    IsRequested strings.preferred asked culture ↔ culture = strings.requested asked := by
  have own : IsRequested strings.preferred asked (strings.requested asked) := by
    rw [requested]
    cases first : named? asked with
    | some name =>
      obtain ⟨given, nonempty⟩ := named?_eq_some_iff.mp first
      exact .asked given nonempty
    | none =>
      have unasked := named?_eq_none_iff.mp first
      rw [Option.getD_none, currentCulture]
      cases second : named? strings.preferred with
      | some name =>
        obtain ⟨given, nonempty⟩ := named?_eq_some_iff.mp second
        exact .preferred unasked given nonempty
      | none => exact .byDefault unasked (named?_eq_none_iff.mp second)
  refine ⟨fun shown => ?_, fun same => same ▸ own⟩
  rw [requested, currentCulture]
  cases shown with
  | asked given nonempty => rw [named?_eq_some_iff.mpr ⟨given, nonempty⟩, Option.getD_some]
  | preferred unasked given nonempty =>
    rw [named?_eq_none_iff.mpr unasked, Option.getD_none, named?_eq_some_iff.mpr ⟨given, nonempty⟩, Option.getD_some]
  | byDefault unasked unset =>
    rw [named?_eq_none_iff.mpr unasked, Option.getD_none, named?_eq_none_iff.mpr unset]
    rfl

theorem isLanguageOf_iff {name culture : String} : IsLanguageOf name culture ↔ name = language culture := by
  constructor
  · rintro ⟨front, whole, place, rfl⟩
    have kept : ∀ c ∈ front, decide (c ≠ '-') = true := fun c member => decide_eq_true fun same => whole (same ▸ member)
    rw [language]
    obtain same | ⟨rest, same⟩ := place
    · rw [same, List.takeWhile_eq_self_iff.mpr kept]
    · rw [same, List.takeWhile_append_of_pos kept, List.takeWhile_cons_of_neg (by simp), List.append_nil]
  · rintro rfl
    refine ⟨culture.toList.takeWhile (· ≠ '-'), ?_, ?_, rfl⟩
    · intro member
      have other := @List.mem_takeWhile_imp _ (fun c => decide (c ≠ '-')) _ _ member
      contradiction
    · have parts : _ ++ culture.toList.dropWhile (· ≠ '-') = culture.toList := List.takeWhile_append_dropWhile
      cases behind : culture.toList.dropWhile (· ≠ '-') with
      | nil =>
        rw [behind, List.append_nil] at parts
        exact .inl parts.symm
      | cons c rest =>
        have hyphen := List.head?_dropWhile_not (fun c : Char => decide (c ≠ '-')) culture.toList
        rw [behind] at parts hyphen
        obtain rfl : c = '-' := by simpa using hyphen
        exact .inr ⟨rest, parts.symm⟩

theorem shareLanguage_iff {culture other : String} :
    ShareLanguage culture other ↔ language culture = language other := by
  simp only [ShareLanguage, isLanguageOf_iff, exists_eq_left]

instance (culture other : String) : Decidable (ShareLanguage culture other) :=
  decidable_of_iff _ shareLanguage_iff.symm

instance (tables : OrderedMap StringTable) (culture : String) : Decidable (IsForeign tables culture) :=
  inferInstanceAs (Decidable (∀ name ∈ keys tables, _ ∧ _))

end Requested

section Language
variable {name : String} {tables : OrderedMap StringTable}

theorem tableOfLanguage?_append (front back : OrderedMap StringTable) :
    tableOfLanguage? name (front ++ back) = (tableOfLanguage? name front).or (tableOfLanguage? name back) := by
  induction front with
  | nil => rfl
  | cons entry rest ih =>
    rw [List.cons_append, tableOfLanguage?, tableOfLanguage?, ih]
    split <;> rfl

theorem tableOfLanguage?_eq_none_iff :
    tableOfLanguage? name tables = none ↔ ∀ other ∈ keys tables, language other ≠ name := by
  induction tables with
  | nil => exact iff_of_true rfl fun _ member => absurd member List.not_mem_nil
  | cons entry rest ih =>
    rw [tableOfLanguage?, keys, List.map_cons, List.forall_mem_cons, ← keys, ← ih]
    split
    next same => exact iff_of_false (Option.some_ne_none _) fun others => others.1 same
    next other => exact ⟨fun nothing => ⟨other, nothing⟩, And.right⟩

/-- The table of a language is the first one that has it. -/
theorem exists_place_of_tableOfLanguage? {table : StringTable} (found : tableOfLanguage? name tables = some table) :
    ∃ front back culture, tables = front ++ (culture, table) :: back ∧ language culture = name ∧
      ∀ other ∈ keys front, language other ≠ name := by
  induction tables with
  | nil => contradiction
  | cons entry rest ih =>
    rw [tableOfLanguage?] at found
    split at found
    next own =>
      obtain rfl := Option.some.inj found
      exact ⟨[], rest, entry.1, rfl, own, fun _ member => absurd member List.not_mem_nil⟩
    next other =>
      obtain ⟨front, back, culture, rfl, own, first⟩ := ih found
      exact ⟨entry :: front, back, culture, rfl, own, List.forall_mem_cons.mpr ⟨other, first⟩⟩

theorem tableOfLanguage?_place {table : StringTable} {culture : String} {front back : OrderedMap StringTable}
    (own : language culture = name) (first : ∀ other ∈ keys front, language other ≠ name) :
    tableOfLanguage? name (front ++ (culture, table) :: back) = some table := by
  rw [tableOfLanguage?_append, tableOfLanguage?_eq_none_iff.mpr first, tableOfLanguage?, if_pos own, Option.none_or]

end Language

section Tables
variable {strings : Strings} {culture : String}

theorem isForeign_iff {tables : OrderedMap StringTable} :
    IsForeign tables culture ↔ ∀ name ∈ keys tables, language name ≠ language culture :=
  forall₂_congr fun _ _ => by
    rw [shareLanguage_iff]
    exact and_iff_right_of_imp fun other same => other (congrArg language same)

theorem table?_eq (strings : Strings) (culture : String) :
    strings.table? culture =
      (strings.tables.find? culture).or (tableOfLanguage? (language culture) strings.tables) := by
  rw [table?]
  cases strings.tables.find? culture <;> rfl

theorem table?_eq_none_iff : strings.table? culture = none ↔ IsForeign strings.tables culture := by
  rw [table?_eq, Option.or_eq_none_iff, tableOfLanguage?_eq_none_iff, ← isForeign_iff]
  refine ⟨And.right, fun foreign => ⟨OrderedMap.find?_of_not_mem ?_, foreign⟩⟩
  exact fun member => (foreign culture member).1 rfl

/-- Every culture resolves to exactly one table. -/
theorem resolvesTo_iff {base table : StringTable} (held : (defaultCulture, base) ∈ strings.tables)
    (distinct : (keys strings.tables).Nodup) :
    ResolvesTo strings.tables culture table ↔ table = (strings.table? culture).getD strings.defaultTable := by
  have default : strings.defaultTable = base := by
    rw [defaultTable, OrderedMap.find?_of_mem distinct held, Option.getD_some]
  constructor
  · intro resolves
    cases resolves with
    | named member => rw [table?_eq, OrderedMap.find?_of_mem distinct member, Option.some_or, Option.getD_some]
    | ofLanguage front back name unnamed place own first =>
      rw [shareLanguage_iff] at own
      simp only [shareLanguage_iff] at first
      rw [table?_eq, OrderedMap.find?_of_not_mem unnamed, place, tableOfLanguage?_place own first, Option.none_or,
        Option.getD_some]
    | byDefault foreign member =>
      rw [table?_eq_none_iff.mpr foreign, Option.getD_none, defaultTable]
      exact (congrArg (Option.getD · []) (OrderedMap.find?_of_mem distinct member)).symm
  · rintro rfl
    cases found : strings.table? culture with
    | none =>
      rw [Option.getD_none, default]
      exact .byDefault (table?_eq_none_iff.mp found) held
    | some table =>
      rw [table?_eq, Option.or_eq_some_iff] at found
      obtain named | ⟨unnamed, shared⟩ := found
      · exact .named (OrderedMap.mem_of_find? named)
      · obtain ⟨front, back, name, place, own, first⟩ := exists_place_of_tableOfLanguage? shared
        rw [← shareLanguage_iff] at own
        have first (other : String) (member : other ∈ keys front) : ¬ ShareLanguage other culture :=
          mt shareLanguage_iff.mp (first other member)
        refine .ofLanguage front back name (fun member => ?_) place own first
        obtain ⟨entry, present, rfl⟩ := List.mem_map.mp member
        rw [OrderedMap.find?_of_mem distinct present] at unnamed
        contradiction

end Tables

section Answer
variable {strings : Strings} {key : String} {arguments : List Text.Template.Argument} {asked : Option String}

theorem answer_eq_unknown_iff {template? : Option String} :
    answer key arguments template? = .error (.unknownText key) ↔ template? = none := by
  cases template? with
  | none => exact iff_of_true rfl rfl
  | some template =>
    refine iff_of_false ?_ (Option.some_ne_none _)
    rw [answer_eq_error_iff]
    rintro ⟨fault, -, same⟩
    contradiction

/-- A look-up fails with the class of unknown keys for an unknown key or for a template with a named field. -/
theorem className_of_lookup_eq_error {cause : Failure}
    (failed : (strings.lookup key arguments asked).result = .error cause) :
    cause.className = "KeyError" ↔ cause = .unknownText key ∨ ∃ name, cause = .template (.unknownName name) := by
  rw [result_lookup] at failed
  cases found : strings.template? (strings.requested asked) key with
  | none =>
    rw [found] at failed
    obtain rfl := Except.error.inj failed
    exact iff_of_true rfl (.inl rfl)
  | some template =>
    rw [found] at failed
    obtain ⟨fault, -, rfl⟩ := answer_eq_error_iff.mp failed
    cases fault <;> simp [Failure.className, Text.Template.Fault.className]

theorem log_lookup_of_isForeign (foreign : IsForeign strings.tables (strings.requested asked)) :
    (strings.lookup key arguments asked).log = [.cultureUnknown (strings.requested asked)] := by
  rw [log_lookup, if_pos (table?_eq_none_iff.mpr foreign)]

theorem log_lookup_of_not_isForeign (known : ¬ IsForeign strings.tables (strings.requested asked)) :
    (strings.lookup key arguments asked).log = [] := by
  rw [log_lookup, if_neg (mt table?_eq_none_iff.mp known)]

end Answer

/-- Whether two collections of tables show the same for a key, from the same template. -/
def ShowSame (strings other : Strings) (key : String) (arguments : List Text.Template.Argument)
    (asked : Option String) : Prop :=
  other.template? (strings.requested asked) key = strings.template? (strings.requested asked) key ∧
    other.lookup key arguments asked = strings.lookup key arguments asked

section Insertion
variable {strings other : Strings} {culture name : String} {asked : Option String}

theorem showSame_of_table? (preferred : other.preferred = strings.preferred)
    (table : other.table? (strings.requested asked) = strings.table? (strings.requested asked))
    (default : other.defaultTable = strings.defaultTable) (key : String)
    (arguments : List Text.Template.Argument) : ShowSame strings other key arguments asked := by
  have requested : other.requested asked = strings.requested asked := by
    rw [Strings.requested, Strings.requested, currentCulture, currentCulture, preferred]
  refine ⟨by rw [template?, template?, table, default], ?_⟩
  rw [lookup_eq, lookup_eq, requested, resolve, resolve, table, default]

/-- A table of another language is not seen. -/
theorem table?_insert_of_language_ne (elsewhere : language name ≠ language culture) (extra : StringTable)
    (front back : OrderedMap StringTable) :
    table? { strings with tables := front ++ (name, extra) :: back } culture =
      table? { strings with tables := front ++ back } culture := by
  have different : name ≠ culture := fun same => elsewhere (congrArg language same)
  simp only [table?_eq, OrderedMap.find?_append, tableOfLanguage?_append, OrderedMap.find?, tableOfLanguage?,
    if_neg different, if_neg elsewhere]

/-- A table that comes last under another name is not seen if some table is seen without it. -/
theorem table?_append_of_not_isForeign (known : ¬ IsForeign strings.tables culture) (different : name ≠ culture)
    (extra : StringTable) :
    table? { strings with tables := strings.tables ++ [(name, extra)] } culture = strings.table? culture := by
  obtain ⟨table, found⟩ := Option.ne_none_iff_exists'.mp (mt table?_eq_none_iff.mp known)
  have unseen : OrderedMap.find? culture [(name, extra)] = none := if_neg different
  rw [found]
  rw [table?_eq] at found
  rw [table?_eq, OrderedMap.find?_append, tableOfLanguage?_append, unseen, Option.or_none, ← Option.or_assoc, found,
    Option.some_or]

end Insertion

section FromDefault
variable {strings : Strings} {base : StringTable} {rest : OrderedMap StringTable}
  (start : strings.tables = (defaultCulture, base) :: rest)
include start

theorem defaultTable_of_start : strings.defaultTable = base := by
  rw [defaultTable, start, OrderedMap.find?, if_pos rfl, Option.getD_some]

theorem showSame_withTables {name : String} (new : name ∉ keys strings.tables) {asked : Option String}
    (other : name ≠ strings.requested asked)
    (unseen : IsForeign strings.tables (strings.requested asked) →
      language name ≠ language (strings.requested asked))
    (extra : StringTable) (key : String) (arguments : List Text.Template.Argument) :
    ShowSame strings (strings.withTables [(name, extra)]) key arguments asked := by
  have last : strings.withTables [(name, extra)] = { strings with tables := strings.tables ++ [(name, extra)] } :=
    congrArg (fun tables => { strings with tables }) (OrderedMap.insert_of_not_mem extra new)
  have default :
      defaultTable { strings with tables := strings.tables ++ [(name, extra)] } = strings.defaultTable := by
    rw [defaultTable_of_start start, defaultTable, start, List.cons_append, OrderedMap.find?, if_pos rfl,
      Option.getD_some]
  rw [last]
  refine showSame_of_table? ?_ ?_ default key arguments
  · rfl
  · by_cases foreign : IsForeign strings.tables (strings.requested asked)
    · rw [table?_insert_of_language_ne (unseen foreign), List.append_nil]
    · exact table?_append_of_not_isForeign foreign other extra

theorem showSame_insert {front back : OrderedMap StringTable} (cut : rest = front ++ back) {name : String}
    {asked : Option String} (elsewhere : language name ≠ language (strings.requested asked)) (extra : StringTable)
    (key : String) (arguments : List Text.Template.Argument) :
    ShowSame strings { strings with tables := (defaultCulture, base) :: (front ++ (name, extra) :: back) } key
      arguments asked := by
  have default : defaultTable { strings with tables := (defaultCulture, base) :: (front ++ (name, extra) :: back) } =
      strings.defaultTable := by
    rw [defaultTable_of_start start, defaultTable, OrderedMap.find?, if_pos rfl, Option.getD_some]
  refine showSame_of_table? ?_ ?_ default key arguments
  · rfl
  · rw [← List.cons_append, table?_insert_of_language_ne elsewhere, List.cons_append, ← cut, ← start]

end FromDefault

/-- A table of `en-US` and a partial one of German, for a reader of German elsewhere. -/
def partialSample : Strings where
  tables := [("en-US", [("Sample", "sample"), ("Base", "base")]), ("DE-at", [("Sample", "Muster")])]
  preferred := some "de-DE"

end ScriptLint.Strings
