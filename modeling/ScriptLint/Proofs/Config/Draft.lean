import ScriptLint.Proofs.Config.Shape
import ScriptLint.Proofs.Toml.Growth

/-! # Drafts of configuration files

A document that first has lists of names in its section and then tables of rules can always go on with
another list, another table or another option value, as long as its name is new there. Nothing that was
defined before gets in the way.
-/

namespace ScriptLint.Config

open Toml (Table Value KeyPath Draft)

def sectionPath : KeyPath := ["tool", "pslint"]

def rulePath (name : String) : KeyPath := ["tool", "pslint", "rules", name]

/-- A document that has a section and nothing else. -/
def underSection (entries : Table) : Table := [("tool", .table [("pslint", .table entries)])]

/-- The entry of a section for the tables of rules. There is none until the first table. -/
def rulesEntry : Table → Table
  | [] => []
  | rules => [("rules", .table rules)]

theorem rulesEntry_concat (rules : Table) (rule : String × Value) :
    rulesEntry (rules ++ [rule]) = [("rules", .table (rules ++ [rule]))] := by
  cases rules <;> rfl

def tableOf (values : OptionValues) : Table := values.map fun entry => (entry.1, valueOf entry.2)

def tablesOf (rules : OrderedMap OptionValues) : Table := rules.map fun rule => (rule.1, .table (tableOf rule.2))

theorem keys_tableOf (values : OptionValues) : OrderedMap.keys (tableOf values) = OrderedMap.keys values := by
  rw [OrderedMap.keys, tableOf, List.map_map]
  rfl

theorem keys_tablesOf (rules : OrderedMap OptionValues) :
    OrderedMap.keys (tablesOf rules) = OrderedMap.keys rules := by
  rw [OrderedMap.keys, tablesOf, List.map_map]
  rfl

/-- Whether a draft has lists of names and tables of rules in its section, and nothing else. -/
structure Holds (draft : Draft) (lists rules : Table) : Prop where
  root : draft.root = underSection (lists ++ rulesEntry rules)
  pending : draft.scope.pending = []
  frozen : ∀ path ∈ draft.scope.frozen, ∃ name, name ≠ "rules" ∧ path = ["tool", "pslint", name]
  declared : ∀ path ∈ draft.scope.declared, path = sectionPath ∨ ∃ name ∈ OrderedMap.keys rules, path = rulePath name

theorem change_underSection {action : Table → Except Toml.Fault Table} {path : List String} {entries inner : Table}
    (changed : Table.change true action path entries = .ok inner) :
    Table.change true action ("tool" :: "pslint" :: path) (underSection entries) = .ok (underSection inner) :=
  Table.change_only (Table.change_only changed)

namespace Holds

variable {draft : Draft} {lists rules : Table} (holds : Holds draft lists rules)
include holds

theorem isFrozen_sectionPath : draft.scope.isFrozen sectionPath = false := by
  rw [Toml.Scope.isFrozen, List.any_eq_false]
  intro path member
  obtain ⟨name, -, rfl⟩ := holds.frozen path member
  rw [Bool.not_eq_true]
  rfl

theorem isFrozen_rulePath (name : String) : draft.scope.isFrozen (rulePath name) = false := by
  rw [Toml.Scope.isFrozen, List.any_eq_false]
  intro path member
  obtain ⟨other, different, rfl⟩ := holds.frozen path member
  have apart : (other == "rules") = false := beq_eq_false_iff_ne.mpr different
  rw [Bool.not_eq_true]
  show ("tool" == "tool" && ("pslint" == "pslint" && (other == "rules" && true))) = false
  rw [apart]
  rfl

theorem isDeclared_rulePath {name : String} (new : name ∉ OrderedMap.keys rules) :
    draft.scope.settle.isDeclared (rulePath name) = false := by
  rw [Toml.Scope.isDeclared, Toml.Scope.settle, holds.pending, List.nil_append, List.contains_eq_mem,
    decide_eq_false_iff_not]
  intro member
  rcases holds.declared _ member with same | ⟨other, known, same⟩
  · cases same
  · cases same
    exact new known

/-- A list of names comes after the lists before it. -/
theorem define_names (without : rules = []) (current : draft.current = sectionPath) {name : String}
    (new : name ∉ OrderedMap.keys lists) (other : name ≠ "rules") (names : List String) :
    ∃ next, draft.define [name] (listOf names) = .ok next ∧ Holds next (lists ++ [(name, listOf names)]) [] ∧
      next.current = sectionPath := by
  subst without
  have changed : Table.change true (Table.define name (listOf names)) draft.current draft.root =
      .ok (underSection (lists ++ [(name, listOf names)])) := by
    rw [current, holds.root, rulesEntry, List.append_nil]
    exact change_underSection (Table.define_new _ new)
  refine ⟨_, Draft.define_single (current ▸ holds.isFrozen_sectionPath) changed, ⟨?_, holds.pending, ?_, ?_⟩, current⟩
  · rw [rulesEntry, List.append_nil]
  · intro path member
    rcases List.mem_cons.mp member with rfl | old
    · exact ⟨name, other, by rw [current]; rfl⟩
    · exact holds.frozen path old
  · exact holds.declared

end Holds

section Rules
variable {draft : Draft} {lists rules : Table} {name : String}
variable (apart : "rules" ∉ OrderedMap.keys lists) (new : name ∉ OrderedMap.keys rules)
include apart new

/-- A new table comes after the tables before it. -/
theorem Holds.openTable_rule (holds : Holds draft lists rules) :
    ∃ next, draft.openTable (rulePath name) = .ok next ∧ Holds next lists (rules ++ [(name, .table [])]) ∧
      next.current = rulePath name := by
  have changed : Table.change true .ok (rulePath name) draft.root =
      .ok (underSection (lists ++ rulesEntry (rules ++ [(name, .table [])]))) := by
    rw [holds.root, rulesEntry_concat]
    apply change_underSection
    cases rules with
    | nil =>
      rw [rulesEntry, List.append_nil]
      exact Table.change_new apart (Table.change_new List.not_mem_nil rfl)
    | cons first others => exact Table.change_last apart (Table.change_new new rfl)
  refine ⟨_, Draft.openTable_new (holds.isDeclared_rulePath new) (holds.isFrozen_rulePath name) changed,
    ⟨rfl, rfl, holds.frozen, ?_⟩, rfl⟩
  intro path member
  have known : path ∈ rulePath name :: (draft.scope.pending ++ draft.scope.declared) := member
  rw [holds.pending, List.nil_append] at known
  rw [OrderedMap.keys, List.map_append]
  rcases List.mem_cons.mp known with rfl | old
  · exact .inr ⟨name, List.mem_append_right _ (List.mem_singleton.mpr rfl), rfl⟩
  · refine (holds.declared path old).imp_right ?_
    rintro ⟨other, listed, same⟩
    exact ⟨other, List.mem_append_left _ listed, same⟩

/-- A new option value comes after the values before it. -/
theorem Holds.define_option {values : Table} (holds : Holds draft lists (rules ++ [(name, .table values)]))
    (current : draft.current = rulePath name) {key : String} (fresh : key ∉ OrderedMap.keys values) {value : Value}
    (single : value.isClosed = false) :
    ∃ next, draft.define [key] value = .ok next ∧
      Holds next lists (rules ++ [(name, .table (values ++ [(key, value)]))]) ∧ next.current = rulePath name := by
  have changed : Table.change true (Table.define key value) draft.current draft.root =
      .ok (underSection (lists ++ rulesEntry (rules ++ [(name, .table (values ++ [(key, value)]))]))) := by
    rw [current, holds.root, rulesEntry_concat, rulesEntry_concat]
    exact change_underSection (Table.change_last apart (Table.change_last new (Table.define_new value fresh)))
  have defined := Draft.define_single (current ▸ holds.isFrozen_rulePath name) changed
  rw [single] at defined
  refine ⟨_, defined, ⟨rfl, holds.pending, holds.frozen, fun path member => ?_⟩, current⟩
  have declared := holds.declared path member
  rwa [OrderedMap.keys, List.map_append] at declared ⊢

end Rules

/-- The document with the section and nothing in it. -/
def opened : Draft := ⟨underSection [], Toml.Scope.declare {} sectionPath, sectionPath⟩

theorem holds_opened : Holds opened [] [] where
  root := rfl
  pending := rfl
  frozen _ member := absurd member List.not_mem_nil
  declared _ member := .inl (List.mem_singleton.mp member)

end ScriptLint.Config
