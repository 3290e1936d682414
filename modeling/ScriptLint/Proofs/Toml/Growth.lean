import ScriptLint.Proofs.OrderedMap
import ScriptLint.Toml.Parser

/-! # Drafts that grow at their end

A definition of a new key puts an entry at the end of its table, and so does a definition below a table
that is not there yet. Where that table is the last entry, it changes in its place.
-/

namespace ScriptLint.Toml

namespace Table

variable {key : String} {table front : Table} {action : Table → Except Fault Table} {path : List String}

theorem define_new (value : Value) (new : key ∉ OrderedMap.keys table) :
    define key value table = .ok (table ++ [(key, value)]) := by
  rw [define, OrderedMap.find?_of_not_mem new, OrderedMap.insert_of_not_mem value new]

theorem change_new (new : key ∉ OrderedMap.keys table) {inner : Table}
    (changed : change true action path [] = .ok inner) :
    change true action (key :: path) table = .ok (table ++ [(key, .table inner)]) := by
  rw [change, OrderedMap.find?_of_not_mem new, changed, ← OrderedMap.insert_of_not_mem _ new]
  rfl

theorem change_last (new : key ∉ OrderedMap.keys front) {old inner : Table}
    (changed : change true action path old = .ok inner) :
    change true action (key :: path) (front ++ [(key, .table old)]) = .ok (front ++ [(key, .table inner)]) := by
  have present : (front ++ [(key, Value.table old)]).find? key = some (.table old) := OrderedMap.find?_last new _
  have placed : (front ++ [(key, Value.table old)]).insert key (.table inner) = front ++ [(key, .table inner)] :=
    OrderedMap.insert_last new _ _
  rw [change, present, ← placed]
  show (change true action path old).bind _ = _
  rw [changed]
  rfl

theorem change_only {old inner : Table} (changed : change true action path old = .ok inner) :
    change true action (key :: path) [(key, .table old)] = .ok [(key, .table inner)] :=
  @change_last key [] action path List.not_mem_nil old inner changed

end Table

namespace Draft

variable {draft : Draft} {name : String} {value : Value} {path : KeyPath} {root : Table}

/-- A key of one part changes the table of its section. -/
theorem define_single (unfrozen : draft.scope.isFrozen draft.current = false)
    (changed : Table.change true (Table.define name value) draft.current draft.root = .ok root) :
    draft.define [name] value =
      .ok ⟨root, if value.isClosed then draft.scope.freeze (draft.current ++ [name]) else draft.scope,
        draft.current⟩ := by
  have current : draft.current ++ [name].dropLast = draft.current := List.append_nil _
  unfold define
  rw [current, unfrozen]
  show (Table.change true (Table.define name value) draft.current draft.root).bind _ = _
  rw [changed]
  rfl

theorem openTable_new (undeclared : draft.scope.settle.isDeclared path = false)
    (unfrozen : draft.scope.isFrozen path = false) (changed : Table.change true .ok path draft.root = .ok root) :
    draft.openTable path = .ok ⟨root, draft.scope.settle.declare path, path⟩ := by
  have unfrozen : draft.scope.settle.isFrozen path = false := unfrozen
  simp only [openTable, undeclared, unfrozen, changed]
  rfl

end Draft

end ScriptLint.Toml
