import ScriptLint.Toml.Value

/-! # Defining entries along a path

A document defines its tables piecemeal. `Table.change` works on the table at the end of a path of
keys and creates the tables on the way that do not exist yet. A path may lead through an array of
tables, whose last table it then means.
-/

namespace ScriptLint.Toml

namespace Table

/-- Change the table at the end of a path. A value on the way that is no table is an error; an array
counts as its last item if `throughArrays` is set. -/
def change (throughArrays : Bool) (action : Table → Except Fault Table) :
    List String → Table → Except Fault Table
  | [], table => action table
  | key :: path, table =>
    match table.find? key with
    | none => do
      let inner ← change throughArrays action path []
      return table.insert key (.table inner)
    | some (.table inner) => do
      let inner ← change throughArrays action path inner
      return table.insert key (.table inner)
    | some (.array items) =>
      if throughArrays then
        match items.getLast? with
        | some (.table inner) => do
          let inner ← change throughArrays action path inner
          return table.insert key (.array (items.dropLast ++ [.table inner]))
        | _ => .error .malformed
      else .error .malformed
    | some _ => .error .malformed

/-- Define a key that is not defined yet. -/
def define (key : String) (value : Value) (table : Table) : Except Fault Table :=
  match table.find? key with
  | none => .ok (table.insert key value)
  | some _ => .error .malformed

/-- Append an empty table to the array of a key, which is created if need be. -/
def appendTo (key : String) (table : Table) : Except Fault Table :=
  match table.find? key with
  | none => .ok (table.insert key (.array [.table []]))
  | some (.array items) => .ok (table.insert key (.array (items ++ [.table []])))
  | some _ => .error .malformed

end Table

end ScriptLint.Toml
