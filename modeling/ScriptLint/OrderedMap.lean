/-! # Ordered maps

An ordered map is a list of entries in the order in which their keys first came. Giving a key a new
value leaves it in its place. Keys are pairwise distinct in every map that is built by `insert`
from the empty one.
-/

namespace ScriptLint

/-- Entries in the order in which their keys first came. -/
abbrev OrderedMap (α : Type) : Type := List (String × α)

namespace OrderedMap

variable {α : Type}

def find? (key : String) : OrderedMap α → Option α
  | [] => none
  | (other, value) :: rest => if other = key then some value else find? key rest

/-- Give a key a value, in its place if it has one and at the end otherwise. -/
def insert (key : String) (value : α) : OrderedMap α → OrderedMap α
  | [] => [(key, value)]
  | (other, old) :: rest =>
    if other = key then (key, value) :: rest else (other, old) :: insert key value rest

def insertAll (entries : List (String × α)) (map : OrderedMap α) : OrderedMap α :=
  entries.foldl (fun map entry => insert entry.1 entry.2 map) map

/-- The map of a list of pairs: a repeated key keeps its first place and its last value. -/
def ofPairs (entries : List (String × α)) : OrderedMap α :=
  insertAll entries []

def keys (map : OrderedMap α) : List String :=
  map.map (·.1)

theorem find?_insert_self (key : String) (value : α) (map : OrderedMap α) :
    find? key (insert key value map) = some value := by
  induction map with
  | nil => simp [insert, find?]
  | cons entry rest hyp =>
    obtain ⟨other, old⟩ := entry
    by_cases same : other = key <;> simp [insert, find?, same, hyp]

theorem find?_insert_of_ne {key other : String} (different : other ≠ key) (value : α)
    (map : OrderedMap α) : find? key (insert other value map) = find? key map := by
  induction map with
  | nil => simp [insert, find?, different]
  | cons entry rest hyp =>
    obtain ⟨first, old⟩ := entry
    by_cases same : first = other
    · simp [insert, find?, same, different]
    · simp only [insert, same, if_false, find?, hyp]

/-- A key that is present keeps its place, a new one comes last. -/
theorem keys_insert (key : String) (value : α) (map : OrderedMap α) :
    keys (insert key value map) = if key ∈ keys map then keys map else keys map ++ [key] := by
  induction map with
  | nil => simp [insert, keys]
  | cons entry rest hyp =>
    obtain ⟨other, old⟩ := entry
    by_cases same : other = key
    · simp [insert, keys, same]
    · have step : (insert key value rest).map (·.1) =
          if key ∈ rest.map (·.1) then rest.map (·.1) else rest.map (·.1) ++ [key] := hyp
      by_cases member : key ∈ rest.map (·.1) <;>
        simp_all [insert, keys, Ne.symm (a := other) (b := key)]

end OrderedMap

end ScriptLint
