import ScriptLint.OrderedMap

/-! # Last entries and places of entries

A map that is built by insertions holds the last value that each key was given, and giving the same values
again changes nothing. Where a map is read as a list of entries, an insertion puts its entry in the place of
the old one, so that the entries that came after the old one still come after it.
-/

namespace ScriptLint.OrderedMap

variable {α β : Type}

def valueAt? (key : String) (entry : String × α) : Option α :=
  if entry.1 = key then some entry.2 else none

/-- The last value that entries have for a key. -/
def last? (key : String) (entries : List (String × α)) : Option α :=
  (entries.filterMap (valueAt? key)).getLast?

theorem last?_cons (key : String) (entry : String × α) (rest : List (String × α)) :
    last? key (entry :: rest) = (last? key rest).or (valueAt? key entry) := by
  unfold last?
  cases value : valueAt? key entry with
  | none => rw [List.filterMap_cons_none value, Option.or_none]
  | some found =>
    rw [List.filterMap_cons_some value, List.getLast?_cons]
    cases (rest.filterMap (valueAt? key)).getLast? <;> rfl

theorem find?_insert (key : String) (entry : String × α) (map : OrderedMap α) :
    find? key (insert entry.1 entry.2 map) = (valueAt? key entry).or (find? key map) := by
  by_cases same : entry.1 = key
  · simp only [valueAt?, same, ↓reduceIte, find?_insert_self, Option.some_or]
  · simp only [valueAt?, same, ↓reduceIte, find?_insert_of_ne same, Option.none_or]

/-- After insertions a key has the last value that it was given, or else the one it had before. -/
theorem find?_insertAll (key : String) (entries : List (String × α)) (map : OrderedMap α) :
    find? key (insertAll entries map) = (last? key entries).or (find? key map) := by
  induction entries generalizing map with
  | nil => rfl
  | cons entry rest ih =>
    calc
      find? key (insertAll (entry :: rest) map)
        = (last? key rest).or (find? key (insert entry.1 entry.2 map)) := ih _
      _ = (last? key (entry :: rest)).or (find? key map) := by
        rw [find?_insert, last?_cons, Option.or_assoc]

theorem find?_ofPairs (key : String) (entries : List (String × α)) :
    find? key (ofPairs entries) = last? key entries := by
  rw [ofPairs, find?_insertAll, find?, Option.or_none]

theorem find?_of_mem {key : String} {value : α} {map : OrderedMap α} (distinct : (keys map).Nodup)
    (member : (key, value) ∈ map) : find? key map = some value := by
  induction map with
  | nil => exact absurd member List.not_mem_nil
  | cons entry rest ih =>
    obtain ⟨new, others⟩ := List.nodup_cons.mp distinct
    rcases List.mem_cons.mp member with rfl | member
    · simp only [find?, ↓reduceIte]
    · have different : entry.1 ≠ key := by
        intro same
        exact new (List.mem_map.mpr ⟨_, member, same.symm⟩)
      simp only [find?, different, ↓reduceIte]
      exact ih others member

theorem mem_of_find? {key : String} {value : α} {map : OrderedMap α} (held : find? key map = some value) :
    (key, value) ∈ map := by
  induction map with
  | nil => contradiction
  | cons entry rest ih =>
    rw [find?] at held
    split at held
    next same =>
      obtain rfl := same
      obtain rfl := Option.some.inj held
      exact List.mem_cons_self ..
    next => exact List.mem_cons_of_mem _ (ih held)

theorem find?_append (key : String) (front back : OrderedMap α) :
    find? key (front ++ back) = (find? key front).or (find? key back) := by
  induction front with
  | nil => rfl
  | cons entry rest ih =>
    rw [List.cons_append, find?, find?, ih]
    split <;> rfl

theorem nodup_keys_ofPairs (entries : List (String × α)) : (keys (ofPairs entries)).Nodup := by
  have kept (map : OrderedMap α) (distinct : (keys map).Nodup) : (keys (insertAll entries map)).Nodup := by
    induction entries generalizing map with
    | nil => exact distinct
    | cons entry rest ih =>
      refine ih _ ?_
      rw [keys_insert]
      split
      · exact distinct
      next new =>
        refine List.nodup_append.mpr ⟨distinct, List.nodup_cons.mpr ⟨List.not_mem_nil, List.nodup_nil⟩, ?_⟩
        intro first known last added same
        exact new (List.mem_singleton.mp added ▸ same ▸ known)
  exact kept [] List.nodup_nil

theorem keys_insertAll_of_known {entries : List (String × α)} {map : OrderedMap α}
    (known : ∀ entry ∈ entries, entry.1 ∈ keys map) : keys (insertAll entries map) = keys map := by
  induction entries generalizing map with
  | nil => rfl
  | cons entry rest ih =>
    have unchanged : keys (insert entry.1 entry.2 map) = keys map := by
      rw [keys_insert, if_pos (known entry (List.mem_cons_self ..))]
    calc
      keys (insertAll (entry :: rest) map) = keys (insert entry.1 entry.2 map) :=
        ih fun other member => unchanged ▸ known other (List.mem_cons_of_mem _ member)
      _ = keys map := unchanged

theorem find?_of_not_mem {key : String} {map : OrderedMap α} (new : key ∉ keys map) : find? key map = none := by
  induction map with
  | nil => rfl
  | cons entry rest ih =>
    have different : entry.1 ≠ key := fun same => new (same ▸ List.mem_cons_self ..)
    exact (if_neg different).trans (ih fun member => new (List.mem_cons_of_mem _ member))

/-- Among different keys none comes a second time. -/
theorem not_mem_of_nodup {front rest : OrderedMap α} {entry : String × α}
    (distinct : (keys (front ++ entry :: rest)).Nodup) : entry.1 ∉ keys front := by
  rw [keys, List.map_append, List.map_cons] at distinct
  intro member
  exact (List.nodup_append.mp distinct).2.2 _ member _ (List.mem_cons_self ..) rfl

section Last
variable {key : String} {front : OrderedMap α} (new : key ∉ keys front) (old : α)
include new

theorem find?_last : find? key (front ++ [(key, old)]) = some old := by
  induction front with
  | nil => exact if_pos rfl
  | cons entry rest ih =>
    have different : entry.1 ≠ key := fun same => new (same ▸ List.mem_cons_self ..)
    exact (if_neg different).trans (ih fun member => new (List.mem_cons_of_mem _ member))

theorem insert_last (value : α) : insert key value (front ++ [(key, old)]) = front ++ [(key, value)] := by
  induction front with
  | nil => exact if_pos rfl
  | cons entry rest ih =>
    have different : entry.1 ≠ key := fun same => new (same ▸ List.mem_cons_self ..)
    rw [List.cons_append, List.cons_append, ← ih fun member => new (List.mem_cons_of_mem _ member)]
    exact if_neg different

end Last

/-- A new key comes last. -/
theorem insert_of_not_mem {key : String} (value : α) {map : OrderedMap α} (new : key ∉ keys map) :
    insert key value map = map ++ [(key, value)] := by
  induction map with
  | nil => rfl
  | cons entry rest ih =>
    have different : entry.1 ≠ key := fun same => new (same ▸ List.mem_cons_self ..)
    have others : key ∉ keys rest := fun member => new (List.mem_cons_of_mem _ member)
    simp only [insert, different, ↓reduceIte, ih others, List.cons_append]

/-- Entries with new and different keys come last, in their order. -/
theorem insertAll_of_new {entries : List (String × α)} {map : OrderedMap α}
    (distinct : (keys map ++ keys entries).Nodup) : insertAll entries map = map ++ entries := by
  induction entries generalizing map with
  | nil => exact (List.append_nil map).symm
  | cons entry rest ih =>
    have split : keys map ++ keys (entry :: rest) = keys (map ++ [entry]) ++ keys rest := by
      simp only [keys, List.map_append, List.map_cons, List.map_nil, List.append_assoc, List.cons_append,
        List.nil_append]
    have new : entry.1 ∉ keys map := fun member =>
      (List.nodup_append.mp distinct).2.2 _ member _ (List.mem_cons_self ..) rfl
    calc
      insertAll (entry :: rest) map = insertAll rest (map ++ [entry]) := by
        rw [← insert_of_not_mem entry.2 new]
        rfl
      _ = map ++ entry :: rest := by
        rw [ih (split ▸ distinct), List.append_assoc, List.cons_append, List.nil_append]

theorem ofPairs_of_nodup {entries : List (String × α)} (distinct : (keys entries).Nodup) :
    ofPairs entries = entries := by
  show insertAll entries [] = [] ++ entries
  exact insertAll_of_new distinct

/-- Giving a key the value that it has changes nothing. -/
theorem insert_of_find? {key : String} {value : α} {map : OrderedMap α} (held : find? key map = some value) :
    insert key value map = map := by
  induction map with
  | nil => contradiction
  | cons entry rest ih =>
    obtain ⟨other, old⟩ := entry
    by_cases same : other = key
    · simp only [find?, same, ↓reduceIte, Option.some.injEq] at held
      simp only [insert, same, ↓reduceIte, held]
    · simp only [find?, same, ↓reduceIte] at held
      simp only [insert, same, ↓reduceIte, ih held]

/-- Of two values that a key is given the later stays. -/
theorem insert_insert (key : String) (value old : α) (map : OrderedMap α) :
    insert key value (insert key old map) = insert key value map := by
  induction map with
  | nil => simp only [insert, ↓reduceIte]
  | cons entry rest ih =>
    obtain ⟨other, first⟩ := entry
    by_cases same : other = key
    · simp only [insert, same, ↓reduceIte]
    · simp only [insert, same, ↓reduceIte, ih]

/-- Where one of two keys has its place, it does not matter which of them is given a value first. -/
theorem insert_comm {key other : String} (different : key ≠ other) {map : OrderedMap α} (known : key ∈ keys map)
    (value added : α) : insert other added (insert key value map) = insert key value (insert other added map) := by
  induction map with
  | nil => exact absurd known List.not_mem_nil
  | cons entry rest ih =>
    obtain ⟨first, old⟩ := entry
    by_cases same : first = key
    · simp only [insert, same, different, ↓reduceIte]
    · have later : key ∈ keys rest := (List.mem_cons.mp known).resolve_left (Ne.symm same)
      by_cases found : first = other
      · have apart : other ≠ key := found ▸ same
        simp only [insert, found, apart, ↓reduceIte]
      · simp only [insert, same, found, ↓reduceIte, ih later]

theorem mem_keys_insert {key other : String} {map : OrderedMap α} (known : key ∈ keys map) (value : α) :
    key ∈ keys (insert other value map) := by
  rw [keys_insert]
  split
  · exact known
  · exact List.mem_append_left _ known

/-- A value that is overwritten later can be left out, if its key has its place. -/
theorem insertAll_insert_of_overwritten {key : String} {entries : List (String × α)} {map : OrderedMap α}
    (known : key ∈ keys map) (overwritten : key ∈ keys entries) (value : α) :
    insertAll entries (insert key value map) = insertAll entries map := by
  induction entries generalizing map with
  | nil => exact absurd overwritten List.not_mem_nil
  | cons entry rest ih =>
    by_cases same : entry.1 = key
    · have step : insert entry.1 entry.2 (insert key value map) = insert entry.1 entry.2 map := by
        rw [same, insert_insert]
      exact congrArg (insertAll rest) step
    · have later : key ∈ keys rest := (List.mem_cons.mp overwritten).resolve_left (Ne.symm same)
      calc
        insertAll (entry :: rest) (insert key value map)
          = insertAll rest (insert key value (insert entry.1 entry.2 map)) :=
            congrArg (insertAll rest) (insert_comm (Ne.symm same) known value entry.2)
        _ = insertAll (entry :: rest) map := ih (mem_keys_insert known entry.2) later

theorem last?_eq_none_iff {key : String} {entries : List (String × α)} :
    last? key entries = none ↔ key ∉ keys entries := by
  rw [last?, List.getLast?_eq_none_iff, List.filterMap_eq_nil_iff, keys, List.mem_map]
  constructor
  · rintro passed ⟨entry, member, same⟩
    have own : valueAt? key entry = some entry.2 := if_pos same
    rw [passed entry member] at own
    contradiction
  · intro absent entry member
    exact if_neg fun same => absent ⟨entry, member, same⟩

theorem mem_keys_of_find? {key : String} {value : α} {map : OrderedMap α} (held : find? key map = some value) :
    key ∈ keys map :=
  List.mem_map_of_mem (mem_of_find? held)

/-- Giving keys values changes nothing if each of them has the last one already. -/
theorem insertAll_of_held {entries : List (String × α)} {map : OrderedMap α}
    (held : ∀ key ∈ keys entries, find? key map = last? key entries) : insertAll entries map = map := by
  induction entries with
  | nil => rfl
  | cons entry rest ih =>
    have own := held entry.1 (List.mem_cons_self ..)
    have others : ∀ key ∈ keys rest, find? key map = last? key rest := by
      intro key member
      rw [held key (List.mem_cons_of_mem _ member), last?_cons]
      exact Option.or_of_isSome (Option.isSome_iff_ne_none.mpr fun nothing => last?_eq_none_iff.mp nothing member)
    have value : valueAt? entry.1 entry = some entry.2 := if_pos rfl
    rw [last?_cons, value] at own
    cases last : last? entry.1 rest with
    | none =>
      rw [last, Option.none_or] at own
      calc
        insertAll (entry :: rest) map = insertAll rest map := congrArg (insertAll rest) (insert_of_find? own)
        _ = map := ih others
    | some final =>
      rw [last, Option.some_or] at own
      have overwritten : entry.1 ∈ keys rest := by
        refine Decidable.byContradiction fun absent => ?_
        rw [last?_eq_none_iff.mpr absent] at last
        contradiction
      calc
        insertAll (entry :: rest) map = insertAll rest map :=
          insertAll_insert_of_overwritten (mem_keys_of_find? own) overwritten entry.2
        _ = map := ih others

/-- What keys were given can be given to them again. -/
theorem insertAll_again (entries : List (String × α)) (map : OrderedMap α) :
    insertAll entries (insertAll entries map) = insertAll entries map := by
  apply insertAll_of_held
  intro key member
  rw [find?_insertAll]
  exact Option.or_of_isSome (Option.isSome_iff_ne_none.mpr fun nothing => last?_eq_none_iff.mp nothing member)

/-- The entries that come after the entry of a key, none if the key has no entry. -/
def after (key : String) : OrderedMap α → OrderedMap α
  | [] => []
  | (other, _) :: rest => if other = key then rest else after key rest

/-- An insertion leaves everything after the old entry where it is. -/
theorem exists_insert_eq_append (key : String) (value : α) (map : OrderedMap α) :
    ∃ front, insert key value map = front ++ (key, value) :: after key map := by
  induction map with
  | nil => exact ⟨[], rfl⟩
  | cons entry rest ih =>
    obtain ⟨other, old⟩ := entry
    by_cases same : other = key
    · exact ⟨[], by simp only [insert, after, same, ↓reduceIte, List.nil_append]⟩
    · obtain ⟨front, split⟩ := ih
      refine ⟨(other, old) :: front, ?_⟩
      simp only [insert, after, same, ↓reduceIte, split, List.cons_append]

section Reading
variable {read : String × α → Option β} {key : String}

/-- A reading that passes over a key does not see insertions at it. -/
theorem filterMap_insert_of_passed (passed : ∀ value, read (key, value) = none) (value : α)
    (map : OrderedMap α) : (insert key value map).filterMap read = map.filterMap read := by
  induction map with
  | nil => rw [insert, List.filterMap_cons_none (passed value)]
  | cons entry rest ih =>
    obtain ⟨other, old⟩ := entry
    by_cases same : other = key
    · subst same
      simp only [insert, ↓reduceIte]
      rw [List.filterMap_cons_none (passed value), List.filterMap_cons_none (passed old)]
    · simp only [insert, same, ↓reduceIte, List.filterMap_cons, ih]

theorem filterMap_after_insert_of_passed (passed : ∀ value, read (key, value) = none) {other : String}
    (different : key ≠ other) (value : α) (map : OrderedMap α) :
    (after other (insert key value map)).filterMap read = (after other map).filterMap read := by
  induction map with
  | nil => simp only [insert, after, different, ↓reduceIte]
  | cons entry rest ih =>
    obtain ⟨first, old⟩ := entry
    by_cases same : first = key
    · subst same
      simp only [insert, after, different, ↓reduceIte]
    · by_cases found : first = other
      · subst found
        simp only [insert, after, same, ↓reduceIte]
        exact filterMap_insert_of_passed passed value rest
      · simp only [insert, after, same, found, ↓reduceIte, ih]

/-- The last thing that is read after an insertion: from what comes after the entry, or else from the
entry itself. -/
theorem getLast?_filterMap_insert {value : α} {result : β} (own : read (key, value) = some result)
    (map : OrderedMap α) :
    ((insert key value map).filterMap read).getLast? =
      some ((((after key map).filterMap read).getLast?).getD result) := by
  obtain ⟨front, split⟩ := exists_insert_eq_append key value map
  rw [split, List.filterMap_append, List.filterMap_cons_some own, List.getLast?_append, List.getLast?_cons,
    Option.some_or]

end Reading

end ScriptLint.OrderedMap
