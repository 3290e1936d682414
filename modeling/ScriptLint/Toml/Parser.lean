import ScriptLint.Toml.Literal
import ScriptLint.Toml.Moment
import ScriptLint.Toml.Number
import ScriptLint.Toml.Scope
import ScriptLint.Toml.Table

/-! # Reading TOML documents

`parse` accepts the documents of TOML 1.0 and gives their root table. A document is a sequence of
lines, each of which is blank, defines a key, or opens the section that the following definitions
belong to. Values nest and keys have many parts, so their readers are bounded by a number of steps
that the length of the document always covers. Values have only so much room to nest in: an array takes
two units of it and an inline table takes three, and a document that needs more is refused as such.
-/

namespace ScriptLint.Toml

/-- Characters that a key may be written with outside quotes. -/
def isBareKeyChar (c : Char) : Bool :=
  c.isAlphanum || c = '-' || c = '_'

def skipBlanks (source : List Char) : List Char :=
  source.dropWhile isBlank

/-- Skip a comment if one begins here, up to the end of its line. -/
def skipComment : List Char → Except Fault (List Char)
  | '#' :: rest =>
    if (rest.takeWhile (· ≠ '\n')).any isIllegal then .error .malformed
    else .ok (rest.dropWhile (· ≠ '\n'))
  | source => .ok source

/-- Skip blanks, line feeds and comments, where `inComment` says that a comment has begun. -/
def skipSpace (inComment : Bool) : List Char → Except Fault (List Char)
  | [] => .ok []
  | c :: rest =>
    if c = '\n' then skipSpace false rest
    else if inComment then
      if isIllegal c then .error .malformed else skipSpace true rest
    else if isBlank c then skipSpace false rest
    else if c = '#' then skipSpace true rest
    else .ok (c :: rest)

/-- A text between quotes, given what was read of it. -/
def asString (found : List Char × List Char) : String × List Char :=
  (String.ofList found.1, found.2)

/-- One part of a key. -/
def readKeyPart : Reader String
  | '"' :: rest => (basicText rest).map asString
  | '\'' :: rest => (literalText rest).map asString
  | source =>
    let name := source.takeWhile isBareKeyChar
    if name.isEmpty then .error .malformed
    else .ok (String.ofList name, source.dropWhile isBareKeyChar)

/-- A key: parts with points between them, and the blanks after it. -/
def readKey : Nat → Reader KeyPath
  | 0, _ => .error .malformed
  | bound + 1, source => do
    let (part, rest) ← readKeyPart source
    match skipBlanks rest with
    | '.' :: rest => do
      let (path, rest) ← readKey bound (skipBlanks rest)
      return (part :: path, rest)
    | rest => return ([part], rest)

/-- A text in any of the four written forms. -/
def text? : List Char → Option (Except Fault (String × List Char))
  | '"' :: '"' :: '"' :: rest => some ((basicLines (withoutFirstBreak rest)).map asString)
  | '"' :: rest => some ((basicText rest).map asString)
  | '\'' :: '\'' :: '\'' :: rest => some ((literalLines (withoutFirstBreak rest)).map asString)
  | '\'' :: rest => some ((literalText rest).map asString)
  | _ => none

def boolean? : List Char → Option (Bool × List Char)
  | 't' :: 'r' :: 'u' :: 'e' :: rest => some (true, rest)
  | 'f' :: 'a' :: 'l' :: 's' :: 'e' :: rest => some (false, rest)
  | _ => none

/-- A value that holds no other values. -/
def readScalar (source : List Char) : Except Fault (Value × List Char) :=
  match text? source with
  | some found => found.map fun (text, rest) => (.text text, rest)
  | none =>
    match boolean? source with
    | some (value, rest) => .ok (.boolean value, rest)
    | none =>
      match moment? source with
      | some (found, rest) => found.map fun value => (value, rest)
      | none =>
        match numeral? source with
        | some (numeral, rest) => numeral.value.map fun value => (value, rest)
        | none => .error .malformed

/-- Whether nothing may be defined below a value after it is written. -/
def Value.isClosed : Value → Bool
  | .array _ => true
  | .table _ => true
  | _ => false

/-- Define a dotted key in an inline table, where `scope` knows the closed values in it. -/
def defineInline (scope : Scope) (path : KeyPath) (value : Value) (table : Table) :
    Except Fault Table :=
  if scope.isFrozen path then .error .malformed
  else match path.getLast? with
    | none => .error .malformed
    | some name => Table.change false (Table.define name value) path.dropLast table

/-- The room that values have to nest in. -/
def nestingRoom : Nat := 988

/-- The room that is left inside a value that takes some of it. -/
def enter (needed room : Nat) : Except Fault Nat :=
  if room < needed then .error .nestedTooDeep else .ok (room - needed)

mutual

/-- A value, with the room that it may use. -/
def readValue : Nat → Nat → Reader Value
  | 0, _, _ => .error .malformed
  | bound + 1, room, source =>
    match source with
    | '[' :: rest => do
      let room ← enter 2 room
      let rest ← skipSpace false rest
      let (items, rest) ← readItems bound room rest
      return (.array items, rest)
    | '{' :: rest => do
      let room ← enter 3 room
      match skipBlanks rest with
      | '}' :: rest => return (.table [], rest)
      | rest => do
        let (table, rest) ← readEntries bound room {} [] rest
        return (.table table, rest)
    | source => readScalar source

/-- The items of an array up to its closing bracket. A comma may follow the last one. -/
def readItems : Nat → Nat → Reader (List Value)
  | 0, _, _ => .error .malformed
  | bound + 1, room, source =>
    match source with
    | ']' :: rest => .ok ([], rest)
    | source => do
      let (item, rest) ← readValue bound room source
      match ← skipSpace false rest with
      | ']' :: rest => return ([item], rest)
      | ',' :: rest => do
        let rest ← skipSpace false rest
        let (items, rest) ← readItems bound room rest
        return (item :: items, rest)
      | _ => .error .malformed

/-- The entries of an inline table up to its closing brace, after those in `table`. No comma follows
the last one. -/
def readEntries : Nat → Nat → Scope → Table → Reader Table
  | 0, _, _, _, _ => .error .malformed
  | bound + 1, room, scope, table, source => do
    let (path, rest) ← readKey bound source
    match rest with
    | '=' :: rest => do
      let (value, rest) ← readValue bound room (skipBlanks rest)
      let table ← defineInline scope path value table
      match skipBlanks rest with
      | '}' :: rest => return (table, rest)
      | ',' :: rest =>
        readEntries bound room (if value.isClosed then scope.freeze path else scope) table
          (skipBlanks rest)
      | _ => .error .malformed
    | _ => .error .malformed

end

/-- A document that is being read. -/
structure Draft where
  root : Table := []
  /-- The tables that are closed. -/
  scope : Scope := {}
  /-- The section that definitions belong to. -/
  current : KeyPath := []

namespace Draft

/-- The tables that a dotted key in a section passes through, outermost first. -/
def passedTables (current path : KeyPath) : List KeyPath :=
  (List.range (path.length - 1)).map fun n => current ++ path.take (n + 1)

/-- Define a key in the current section. -/
def define (draft : Draft) (path : KeyPath) (value : Value) : Except Fault Draft :=
  let passed := passedTables draft.current path
  if passed.any draft.scope.isDeclared then .error .malformed
  else if draft.scope.isFrozen (draft.current ++ path.dropLast) then .error .malformed
  else match path.getLast? with
    | none => .error .malformed
    | some name => do
      let root ← Table.change true (Table.define name value) (draft.current ++ path.dropLast)
        draft.root
      let scope := passed.foldl Scope.postpone draft.scope
      let scope := if value.isClosed then scope.freeze (draft.current ++ path) else scope
      return { draft with root, scope }

def openTable (draft : Draft) (path : KeyPath) : Except Fault Draft :=
  let scope := draft.scope.settle
  if scope.isDeclared path || scope.isFrozen path then .error .malformed
  else do
    let root ← Table.change true .ok path draft.root
    return ⟨root, scope.declare path, path⟩

/-- Open the section of a new table at the end of an array. -/
def openItem (draft : Draft) (path : KeyPath) : Except Fault Draft :=
  let scope := draft.scope.settle
  if scope.isFrozen path then .error .malformed
  else match path.getLast? with
    | none => .error .malformed
    | some name => do
      let root ← Table.change true (Table.appendTo name) path.dropLast draft.root
      return ⟨root, (scope.reopen path).declare path, path⟩

end Draft

/-- A definition, from its key on. -/
def definition (bound : Nat) (draft : Draft) (source : List Char) :
    Except Fault (Draft × List Char) := do
  let (path, rest) ← readKey bound source
  match rest with
  | '=' :: rest => do
    let (value, rest) ← readValue bound nestingRoom (skipBlanks rest)
    let draft ← draft.define path value
    return (draft, rest)
  | _ => .error .malformed

/-- The header of a table, from its key on. -/
def tableHeader (bound : Nat) (draft : Draft) (source : List Char) :
    Except Fault (Draft × List Char) := do
  let (path, rest) ← readKey bound (skipBlanks source)
  let draft ← draft.openTable path
  match rest with
  | ']' :: rest => return (draft, rest)
  | _ => .error .malformed

/-- The header of an item of an array of tables, from its key on. -/
def itemHeader (bound : Nat) (draft : Draft) (source : List Char) :
    Except Fault (Draft × List Char) := do
  let (path, rest) ← readKey bound (skipBlanks source)
  let draft ← draft.openItem path
  match rest with
  | ']' :: ']' :: rest => return (draft, rest)
  | _ => .error .malformed

/-- What a line holds apart from blanks and a comment. -/
def statement (bound : Nat) (draft : Draft) : List Char → Except Fault (Draft × List Char)
  | [] => .ok (draft, [])
  | '\n' :: rest => .ok (draft, '\n' :: rest)
  | '#' :: rest => .ok (draft, '#' :: rest)
  | '[' :: '[' :: rest => itemHeader bound draft rest
  | '[' :: rest => tableHeader bound draft rest
  | source => definition bound draft source

/-- The lines of a document. The first number bounds how many there are, the second each of them. -/
def documentLines : Nat → Nat → Draft → List Char → Except Fault Draft
  | 0, _, _, _ => .error .malformed
  | count + 1, bound, draft, source => do
    let (draft, rest) ← statement bound draft (skipBlanks source)
    match ← skipComment (skipBlanks rest) with
    | [] => return draft
    | '\n' :: rest => documentLines count bound draft rest
    | _ => .error .malformed

/-- Write every line end of two characters as a line feed. -/
def joinLineEnds : List Char → List Char
  | '\r' :: '\n' :: rest => '\n' :: joinLineEnds rest
  | c :: rest => c :: joinLineEnds rest
  | [] => []

/-- A number of steps that covers a document: each step of a reader takes at least half a
character. -/
def stepBound (source : List Char) : Nat := 2 * source.length + 2

def parse (document : String) : Except Fault Table := do
  let source := joinLineEnds document.toList
  let draft ← documentLines (source.length + 1) (stepBound source) {} source
  return draft.root

end ScriptLint.Toml
