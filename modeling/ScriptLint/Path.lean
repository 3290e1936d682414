import ScriptLint.Text.Case
import ScriptLint.Text.Split

/-! # Paths

A path as a user spells it, up to the spellings that always mean the same: doubled and trailing
slashes and the name `.` are dropped, the name `..` is kept. The root of an absolute path is part of
its spelling; a path with exactly two leading slashes keeps both.
-/

namespace ScriptLint

def parentName : String := ".."

structure Path where
  /-- The leading slashes that count, none for a relative path. -/
  anchor : String
  /-- The names, outermost first. -/
  parts : List String
  deriving DecidableEq, Repr

namespace Path

/-- The leading slashes that count. -/
def anchorOf : List Char → String
  | '/' :: '/' :: '/' :: _ => "/"
  | '/' :: '/' :: _ => "//"
  | '/' :: _ => "/"
  | _ => ""

/-- The path that a text spells. -/
def ofString (text : String) : Path where
  anchor := anchorOf text.toList
  parts := ((Text.cutAt '/' text.toList).map String.ofList).filter fun name =>
    name ≠ "" && name ≠ "."

/-- Names with slashes between them. -/
def joinNames : List String → String
  | [] => ""
  | [name] => name
  | name :: rest => name ++ "/" ++ joinNames rest

/-- The text of a path. The path without any name that is not absolute is a dot. -/
def toString (path : Path) : String :=
  if path.anchor = "" ∧ path.parts = [] then "." else path.anchor ++ joinNames path.parts

def isAbsolute (path : Path) : Bool := path.anchor ≠ ""

def hasNull (path : Path) : Bool :=
  path.parts.any fun name => name.toList.contains '\x00'

def child (path : Path) (name : String) : Path :=
  { path with parts := path.parts ++ [name] }

def below (path : Path) (names : List String) : Path :=
  { path with parts := path.parts ++ names }

/-- A path as seen from a directory. An absolute path is the same from everywhere. -/
def join (base path : Path) : Path :=
  if path.isAbsolute then path else base.below path.parts

/-- The paths above a path by its spelling, the closest first. -/
def parents (path : Path) : List Path :=
  (List.range path.parts.length).reverse.map fun count =>
    { path with parts := path.parts.take count }

/-- The suffix of a name: from its last dot on, if something stands before and after that dot. -/
def suffixOf (name : String) : String :=
  let reversed := name.toList.reverse
  let ending := reversed.takeWhile (· ≠ '.')
  match reversed.dropWhile (· ≠ '.') with
  | '.' :: _ :: _ => if ending.isEmpty then "" else String.ofList ('.' :: ending.reverse)
  | _ => ""

def suffix (path : Path) : String :=
  match path.parts.getLast? with
  | none => ""
  | some name => suffixOf name

/-- The order of paths by their names, each compared character by character. -/
def before (path other : Path) : Bool :=
  !other.parts.lex path.parts

theorem before_iff {path other : Path} : path.before other = true ↔ ¬ other.parts < path.parts := by
  rw [before, Bool.not_eq_true', ← Bool.not_eq_true, List.lex_eq_true_iff_lt]

end Path

end ScriptLint
