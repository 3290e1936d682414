/-! # Cutting texts

Cutting a text at a separator gives one piece more than there are separators; pieces may be empty.
-/

namespace ScriptLint.Text

/-- Put a character in front of the first piece. -/
def extendFirst (c : Char) : List (List Char) → List (List Char)
  | [] => [[c]]
  | piece :: rest => (c :: piece) :: rest

/-- The pieces of a text between separators. -/
def cutAt (separator : Char) : List Char → List (List Char)
  | [] => [[]]
  | c :: rest => if c = separator then [] :: cutAt separator rest
    else extendFirst c (cutAt separator rest)

end ScriptLint.Text
