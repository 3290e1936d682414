import ScriptLint.Text.Split

/-! # Lines of a text

A line ends at a line feed, together with one carriage return right before it. Any other carriage
return is an ordinary character. A text with `n` boundaries has `n + 1` lines, the last of which may
be empty.
-/

namespace ScriptLint.Text

/-- The lines of a text, without their boundaries. -/
def splitLines : List Char → List (List Char)
  | [] => [[]]
  | '\r' :: '\n' :: rest => [] :: splitLines rest
  | '\n' :: rest => [] :: splitLines rest
  | c :: rest => extendFirst c (splitLines rest)

/-- The lines of a text as texts. -/
def lines (text : String) : List String :=
  (splitLines text.toList).map String.ofList

end ScriptLint.Text
