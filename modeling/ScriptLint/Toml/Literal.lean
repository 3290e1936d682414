import ScriptLint.Text.Digits
import ScriptLint.Toml.Value

/-! # TOML strings

The four written forms of a text: basic strings, which know escapes, and literal strings, which do
not, each on one line or on several. All readers start right after the opening quotes.
-/

namespace ScriptLint.Toml

/-- A character by its code, written with a fixed number of hexadecimal digits. -/
def scalar? (width : Nat) (source : List Char) : Option (Char × List Char) :=
  let digits := source.take width
  let code := Text.digitsValue 16 digits
  if digits.length = width ∧ digits.all Text.isHexadecimal ∧ code.isValidChar then
    some (Char.ofNat code, source.drop width)
  else none

/-- The character that an escape denotes. The text starts after the backslash. -/
def escape? : List Char → Option (Char × List Char)
  | 'b' :: rest => some ('\x08', rest)
  | 't' :: rest => some ('\t', rest)
  | 'n' :: rest => some ('\n', rest)
  | 'f' :: rest => some ('\x0c', rest)
  | 'r' :: rest => some ('\r', rest)
  | '"' :: rest => some ('"', rest)
  | '\\' :: rest => some ('\\', rest)
  | 'u' :: rest => scalar? 4 rest
  | 'U' :: rest => scalar? 8 rest
  | _ => none

theorem length_of_scalar? {width : Nat} {source rest : List Char} {c : Char}
    (success : scalar? width source = some (c, rest)) : rest.length ≤ source.length := by
  unfold scalar? at success
  dsimp only at success
  split at success
  · cases success
    simp
  · cases success

theorem length_of_escape? {source rest : List Char} {c : Char}
    (success : escape? source = some (c, rest)) : rest.length < source.length := by
  unfold escape? at success
  split at success
  case h_8 tail => have := length_of_scalar? success; simp only [List.length_cons]; omega
  case h_9 tail => have := length_of_scalar? success; simp only [List.length_cons]; omega
  case h_10 => cases success
  all_goals cases success; simp

/-- The rest of a line-ending backslash: blanks, a line feed, and all white space after it. -/
def lineBreak? (source : List Char) : Option (List Char) :=
  match source.dropWhile isBlank with
  | '\n' :: rest => some (rest.dropWhile fun c => isBlank c || c = '\n')
  | _ => none

theorem length_dropWhile_le (keep : Char → Bool) (source : List Char) :
    (source.dropWhile keep).length ≤ source.length :=
  (List.dropWhile_suffix keep).length_le

theorem length_of_lineBreak? {source rest : List Char} (success : lineBreak? source = some rest) :
    rest.length < source.length := by
  unfold lineBreak? at success
  split at success
  case h_1 tail blank =>
    cases success
    have dropped := length_dropWhile_le isBlank source
    have skipped := length_dropWhile_le (fun c => isBlank c || c = '\n') tail
    rw [blank, List.length_cons] at dropped
    omega
  case h_2 => cases success

/-- Put a character in front of what a reader of text found. -/
def pushChar (c : Char) (found : List Char × List Char) : List Char × List Char :=
  (c :: found.1, found.2)

/-- A basic string of one line. -/
def basicText (source : List Char) : Except Fault (List Char × List Char) :=
  match source with
  | [] => .error .malformed
  | '"' :: rest => .ok ([], rest)
  | '\\' :: rest =>
    match _escape : escape? rest with
    | none => .error .malformed
    | some (c, rest) => (basicText rest).map (pushChar c)
  | c :: rest => if isIllegal c then .error .malformed else (basicText rest).map (pushChar c)
termination_by source.length
decreasing_by
  · have := length_of_escape? _escape
    simp only [List.length_cons]
    omega
  · simp

def literalText : List Char → Except Fault (List Char × List Char)
  | [] => .error .malformed
  | '\'' :: rest => .ok ([], rest)
  | c :: rest => if isIllegal c then .error .malformed else (literalText rest).map (pushChar c)

/-- Up to two more quotes after the closing three belong to the text. -/
def trailingQuotes (quote : Char) : List Char → List Char × List Char
  | first :: second :: rest =>
    if first = quote then
      if second = quote then ([quote, quote], rest) else ([quote], second :: rest)
    else ([], first :: second :: rest)
  | [first] => if first = quote then ([quote], []) else ([], [first])
  | [] => ([], [])

/-- A basic string of several lines. -/
def basicLines (source : List Char) : Except Fault (List Char × List Char) :=
  match source with
  | [] => .error .malformed
  | '"' :: '"' :: '"' :: rest => .ok (trailingQuotes '"' rest)
  | '\\' :: rest =>
    match _joined : lineBreak? rest with
    | some rest => basicLines rest
    | none =>
      match _escape : escape? rest with
      | none => .error .malformed
      | some (c, rest) => (basicLines rest).map (pushChar c)
  | c :: rest =>
    if isIllegal c && c ≠ '\n' then .error .malformed else (basicLines rest).map (pushChar c)
termination_by source.length
decreasing_by
  · have := length_of_lineBreak? _joined
    simp only [List.length_cons]
    omega
  · have := length_of_escape? _escape
    simp only [List.length_cons]
    omega
  · simp

def literalLines : List Char → Except Fault (List Char × List Char)
  | [] => .error .malformed
  | '\'' :: '\'' :: '\'' :: rest => .ok (trailingQuotes '\'' rest)
  | c :: rest =>
    if isIllegal c && c ≠ '\n' then .error .malformed else (literalLines rest).map (pushChar c)

/-- A line feed right after the opening quotes does not belong to the text. -/
def withoutFirstBreak : List Char → List Char
  | '\n' :: rest => rest
  | source => source

end ScriptLint.Toml
