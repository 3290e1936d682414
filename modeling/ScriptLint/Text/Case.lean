import ScriptLint.Text.CaseData

/-! # Upper and lower case

Full Unicode case mapping of texts, the comparison that rule names, option names, languages and file
suffixes are subject to. A character may become several (`ß` becomes `SS`), and the lower case of a
capital sigma depends on its neighbours: at the end of a word it is `ς`.
-/

namespace ScriptLint.Text

/-- The image of a character code under a list of case runs, itself if no run covers it. -/
def mapCode (runs : List CaseRun) (code : Nat) : Nat :=
  (runs.findSome? (·.map? code)).getD code

def upperChar (c : Char) : List Char :=
  match upperExpansions.lookup c.toNat with
  | some codes => codes.map Char.ofNat
  | none => [Char.ofNat (mapCode upperRuns c.toNat)]

/-- The lower case of one character, a capital sigma inside a word included. -/
def lowerChar (c : Char) : List Char :=
  if c = '\u0130' then ['i', '\u0307'] else [Char.ofNat (mapCode lowerRuns c.toNat)]

/-- Membership of a character in a list of code ranges. -/
def inRanges (ranges : List (Nat × Nat)) (c : Char) : Bool :=
  ranges.any fun (first, last) => decide (first ≤ c.toNat) && decide (c.toNat ≤ last)

/-- Characters that make a neighbouring sigma part of a word. -/
def isCased (c : Char) : Bool := inRanges casedRanges c

/-- Characters that do not separate a sigma from its neighbours. -/
def isCaseIgnorable (c : Char) : Bool := inRanges caseIgnorableRanges c

/-- Whether the next character that counts belongs to a word. -/
def continuesWord (rest : List Char) : Bool :=
  match rest.dropWhile isCaseIgnorable with
  | [] => false
  | c :: _ => isCased c

/-- Lower case from a position on, where `inWord` says whether the last character that counts
belongs to a word. -/
def lowerFrom (inWord : Bool) : List Char → List Char
  | [] => []
  | c :: rest =>
    (if c = 'Σ' then [if inWord && !continuesWord rest then 'ς' else 'σ'] else lowerChar c) ++
      lowerFrom (if isCaseIgnorable c then inWord else isCased c) rest

def upper (text : String) : String :=
  String.ofList (text.toList.flatMap upperChar)

def lower (text : String) : String :=
  String.ofList (lowerFrom false text.toList)

end ScriptLint.Text
