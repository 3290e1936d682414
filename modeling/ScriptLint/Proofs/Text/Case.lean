import Mathlib
import ScriptLint.Text.Case

/-! # Spellings of a name

The upper case of a text is that of a name in ASCII letters exactly if the text spells the name: it has the
letters of the name one by one, each in either case or as one of the few other characters with the same
partner. For upper case these are the long s and the dotless i, for lower case it is the sign of the kelvin.
Characters that become several letters at once matter only to names in which these letters stand side by
side.
-/

namespace ScriptLint.Text

section Runs
variable {runs : List CaseRun} {main : CaseRun} {singles : List (Nat × Nat)} {code image : Nat}

theorem CaseRun.map?_eq_some_iff {run : CaseRun} :
    run.map? code = some image ↔
      (run.first ≤ code ∧ code ≤ run.last ∧ (code - run.first) % run.step = 0) ∧
        run.image + (code - run.first) = image := by
  simp only [map?, Option.ite_none_right_eq_some, Option.some.injEq]

/-- A code that no run covers stays as it is; any other one goes where some run takes it. -/
theorem mapCode_cases (runs : List CaseRun) (code : Nat) :
    (mapCode runs code = code ∧ ∀ run ∈ runs, run.map? code = none) ∨
      ∃ run ∈ runs, run.map? code = some (mapCode runs code) := by
  unfold mapCode
  cases found : runs.findSome? (·.map? code) with
  | none => exact .inl ⟨rfl, List.findSome?_eq_none_iff.mp found⟩
  | some image => exact .inr (List.exists_of_findSome?_eq_some found)

/-- The runs that begin or end in ASCII: the main one between its letters, and single characters from beyond
that are taken to one of its letters. -/
structure MeetsAscii (runs : List CaseRun) (main : CaseRun) (singles : List (Nat × Nat)) : Prop where
  member : main ∈ runs
  step : main.step = 1
  last : main.last < 0x80
  others : ∀ run ∈ runs, run.first < 0x80 ∨ run.image < 0x80 →
    (run.first = main.first ∧ run.last = main.last ∧ run.image = main.image) ∨
      (run.last = run.first ∧ (run.first, run.image) ∈ singles)
  single : ∀ pair ∈ singles, 0x80 ≤ pair.1 ∧ mapCode runs pair.1 = pair.2

/-- Outside the main run a character of ASCII is the partner of itself, of the letter at its distance and of
single characters from beyond. -/
theorem MeetsAscii.mapCode_eq_iff (meets : MeetsAscii runs main singles) (ascii : image < 0x80)
    (outside : ¬ (main.first ≤ image ∧ image ≤ main.last)) :
    mapCode runs code = image ↔
      code = image ∨ (main.first ≤ code ∧ code ≤ main.last ∧ main.image + (code - main.first) = image) ∨
        (code, image) ∈ singles := by
  constructor
  · rintro rfl
    rcases mapCode_cases runs code with ⟨same, -⟩ | ⟨run, member, taken⟩
    · exact .inl same.symm
    · obtain ⟨covered, distance⟩ := CaseRun.map?_eq_some_iff.mp taken
      rcases meets.others run member (.inr (by omega)) with known | ⟨last, single⟩
      · exact .inr (.inl (by omega))
      · have first : code = run.first := by omega
        have partner : mapCode runs code = run.image := by omega
        rw [partner, first]
        exact .inr (.inr single)
  · -- An ASCII code is covered by the main run or by none, so that no other run can come before it.
    have ascii_cases (small : code < 0x80) :
        (mapCode runs code = code ∧ main.map? code = none) ∨
          (main.first ≤ code ∧ code ≤ main.last ∧ mapCode runs code = main.image + (code - main.first)) := by
      rcases mapCode_cases runs code with ⟨same, uncovered⟩ | ⟨run, member, taken⟩
      · exact .inl ⟨same, uncovered _ meets.member⟩
      · obtain ⟨covered, distance⟩ := CaseRun.map?_eq_some_iff.mp taken
        rcases meets.others run member (.inl (by omega)) with known | ⟨last, single⟩
        · exact .inr (by omega)
        · have beyond := (meets.single _ single).1
          omega
    rintro (rfl | ⟨above, below, partner⟩ | single)
    · rcases ascii_cases ascii with ⟨same, -⟩ | covered
      · exact same
      · exact absurd ⟨covered.1, covered.2.1⟩ outside
    · rcases ascii_cases (by have := meets.last; omega) with ⟨-, uncovered⟩ | covered
      · have taken : main.map? code = some image :=
          CaseRun.map?_eq_some_iff.mpr ⟨⟨above, below, by rw [meets.step, Nat.mod_one]⟩, partner⟩
        rw [uncovered] at taken
        cases taken
      · exact covered.2.2.trans partner
    · exact (meets.single _ single).2

/-- Upper case meets ASCII in its small letters, the long s and the dotless i. -/
theorem meetsAscii_upperRuns :
    MeetsAscii upperRuns ⟨0x61, 0x7A, 1, 0x41⟩ [(0x17F, 0x53), (0x131, 0x49)] where
  member := List.mem_cons_self ..
  step := rfl
  last := by decide
  others := by decide +kernel
  single := by decide +kernel

/-- Lower case meets ASCII in its capital letters and the sign of the kelvin. -/
theorem meetsAscii_lowerRuns : MeetsAscii lowerRuns ⟨0x41, 0x5A, 1, 0x61⟩ [(0x212A, 0x6B)] where
  member := List.mem_cons_self ..
  step := rfl
  last := by decide
  others := by decide +kernel
  single := by decide +kernel

end Runs

section Letters
variable {c letter : Char}

/-- Whether a character stands for a letter: it is the letter in either case, or a substitute for its capital. -/
def StandsFor (substitutes : List (Char × Char)) (c letter : Char) : Prop :=
  c = letter.toUpper ∨ c = letter.toLower ∨ (c, letter.toUpper) ∈ substitutes

instance (substitutes : List (Char × Char)) (c letter : Char) : Decidable (StandsFor substitutes c letter) :=
  inferInstanceAs (Decidable (_ ∨ _ ∨ _))

/-- The long s and the dotless i have the upper case of ASCII letters. -/
def upperSubstitutes : List (Char × Char) := [('\u017F', 'S'), ('\u0131', 'I')]

/-- The sign of the kelvin has the lower case of an ASCII letter. -/
def lowerSubstitutes : List (Char × Char) := [('\u212A', 'K')]

/-- The codes of a letter: a capital, and the small one at a distance of 32. -/
theorem toNat_letter (alpha : letter.isAlpha = true) :
    (0x41 ≤ letter.toUpper.toNat ∧ letter.toUpper.toNat ≤ 0x5A) ∧
      letter.toLower.toNat = letter.toUpper.toNat + 0x20 := by
  -- ASCII is small enough to be checked code by code.
  have each : ∀ code < 0x80, (Char.ofNat code).isAlpha = true →
      (0x41 ≤ (Char.ofNat code).toUpper.toNat ∧ (Char.ofNat code).toUpper.toNat ≤ 0x5A) ∧
        (Char.ofNat code).toLower.toNat = (Char.ofNat code).toUpper.toNat + 0x20 := by
    decide +kernel
  have bounds : (0x41 ≤ letter.toNat ∧ letter.toNat ≤ 0x5A) ∨ (0x61 ≤ letter.toNat ∧ letter.toNat ≤ 0x7A) := by
    simpa [Char.isAlpha, Char.isUpper, Char.isLower, UInt32.le_iff_toNat_le] using alpha
  have own := each letter.toNat (by omega)
  rw [Char.ofNat_toNat] at own
  exact own alpha

theorem ofNat_eq_iff {code : Nat} (proper : c.toNat ≠ 0) : Char.ofNat code = c ↔ code = c.toNat := by
  constructor
  · intro same
    have number := congrArg Char.toNat same
    rw [Char.toNat_ofNat] at number
    split at number
    next => exact number
    next => exact absurd number.symm proper
  · rintro rfl
    exact Char.ofNat_toNat c

theorem standsFor_upperSubstitutes_iff (alpha : letter.isAlpha = true) :
    StandsFor upperSubstitutes c letter ↔
      c.toNat = letter.toUpper.toNat ∨ c.toNat = letter.toUpper.toNat + 0x20 ∨
        (c.toNat = 0x17F ∧ letter.toUpper.toNat = 0x53) ∨ (c.toNat = 0x131 ∧ letter.toUpper.toNat = 0x49) := by
  simp only [StandsFor, upperSubstitutes, ← Char.toNat_inj, (toNat_letter alpha).2, List.mem_cons, List.not_mem_nil,
    or_false, Prod.mk.injEq, Char.reduceToNat]

theorem standsFor_lowerSubstitutes_iff (alpha : letter.isAlpha = true) :
    StandsFor lowerSubstitutes c letter ↔
      c.toNat = letter.toUpper.toNat ∨ c.toNat = letter.toUpper.toNat + 0x20 ∨
        (c.toNat = 0x212A ∧ letter.toUpper.toNat = 0x4B) := by
  simp only [StandsFor, lowerSubstitutes, ← Char.toNat_inj, (toNat_letter alpha).2, List.mem_cons, List.not_mem_nil,
    or_false, Prod.mk.injEq, Char.reduceToNat]

/-- What becomes several characters in upper case is neither in ASCII nor one of the substitutes. -/
theorem upperExpansions_several : ∀ entry ∈ upperExpansions,
    entry.2.length ≠ 1 ∧ 0x80 ≤ entry.1 ∧ entry.1 ≠ 0x17F ∧ entry.1 ≠ 0x131 := by
  decide +kernel

theorem upperChar_cases (c : Char) :
    upperChar c = [Char.ofNat (mapCode upperRuns c.toNat)] ∨
      ∃ entry ∈ upperExpansions, entry.1 = c.toNat ∧ upperChar c = entry.2.map Char.ofNat := by
  unfold upperChar
  cases found : upperExpansions.lookup c.toNat with
  | none => exact .inl rfl
  | some codes =>
    obtain ⟨before, after, split, -⟩ := List.lookup_eq_some_iff.mp found
    have member : (c.toNat, codes) ∈ upperExpansions := by
      rw [split]
      exact List.mem_append_right _ (List.mem_cons_self ..)
    exact .inr ⟨_, member, rfl, rfl⟩

theorem upperChar_eq_iff (alpha : letter.isAlpha = true) :
    upperChar c = [letter.toUpper] ↔ StandsFor upperSubstitutes c letter := by
  obtain ⟨capital, small⟩ := toNat_letter alpha
  rcases upperChar_cases c with single | ⟨entry, member, own, several⟩
  · rw [single, List.singleton_inj, ofNat_eq_iff (by omega), standsFor_upperSubstitutes_iff alpha,
      meetsAscii_upperRuns.mapCode_eq_iff (by omega) (by dsimp only; omega)]
    simp only [List.mem_cons, List.not_mem_nil, or_false, Prod.mk.injEq]
    omega
  · obtain ⟨long, beyond⟩ := upperExpansions_several entry member
    refine iff_of_false (fun same => long ?_) fun stands => ?_
    · rw [← List.length_map (f := Char.ofNat), ← several, same, List.length_singleton]
    · rw [standsFor_upperSubstitutes_iff alpha] at stands
      omega

theorem lowerChar_eq_iff (alpha : letter.isAlpha = true) :
    lowerChar c = [letter.toLower] ↔ StandsFor lowerSubstitutes c letter := by
  obtain ⟨capital, small⟩ := toNat_letter alpha
  rw [standsFor_lowerSubstitutes_iff alpha]
  unfold lowerChar
  split
  next dotted =>
    have beyond : c.toNat = 0x130 := congrArg Char.toNat dotted
    refine iff_of_false (fun same => ?_) (by omega)
    exact List.cons_ne_nil _ _ (List.cons.inj same).2
  next =>
    rw [List.singleton_inj, ofNat_eq_iff (by omega),
      meetsAscii_lowerRuns.mapCode_eq_iff (by omega) (by dsimp only; omega)]
    simp only [List.mem_cons, List.not_mem_nil, or_false, Prod.mk.injEq]
    omega

end Letters

section Texts

/-- Whether a text has the letters of a name one by one, substitutes admitted. -/
def Spells (substitutes : List (Char × Char)) (name text : String) : Prop :=
  List.Forall₂ (StandsFor substitutes) text.toList name.toList

instance (substitutes : List (Char × Char)) (name text : String) : Decidable (Spells substitutes name text) :=
  inferInstanceAs (Decidable (List.Forall₂ _ _ _))

/-- Characters come to letters one by one, as long as none comes to several letters that stand side by side. -/
theorem flatMap_eq_map_iff {image : Char → List Char} {fold : Char → Char} {stands : Char → Char → Prop}
    {name : List Char} (single : ∀ letter ∈ name, ∀ c, image c = [fold letter] ↔ stands c letter)
    (whole : ∀ c, image c <:+: name.map fold → ∃ letter, image c = [letter]) (chars : List Char) :
    chars.flatMap image = name.map fold ↔ List.Forall₂ stands chars name := by
  induction chars generalizing name with
  | nil => rw [List.flatMap_nil, List.forall₂_nil_left_iff, eq_comm, List.map_eq_nil_iff]
  | cons c rest ih =>
    rw [List.flatMap_cons]
    constructor
    · -- The image of the first character stands at the front, so it is one letter.
      intro same
      obtain ⟨other, one⟩ := whole c ⟨[], rest.flatMap image, by rw [List.nil_append, same]⟩
      rw [one, List.singleton_append] at same
      obtain ⟨letter, others, rfl, rfl, remaining⟩ := List.map_eq_cons_iff.mp same.symm
      refine .cons ((single letter (List.mem_cons_self ..) c).mp one) ?_
      refine (ih (fun other member => single other (List.mem_cons_of_mem _ member)) ?_).mp remaining.symm
      exact fun c inside => whole c (inside.trans (List.suffix_cons ..).isInfix)
    · intro related
      obtain ⟨letter, others, first, following, rfl⟩ := List.forall₂_cons_left_iff.mp related
      have remaining := (ih (fun other member => single other (List.mem_cons_of_mem _ member))
        fun c inside => whole c (inside.trans (List.suffix_cons ..).isInfix)).mpr following
      rw [(single letter (List.mem_cons_self ..) c).mpr first, remaining, List.map_cons, List.singleton_append]

theorem standsFor_self (substitutes : List (Char × Char)) (letter : Char) : StandsFor substitutes letter letter := by
  by_cases small : letter.isLower = true
  · exact .inr (.inl (Char.toLower_eq_of_not_isUpper (Char.not_isUpper_of_isLower small)).symm)
  · exact .inl (Char.toUpper_eq_of_not_isLower small).symm

theorem spells_self (substitutes : List (Char × Char)) (name : String) : Spells substitutes name name :=
  List.forall₂_same.mpr fun letter _ => standsFor_self substitutes letter

theorem Spells.length_eq {substitutes : List (Char × Char)} {name text : String}
    (spelled : Spells substitutes name text) : text.length = name.length := by
  rw [← String.length_toList, ← String.length_toList]
  exact List.Forall₂.length_eq spelled

theorem Spells.exists_letter {substitutes : List (Char × Char)} {name text : String}
    (spelled : Spells substitutes name text) {c : Char} (member : c ∈ text.toList) :
    ∃ letter ∈ name.toList, StandsFor substitutes c letter := by
  obtain ⟨place, within, rfl⟩ := List.getElem_of_mem member
  have alike : place < name.toList.length := by rwa [← List.Forall₂.length_eq spelled]
  exact ⟨_, List.getElem_mem alike, List.Forall₂.get spelled within alike⟩

/-- Substitutes for letters that a name does not have do not matter. -/
theorem spells_nil_iff {substitutes : List (Char × Char)} {name text : String}
    (unused : ∀ pair ∈ substitutes, pair.2 ∉ name.toList.map Char.toUpper) :
    Spells substitutes name text ↔ Spells [] name text := by
  unfold Spells
  rw [List.forall₂_iff_zip, List.forall₂_iff_zip]
  refine and_congr_right fun _ => ?_
  refine forall_congr' fun c => forall_congr' fun letter => forall_congr' fun member => ?_
  have absent : (c, letter.toUpper) ∉ substitutes := fun substitute =>
    unused _ substitute (List.mem_map_of_mem (List.of_mem_zip member).2)
  simp only [StandsFor, absent, List.not_mem_nil]

section Upper
variable {name : String} (letters : ∀ letter ∈ name.toList, letter.isAlpha = true)
variable (whole : ∀ entry ∈ upperExpansions, ¬ entry.2.map Char.ofNat <:+: name.toList.map Char.toUpper)
include letters whole

theorem flatMap_upperChar_eq_iff (chars : List Char) :
    chars.flatMap upperChar = name.toList.map Char.toUpper ↔
      List.Forall₂ (StandsFor upperSubstitutes) chars name.toList := by
  refine flatMap_eq_map_iff (fun letter member _ => upperChar_eq_iff (letters letter member))
    (fun c inside => ?_) chars
  rcases upperChar_cases c with one | ⟨entry, member, -, several⟩
  · exact ⟨_, one⟩
  · rw [several] at inside
    exact absurd inside (whole entry member)

/-- Texts have the upper case of a name exactly if they spell it, unless a character can become several of
its letters at once. -/
theorem upper_eq_upper_iff (text : String) : upper text = upper name ↔ Spells upperSubstitutes name text := by
  have own := (flatMap_upperChar_eq_iff letters whole name.toList).mpr (spells_self upperSubstitutes name)
  rw [upper, upper, own, String.ofList_inj]
  exact flatMap_upperChar_eq_iff letters whole text.toList

omit whole in
/-- A spelling of a name in letters has no character that becomes several. -/
theorem Spells.length_upperChar {text : String} (spelled : Spells upperSubstitutes name text) :
    ∀ c ∈ text.toList, (upperChar c).length = 1 := by
  intro c member
  obtain ⟨letter, among, stands⟩ := spelled.exists_letter member
  rw [(upperChar_eq_iff (letters letter among)).mpr stands, List.length_singleton]

/-- The condition on expansions is needed: a sharp s becomes two letters of this name. -/
example : upper "cla\u00DF" = upper "Class" ∧ ¬ Spells upperSubstitutes "Class" "cla\u00DF" := by
  decide +kernel

end Upper

section Lower

/-- Without a capital sigma every character has its lower case on its own. -/
theorem lowerFrom_eq_flatMap {chars : List Char} (plain : 'Σ' ∉ chars) (inWord : Bool) :
    lowerFrom inWord chars = chars.flatMap lowerChar := by
  induction chars generalizing inWord with
  | nil => rfl
  | cons c rest ih =>
    have other : c ≠ 'Σ' := fun same => plain (same ▸ List.mem_cons_self ..)
    rw [lowerFrom, if_neg other, ih (fun member => plain (List.mem_cons_of_mem _ member)), List.flatMap_cons]

/-- A capital sigma does not vanish. -/
theorem sigma_mem_lowerFrom {chars : List Char} (member : 'Σ' ∈ chars) (inWord : Bool) :
    'ς' ∈ lowerFrom inWord chars ∨ 'σ' ∈ lowerFrom inWord chars := by
  induction chars generalizing inWord with
  | nil => exact absurd member List.not_mem_nil
  | cons c rest ih =>
    rw [lowerFrom, List.mem_append, List.mem_append]
    by_cases here : c = 'Σ'
    · rw [if_pos here, List.mem_singleton, List.mem_singleton]
      by_cases ending : (inWord && !continuesWord rest) = true
      · exact .inl (.inl (if_pos ending).symm)
      · exact .inr (.inl (if_neg ending).symm)
    · have later := (List.mem_cons.mp member).resolve_left (Ne.symm here)
      exact (ih later _).imp .inr .inr

/-- For texts in ASCII the neighbours of a sigma do not matter. -/
theorem lowerFrom_eq_iff {word : List Char} (ascii : ∀ c ∈ word, c.toNat < 0x80) (inWord : Bool)
    (chars : List Char) : lowerFrom inWord chars = word ↔ chars.flatMap lowerChar = word := by
  by_cases sigma : 'Σ' ∈ chars
  · have beyond (c : Char) (high : 0x80 ≤ c.toNat) : c ∉ word := fun member => by
      have := ascii c member
      omega
    have low : 'σ' ∈ chars.flatMap lowerChar := List.mem_flatMap.mpr ⟨_, sigma, by decide +kernel⟩
    refine iff_of_false ?_ ?_
    · rintro rfl
      rcases sigma_mem_lowerFrom sigma inWord with final | inner
      · exact beyond 'ς' (by decide) final
      · exact beyond 'σ' (by decide) inner
    · rintro rfl
      exact beyond 'σ' (by decide) low
  · rw [lowerFrom_eq_flatMap sigma]

variable {name : String} (letters : ∀ letter ∈ name.toList, letter.isAlpha = true)
include letters

theorem lowerFrom_eq_map_iff (inWord : Bool) (chars : List Char) :
    lowerFrom inWord chars = name.toList.map Char.toLower ↔
      List.Forall₂ (StandsFor lowerSubstitutes) chars name.toList := by
  have ascii : ∀ c ∈ name.toList.map Char.toLower, c.toNat < 0x80 := by
    intro c member
    obtain ⟨letter, among, rfl⟩ := List.mem_map.mp member
    have bounds := toNat_letter (letters letter among)
    omega
  rw [lowerFrom_eq_iff ascii]
  refine flatMap_eq_map_iff (fun letter member _ => lowerChar_eq_iff (letters letter member))
    (fun c inside => ?_) chars
  unfold lowerChar at inside ⊢
  split
  next dotted =>
    rw [if_pos dotted] at inside
    have dot := ascii '\u0307' (inside.subset (List.mem_cons_of_mem _ (List.mem_singleton_self _)))
    exact absurd dot (by decide)
  next => exact ⟨_, rfl⟩

/-- Texts have the lower case of a name exactly if they spell it. -/
theorem lower_eq_lower_iff (text : String) : lower text = lower name ↔ Spells lowerSubstitutes name text := by
  have own := (lowerFrom_eq_map_iff letters false name.toList).mpr (spells_self lowerSubstitutes name)
  rw [lower, lower, own, String.ofList_inj]
  exact lowerFrom_eq_map_iff letters false text.toList

/-- Only k has a substitute in lower case. -/
theorem lower_eq_lower_iff_of_no_k (noK : 'K' ∉ name.toList.map Char.toUpper) (text : String) :
    lower text = lower name ↔ Spells [] name text := by
  rw [lower_eq_lower_iff letters]
  refine spells_nil_iff fun pair member => ?_
  obtain rfl := List.mem_singleton.mp member
  exact noK

end Lower

end Texts

end ScriptLint.Text
