import GridTalk.Text.Case
import GridTalk.Text.WordChar

/-!
# Texts up to the case of their ASCII letters

* `Text.fold`: a text with its ASCII letters in lower case, so that two texts differ only in the
  case of such letters when their folds are equal.
* `Text.IgnoresCase`: a function of characters that does not tell a capital from its small letter;
  the character classes are checked on the 26 capitals.
* `trim_fold`, `lower_fold`, `capitalizeWords_fold`: what folding does to the functions of texts.
-/

namespace GridTalk.Text

/-- The text with its ASCII letters in lower case. -/
def fold (s : List Char) : List Char := s.map Char.toLower

/-- The function does not tell an ASCII capital from its small letter. -/
def IgnoresCase {β : Type} (f : Char → β) : Prop := ∀ c : Char, f c.toLower = f c

@[simp] theorem fold_nil : fold [] = [] := rfl

@[simp] theorem fold_cons (c : Char) (s : List Char) : fold (c :: s) = c.toLower :: fold s := rfl

theorem fold_eq_self {s : List Char} (h : ∀ c ∈ s, c.toLower = c) : fold s = s :=
  (List.map_congr_left h).trans (List.map_id s)

/-- The ASCII capitals. -/
def capitals : List Char := "ABCDEFGHIJKLMNOPQRSTUVWXYZ".toList

theorem toNat_of_isUpper {c : Char} (h : c.isUpper) : 65 ≤ c.toNat ∧ c.toNat ≤ 90 := by
  obtain ⟨hlow, hhigh⟩ : 'A'.val ≤ c.val ∧ c.val ≤ 'Z'.val := of_decide_eq_true h
  exact ⟨UInt32.le_iff_toNat_le.1 hlow, UInt32.le_iff_toNat_le.1 hhigh⟩

theorem mem_capitals_of_isUpper {c : Char} (h : c.isUpper) : c ∈ capitals := by
  have all : ∀ k < 26, Char.ofNat (65 + k) ∈ capitals := by decide
  obtain ⟨hlow, hhigh⟩ := toNat_of_isUpper h
  have hc := all (c.toNat - 65) (by omega)
  rwa [show 65 + (c.toNat - 65) = c.toNat by omega, Char.ofNat_toNat] at hc

theorem toLower_of_not_isUpper {c : Char} (h : ¬c.isUpper) : c.toLower = c := by
  unfold Char.toLower
  exact dif_neg fun hc => h (decide_eq_true hc)

/-- What holds of every capital can be checked on the list. -/
theorem forall_capitals {p : Char → Prop} [DecidablePred p] (h : capitals.all fun c => p c) :
    ∀ c ∈ capitals, p c :=
  fun c hc => of_decide_eq_true (List.all_eq_true.1 h c hc)

/-- What holds of every ASCII character can be checked on the code points. -/
theorem forall_ascii {p : Char → Prop} (h : ∀ n < 128, p (Char.ofNat n)) :
    ∀ c : Char, c.toNat < 128 → p c := by
  intro c hc
  have hp := h c.toNat hc
  rwa [Char.ofNat_toNat] at hp

section Check

variable {β : Type} {f : Char → β}

/-- Only capitals are changed, so only they have to be looked at. -/
theorem ignoresCase_of_forall (h : ∀ c ∈ capitals, f c.toLower = f c) : IgnoresCase f := by
  intro c
  by_cases hc : c.isUpper
  · exact h c (mem_capitals_of_isUpper hc)
  · rw [toLower_of_not_isUpper hc]

theorem ignoresCase_of_capitals [DecidableEq β] (h : capitals.all fun c => f c.toLower = f c) :
    IgnoresCase f :=
  ignoresCase_of_forall (forall_capitals h)

end Check

/-! ### Classes of characters -/

theorem ignoresCase_toLower : IgnoresCase Char.toLower := ignoresCase_of_capitals (by decide)
theorem ignoresCase_toUpper : IgnoresCase Char.toUpper := ignoresCase_of_capitals (by decide)
theorem ignoresCase_isAlpha : IgnoresCase Char.isAlpha := ignoresCase_of_capitals (by decide)
theorem ignoresCase_isDigit : IgnoresCase Char.isDigit := ignoresCase_of_capitals (by decide)
theorem ignoresCase_utf8Size : IgnoresCase Char.utf8Size := ignoresCase_of_capitals (by decide)
theorem ignoresCase_isBlank : IgnoresCase isBlank := ignoresCase_of_capitals (by decide)

theorem ignoresCase_isWordChar : IgnoresCase isWordChar :=
  ignoresCase_of_capitals (by decide +kernel)

theorem ignoresCase_cased : IgnoresCase casedSet.contains :=
  ignoresCase_of_capitals (by decide +kernel)

/-- No ASCII letter is skipped when the next cased letter is looked for. -/
theorem ignoresCase_caseIgnorable : IgnoresCase caseIgnorableSet.contains := by
  -- the ranges are compared with the two alphabets, not searched for each of the letters
  have ranges : ∀ r ∈ caseIgnorableSet, r.2 < 65 ∨ (90 < r.1 ∧ r.2 < 97) ∨ 122 < r.1 := by
    decide +kernel
  have letters : ∀ c ∈ capitals, (65 ≤ c.toNat ∧ c.toNat ≤ 90) ∧
      97 ≤ c.toLower.toNat ∧ c.toLower.toNat ≤ 122 := forall_capitals (by decide)
  refine ignoresCase_of_forall fun c hc => ?_
  have hletter := letters c hc
  rw [Bool.eq_iff_iff, CharSet.contains_iff, CharSet.contains_iff]
  constructor
  · rintro ⟨r, hr, h1, h2⟩
    have hrange := ranges r hr
    omega
  · rintro ⟨r, hr, h1, h2⟩
    have hrange := ranges r hr
    omega

/-- A character that is no letter is not mistaken for another one. -/
theorem toLower_eq_iff {d : Char} (hd : d ∉ capitals ∧ d ∉ capitals.map Char.toLower) (c : Char) :
    c.toLower = d ↔ c = d := by
  by_cases hc : c.isUpper
  · have hmem := mem_capitals_of_isUpper hc
    have h1 : c ≠ d := fun h => hd.1 (h ▸ hmem)
    have h2 : c.toLower ≠ d := fun h => hd.2 (List.mem_map.2 ⟨c, hmem, h⟩)
    simp only [h1, h2]
  · rw [toLower_of_not_isUpper hc]

/-! ### Parts of texts -/

section Lists

variable {p : Char → Bool}

theorem takeWhile_fold (hp : IgnoresCase p) (s : List Char) :
    (fold s).takeWhile p = fold (s.takeWhile p) := by
  rw [fold, List.takeWhile_map, show p ∘ Char.toLower = p from funext hp]
  rfl

theorem dropWhile_fold (hp : IgnoresCase p) (s : List Char) :
    (fold s).dropWhile p = fold (s.dropWhile p) := by
  rw [fold, List.dropWhile_map, show p ∘ Char.toLower = p from funext hp]
  rfl

theorem all_fold (hp : IgnoresCase p) (s : List Char) : (fold s).all p = s.all p := by
  rw [fold, List.all_map, show p ∘ Char.toLower = p from funext hp]

theorem any_fold (hp : IgnoresCase p) (s : List Char) : (fold s).any p = s.any p := by
  rw [fold, List.any_map, show p ∘ Char.toLower = p from funext hp]

end Lists

@[simp] theorem fold_eq_nil {s : List Char} : fold s = [] ↔ s = [] := List.map_eq_nil_iff

@[simp] theorem length_fold (s : List Char) : (fold s).length = s.length := List.length_map _

theorem fold_append (s t : List Char) : fold (s ++ t) = fold s ++ fold t := List.map_append

theorem fold_reverse (s : List Char) : fold s.reverse = (fold s).reverse := List.map_reverse

theorem trim_fold (s : List Char) : trim (fold s) = fold (trim s) := by
  simp only [trim, trimStart, trimEnd, dropWhile_fold ignoresCase_isBlank, ← fold_reverse]

theorem pieces_fold (s : List Char) : pieces (fold s) = (pieces s).map fold := by
  induction s with
  | nil => rfl
  | cons c r ih =>
    rw [fold_cons, pieces, pieces, ignoresCase_isBlank c, ih]
    split
    · rfl
    · cases pieces r <;> rfl

theorem words_fold (s : List Char) : words (fold s) = (words s).map fold := by
  rw [words, words, pieces_fold, List.filter_map]
  congr 2
  funext p
  cases p <;> rfl

/-! ### Case mapping -/

/-- Below 128 only the first run of a table counts if all others start above. -/
theorem mapCase_of_lt {expansions : List (Nat × List Nat)} {run : CaseRun} {runs : List CaseRun}
    (he : ∀ p ∈ expansions, 128 ≤ p.1) (hr : ∀ r ∈ runs, 128 ≤ r.first) {c : Char}
    (hc : c.toNat < 128) :
    mapCase expansions (run :: runs) c
      = [if run.contains c.toNat then run.target c.toNat else c] := by
  have hlookup : expansions.lookup c.toNat = none := by
    rw [List.lookup_eq_none_iff]
    intro p hp
    have hle := he p hp
    rw [bne_iff_ne]
    omega
  have hfind : runs.find? (·.contains c.toNat) = none := by
    rw [List.find?_eq_none]
    intro r hmem hin
    have hle := hr r hmem
    simp only [CaseRun.contains, Bool.and_eq_true, decide_eq_true_eq] at hin
    omega
  rw [mapCase, hlookup]
  simp only [mapRuns, List.find?_cons, hfind]
  cases run.contains c.toNat <;> rfl

theorem toLower_of_lt {c : Char} (hc : c.toNat < 128) : toLower c = [c.toLower] := by
  have first : ∀ c : Char, c.toNat < 128 →
      (if (⟨0x41, 0x5A, 1, 32⟩ : CaseRun).contains c.toNat then
        (⟨0x41, 0x5A, 1, 32⟩ : CaseRun).target c.toNat else c) = c.toLower :=
    forall_ascii (by decide +kernel)
  rw [← first c hc]
  exact mapCase_of_lt (by decide) (by decide +kernel) hc

theorem toUpper_of_lt {c : Char} (hc : c.toNat < 128) : toUpper c = [c.toUpper] := by
  have first : ∀ c : Char, c.toNat < 128 →
      (if (⟨0x61, 0x7A, 1, -32⟩ : CaseRun).contains c.toNat then
        (⟨0x61, 0x7A, 1, -32⟩ : CaseRun).target c.toNat else c) = c.toUpper :=
    forall_ascii (by decide +kernel)
  rw [← first c hc]
  exact mapCase_of_lt (by decide +kernel) (by decide +kernel) hc

theorem lt_of_mem_capitals : ∀ c ∈ capitals, c.toNat < 128 ∧ c.toLower.toNat < 128 :=
  forall_capitals (by decide)

theorem ignoresCase_fullLower : IgnoresCase toLower := ignoresCase_of_forall fun c hc => by
  obtain ⟨h1, h2⟩ := lt_of_mem_capitals c hc
  rw [toLower_of_lt h1, toLower_of_lt h2, ignoresCase_toLower c]

theorem ignoresCase_fullUpper : IgnoresCase toUpper := ignoresCase_of_forall fun c hc => by
  obtain ⟨h1, h2⟩ := lt_of_mem_capitals c hc
  rw [toUpper_of_lt h1, toUpper_of_lt h2, ignoresCase_toUpper c]

theorem casedAhead_fold (s : List Char) : casedAhead (fold s) = casedAhead s := by
  unfold casedAhead
  rw [dropWhile_fold ignoresCase_caseIgnorable]
  cases s.dropWhile caseIgnorableSet.contains with
  | nil => rfl
  | cons c r => exact ignoresCase_cased c

theorem lowerAfter_fold (before s : List Char) :
    lowerAfter (fold before) (fold s) = lowerAfter before s := by
  induction s generalizing before with
  | nil => rfl
  | cons c r ih =>
    have hsigma : c.toLower = 'Σ' ↔ c = 'Σ' := toLower_eq_iff (by decide) c
    rw [fold_cons, lowerAfter, lowerAfter, ← fold_cons, ih]
    simp only [hsigma, casedAhead_fold, ignoresCase_fullLower c]

/-- Lower case does not depend on the case of ASCII letters. -/
theorem lower_fold (s : List Char) : lower (fold s) = lower s := lowerAfter_fold [] s

theorem capitalizeWord_fold (s : List Char) : capitalizeWord (fold s) = capitalizeWord s := by
  cases s with
  | nil => rfl
  | cons c r =>
    rw [fold_cons, capitalizeWord, capitalizeWord, ignoresCase_fullUpper c, lower_fold]

/-- Neither does a text whose words are capitalised. -/
theorem capitalizeWords_fold (s : List Char) : capitalizeWords (fold s) = capitalizeWords s := by
  rw [capitalizeWords, capitalizeWords, words_fold, List.map_map,
    show capitalizeWord ∘ fold = capitalizeWord from funext capitalizeWord_fold]

end GridTalk.Text
