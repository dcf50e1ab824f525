import GridTalk.Proofs.LetterCase.Text
import GridTalk.Proofs.Text.Words

/-!
# The lower case of a text

Which characters become small ASCII letters, and what becomes of the words of a text.

* `InSmallLetters`: a text of small ASCII letters.
* `toLower_cases`: what lower case makes of one character, read off the tables.
* `isAlpha_or_kelvin_of_toLower`: besides the ASCII letters only the Kelvin sign becomes nothing but
  small ASCII letters; `lowerAfter_eq_map_smallLetter` is about a whole text.
* `words_lower`: the words of a text in lower case are its words in lower case.
* `lower_of_ascii`: an ASCII text is folded.
-/

namespace GridTalk.Text

/-! ### ASCII letters and digits -/

theorem isAlpha_iff {c : Char} : c.isAlpha ↔ c.isUpper ∨ c.isLower := Bool.or_eq_true_iff

theorem le_of_isLower {c : Char} (h : c.isLower) : c.toNat ≤ 122 :=
  UInt32.le_iff_toNat_le.1 (of_decide_eq_true (Bool.and_eq_true_iff.1 h).2)

theorem lt_of_isAlpha {c : Char} (h : c.isAlpha) : c.toNat < 128 := by
  rcases isAlpha_iff.1 h with h | h
  · exact Nat.lt_of_le_of_lt (toNat_of_isUpper h).2 (by decide)
  · exact Nat.lt_of_le_of_lt (le_of_isLower h) (by decide)

theorem lt_of_isAlphanum {c : Char} (h : c.isAlphanum) : c.toNat < 128 := by
  simp only [Char.isAlphanum, Char.isDigit, Bool.or_eq_true, Bool.and_eq_true, decide_eq_true_eq,
    UInt32.le_iff_toNat_le] at h
  rcases h with h | ⟨-, h⟩
  · exact lt_of_isAlpha h
  · exact Nat.lt_of_le_of_lt h (by decide)

theorem isAlphanum_of_isAlpha {c : Char} (h : c.isAlpha) : c.isAlphanum := by
  simp [Char.isAlphanum, h]

theorem isAlphanum_of_isDigit {c : Char} (h : c.isDigit) : c.isAlphanum := by
  simp [Char.isAlphanum, h]

theorem isAlpha_of_isLower {c : Char} (h : c.isLower) : c.isAlpha := isAlpha_iff.2 (.inr h)

theorem isAlpha_of_isDigit {c : Char} (h : c.isDigit) : c.isAlpha = false := by
  have hall : ∀ c : Char, c.toNat < 128 → c.isDigit → c.isAlpha = false := forall_ascii (by decide)
  exact hall c (lt_of_isAlphanum (isAlphanum_of_isDigit h)) h

theorem isLower_toLower {c : Char} (h : c.isAlpha) : c.toLower.isLower := by
  have hall : ∀ c : Char, c.toNat < 128 → c.isAlpha → c.toLower.isLower := forall_ascii (by decide)
  exact hall c (lt_of_isAlpha h) h

theorem toLower_of_isLower {c : Char} (h : c.isLower) : c.toLower = c := by
  have hall : ∀ c : Char, c.toNat < 128 → c.isLower → c.toLower = c := forall_ascii (by decide)
  exact hall c (lt_of_isAlpha (isAlpha_of_isLower h)) h

theorem isAlpha_of_isLower_toLower {c : Char} (h : c.toLower.isLower) : c.isAlpha := by
  by_cases hc : c.isUpper
  · exact isAlpha_iff.2 (.inl hc)
  · rw [toLower_of_not_isUpper hc] at h
    exact isAlpha_of_isLower h

/-- The word is in small letters. -/
def InSmallLetters (w : List Char) : Prop := ∀ c ∈ w, c.isLower

instance (w : List Char) : Decidable (InSmallLetters w) := inferInstanceAs (Decidable (∀ _ ∈ w, _))

theorem fold_of_inSmallLetters {w : List Char} (hw : InSmallLetters w) : fold w = w :=
  fold_eq_self fun c hc => toLower_of_isLower (hw c hc)

theorem isBlank_of_isAlphanum {c : Char} (h : c.isAlphanum) : isBlank c = false := by
  have hall : ∀ c : Char, c.toNat < 128 → c.isAlphanum → isBlank c = false :=
    forall_ascii (by decide)
  exact hall c (lt_of_isAlphanum h) h

theorem isWord_of_isAlphanum {s : List Char} (h : IsRun Char.isAlphanum s) : IsWord s :=
  ⟨h.1, fun c hc => isBlank_of_isAlphanum (h.2 c hc)⟩

theorem isWord_of_isAlpha {s : List Char} (h : IsRun Char.isAlpha s) : IsWord s :=
  isWord_of_isAlphanum (h.imp isAlphanum_of_isAlpha)

theorem isWord_of_isDigit {s : List Char} (h : IsRun Char.isDigit s) : IsWord s :=
  isWord_of_isAlphanum (h.imp isAlphanum_of_isDigit)

/-! ### One character -/

/-- The letters that a run makes are characters and not blank.  But for the ASCII capitals and the
Kelvin sign they come behind the ASCII letters. -/
theorem lowerRuns_bounds : ∀ r ∈ lowerRuns, 0 ≤ r.first + r.shift ∧
    (r.last + r.shift < 0xD800 ∨ 0xDFFF < r.first + r.shift ∧ r.last + r.shift < 0x110000) ∧
    (∀ b ∈ blankSet, r.last + r.shift < b.1 ∨ b.2 < r.first + r.shift) ∧
    (r.last < 128 ∨ r.first = 0x212A ∧ r.last = 0x212A ∨ 122 < r.first + r.shift) := by
  decide +kernel

theorem toNat_ofNat {n : Nat} (h : n < 0xD800 ∨ 0xDFFF < n ∧ n < 0x110000) :
    (Char.ofNat n).toNat = n := by
  rw [Char.ofNat, dif_pos h]
  rfl

/-- What a run makes of one of its letters. -/
theorem target_of_contains {r : CaseRun} (hr : r ∈ lowerRuns) {n : Nat} (h : r.contains n = true) :
    isBlank (r.target n) = false ∧ (n < 128 ∨ n = 0x212A ∨ 122 < (r.target n).toNat) := by
  obtain ⟨hpos, hvalid, hblank, hletter⟩ := lowerRuns_bounds r hr
  simp only [CaseRun.contains, Bool.and_eq_true, decide_eq_true_eq] at h
  have htarget : (r.target n).toNat = (n + r.shift).toNat := toNat_ofNat (by omega)
  constructor
  · rw [isBlank, Bool.eq_false_iff, ne_eq, CharSet.contains_iff]
    rintro ⟨b, hb, hmem⟩
    have hdisjoint := hblank b hb
    omega
  · omega

/-- Lower case leaves a character as it is, divides `İ` into two, or exchanges it for a letter that
one of the runs makes. -/
theorem toLower_cases (c : Char) :
    toLower c = [c] ∨ (c = 'İ' ∧ toLower c = ['i', '\u0307']) ∨
      ∃ r ∈ lowerRuns, r.contains c.toNat = true ∧ toLower c = [r.target c.toNat] := by
  by_cases hdot : c = 'İ'
  · subst hdot
    exact .inr (.inl ⟨rfl, by decide⟩)
  · have hlookup : lowerExpansions.lookup c.toNat = none := by
      rw [List.lookup_eq_none_iff]
      intro p hp
      rw [lowerExpansions, List.mem_singleton] at hp
      subst hp
      rw [bne_iff_ne]
      exact fun h => hdot (Char.toNat_inj.1 h)
    rw [toLower, mapCase, hlookup]
    dsimp only [mapRuns]
    cases hfind : lowerRuns.find? (·.contains c.toNat) with
    | none => exact .inl rfl
    | some r =>
      have hr : r.contains c.toNat = true := by simpa using List.find?_some hfind
      exact .inr (.inr ⟨r, List.mem_of_find?_eq_some hfind, hr, rfl⟩)

/-- Blanks have no case. -/
theorem toLower_of_isBlank {c : Char} (hc : isBlank c = true) : toLower c = [c] := by
  have hruns : ∀ r ∈ lowerRuns, ∀ b ∈ blankSet, r.last < b.1 ∨ b.2 < r.first := by decide +kernel
  obtain h | ⟨rfl, -⟩ | ⟨r, hr, hcontains, -⟩ := toLower_cases c
  · exact h
  · exact absurd hc (by decide)
  · obtain ⟨b, hb, hmem⟩ := CharSet.contains_iff.1 hc
    have hdisjoint := hruns r hr b hb
    simp only [CaseRun.contains, Bool.and_eq_true, decide_eq_true_eq] at hcontains
    omega

/-- The lower case of a character that is not blank has no blank in it. -/
theorem isWord_toLower {c : Char} (hc : isBlank c = false) : IsWord (toLower c) := by
  obtain h | ⟨rfl, h⟩ | ⟨r, hr, hcontains, h⟩ := toLower_cases c
  · rw [h]
    exact ⟨by simp, by simpa using hc⟩
  · rw [h]
    decide
  · rw [h]
    exact ⟨by simp, by simpa using (target_of_contains hr hcontains).1⟩

/-- Only ASCII letters and the Kelvin sign become nothing but small ASCII letters. -/
theorem isAlpha_or_kelvin_of_toLower {c : Char} (h : ∀ d ∈ toLower c, d.isLower) :
    c.isAlpha ∨ c = '\u212a' := by
  by_cases hascii : c.toNat < 128
  · rw [toLower_of_lt hascii] at h
    have hsmall : ∀ c : Char, c.toNat < 128 → c.toLower.isLower → c.isAlpha :=
      forall_ascii (by decide)
    exact .inl (hsmall c hascii (h _ (List.mem_singleton_self _)))
  · obtain hsame | ⟨rfl, hdot⟩ | ⟨r, hr, hcontains, htarget⟩ := toLower_cases c
    · have hc := le_of_isLower (h c (by simp [hsame]))
      omega
    · rw [hdot] at h
      exact absurd (h '\u0307' (by simp)) (by decide)
    · have hc := le_of_isLower (h (r.target c.toNat) (by simp [htarget]))
      obtain hlow | hkelvin | hhigh := (target_of_contains hr hcontains).2
      · omega
      · exact .inr (Char.toNat_inj.1 hkelvin)
      · omega

/-- No character becomes the Kelvin sign, which has a lower case of its own. -/
theorem kelvin_not_mem_toLower (c : Char) : '\u212a' ∉ toLower c := by
  have hruns : ∀ r ∈ lowerRuns, r.last + r.shift < 0x212A ∨ 0x212A < r.first + r.shift := by
    decide +kernel
  obtain hsame | ⟨-, hdot⟩ | ⟨r, hr, hcontains, htarget⟩ := toLower_cases c
  · rw [hsame, List.mem_singleton]
    rintro rfl
    exact absurd hsame (by decide)
  · rw [hdot]
    decide
  · rw [htarget, List.mem_singleton]
    intro hkelvin
    obtain ⟨hpos, hvalid, -, -⟩ := lowerRuns_bounds r hr
    have hrange := hruns r hr
    simp only [CaseRun.contains, Bool.and_eq_true, decide_eq_true_eq] at hcontains
    have hnumber : (r.target c.toNat).toNat = (c.toNat + r.shift).toNat := toNat_ofNat (by omega)
    rw [← hkelvin] at hnumber
    have hvalue : ('\u212a').toNat = 0x212A := by decide
    omega

/-! ### A whole text -/

/-- Without a sigma each character is taken by itself. -/
theorem lowerAfter_cons_of_ne {c : Char} (hc : c ≠ 'Σ') (before r : List Char) :
    lowerAfter before (c :: r) = toLower c ++ lowerAfter (c :: before) r := by
  rw [lowerAfter, if_neg hc]

theorem lowerAfter_of_ascii {s : List Char} (h : ∀ c ∈ s, c.toNat < 128) (before : List Char) :
    lowerAfter before s = fold s := by
  induction s generalizing before with
  | nil => rfl
  | cons c r ih =>
    have hc := h c (List.mem_cons_self ..)
    have hsigma : c ≠ 'Σ' := by
      rintro rfl
      exact absurd hc (by decide)
    rw [lowerAfter_cons_of_ne hsigma, toLower_of_lt hc,
      ih fun d hd => h d (List.mem_cons_of_mem c hd)]
    rfl

/-- An ASCII text is folded. -/
theorem lower_of_ascii {s : List Char} (h : ∀ c ∈ s, c.toNat < 128) : lower s = fold s :=
  lowerAfter_of_ascii h []

theorem lower_eq_self {s : List Char} (hascii : ∀ c ∈ s, c.toNat < 128)
    (h : ∀ c ∈ s, c.toLower = c) : lower s = s := by
  rw [lower_of_ascii hascii, fold_eq_self h]

theorem kelvin_not_mem_lower (s : List Char) : '\u212a' ∉ lower s := by
  have hafter : ∀ before, '\u212a' ∉ lowerAfter before s := by
    induction s with
    | nil => simp [lowerAfter]
    | cons c r ih =>
      intro before
      rw [lowerAfter, List.mem_append, not_or]
      refine ⟨?_, ih _⟩
      split
      · split
        · decide
        · decide
      · exact kelvin_not_mem_toLower c
  exact hafter []

theorem exists_isWord_head (before : List Char) {c : Char} (hc : isBlank c = false)
    (r : List Char) :
    ∃ t, IsWord t ∧ lowerAfter before (c :: r) = t ++ lowerAfter (c :: before) r := by
  rw [lowerAfter]
  split
  · refine ⟨_, ?_, rfl⟩
    split
    · decide
    · decide
  · exact ⟨_, isWord_toLower hc, rfl⟩

/-- A word is still one in lower case. -/
theorem isWord_lowerAfter {w : List Char} (hw : IsWord w) (before : List Char) :
    IsWord (lowerAfter before w) := by
  obtain ⟨hne, hall⟩ := hw
  induction w generalizing before with
  | nil => exact absurd rfl hne
  | cons c r ih =>
    obtain ⟨t, ht, heq⟩ := exists_isWord_head before (hall c (List.mem_cons_self ..)) r
    rw [heq]
    by_cases hr : r = []
    · simpa [hr, lowerAfter] using ht
    · exact ht.append (ih _ hr fun d hd => hall d (List.mem_cons_of_mem c hd))

theorem isWord_lower {w : List Char} (hw : IsWord w) : IsWord (lower w) := isWord_lowerAfter hw []

theorem contains_of_disjoint {s t : CharSet} {c : Char}
    (h : ∀ r ∈ s, ∀ b ∈ t, r.2 < b.1 ∨ b.2 < r.1) (hc : t.contains c = true) :
    s.contains c = false := by
  rw [Bool.eq_false_iff, ne_eq, CharSet.contains_iff]
  rintro ⟨r, hr, hmem⟩
  obtain ⟨b, hb, hmem'⟩ := CharSet.contains_iff.1 hc
  have hdisjoint := h r hr b hb
  omega

section Gap

variable {c : Char} (hc : isBlank c = true)
include hc

/-- Behind a blank no cased letter is looked for. -/
theorem casedAhead_append_blank (u v : List Char) : casedAhead (u ++ c :: v) = casedAhead u := by
  have hskip : caseIgnorableSet.contains c = false := contains_of_disjoint (by decide +kernel) hc
  have hcased : casedSet.contains c = false := contains_of_disjoint (by decide +kernel) hc
  induction u with
  | nil => simp [casedAhead, hskip, hcased]
  | cons d u ih =>
    unfold casedAhead at ih ⊢
    by_cases hd : caseIgnorableSet.contains d = true
    · simpa [List.dropWhile_cons, hd] using ih
    · simp [hd]

theorem lowerAfter_append_blank_before (u before t : List Char) :
    lowerAfter (u ++ c :: before) t = lowerAfter u t := by
  induction t generalizing u with
  | nil => rfl
  | cons d t ih =>
    rw [lowerAfter, lowerAfter, casedAhead_append_blank hc, ← List.cons_append, ih]

/-- A text is put in lower case before and after a blank. -/
theorem lowerAfter_append_blank (before s t : List Char) :
    lowerAfter before (s ++ c :: t) = lowerAfter before s ++ c :: lower t := by
  induction s generalizing before with
  | nil =>
    have hsigma : c ≠ 'Σ' := by
      rintro rfl
      exact absurd hc (by decide)
    rw [List.nil_append, lowerAfter_cons_of_ne hsigma, toLower_of_isBlank hc]
    exact congrArg (c :: ·) (lowerAfter_append_blank_before hc [] before t)
  | cons d s ih =>
    rw [List.cons_append, lowerAfter, lowerAfter, casedAhead_append_blank hc, ih,
      List.append_assoc]

theorem lower_append_blank (s t : List Char) : lower (s ++ c :: t) = lower s ++ c :: lower t :=
  lowerAfter_append_blank hc [] s t

end Gap

/-- The words of a text in lower case are its words in lower case. -/
theorem words_lower (s : List Char) : words (lower s) = (words s).map lower := by
  induction hn : s.length using Nat.strongRecOn generalizing s with
  | _ n ih =>
    -- the text is divided behind its first word
    have hword : ∀ c ∈ s.takeWhile (!isBlank ·), isBlank c = false := fun c hc => by
      simpa using List.all_eq_true.1 List.all_takeWhile c hc
    have hfirst : words (lower (s.takeWhile (!isBlank ·)))
        = (words (s.takeWhile (!isBlank ·))).map lower := by
      by_cases hne : s.takeWhile (!isBlank ·) = []
      · rw [hne]
        rfl
      · rw [words_of_isWord ⟨hne, hword⟩, words_of_isWord (isWord_lower ⟨hne, hword⟩)]
        rfl
    have hsplit := List.takeWhile_append_dropWhile (p := (!isBlank ·)) (l := s)
    cases hrest : s.dropWhile (!isBlank ·) with
    | nil =>
      rw [hrest, List.append_nil] at hsplit
      rwa [hsplit] at hfirst
    | cons c t =>
      have hc : isBlank c = true := by
        have hhead := List.head_dropWhile_not (!isBlank ·) (l := s) (by simp [hrest])
        simpa [hrest] using hhead
      rw [hrest] at hsplit
      have hlength : t.length < n := by
        rw [← hn, ← hsplit]
        simp
        omega
      rw [← hsplit, lower_append_blank hc, words_append_blank hc, words_append_blank hc, hfirst,
        ih _ hlength t rfl, List.map_append]

/-- A word is found in the lower case of a text when it is found in that of one of its words. -/
theorem infix_lower_iff {v s : List Char} (hv : IsWord v) :
    v <:+: lower s ↔ ∃ w ∈ words s, v <:+: lower w := by
  constructor
  · intro hinfix
    obtain ⟨w, hw, hvw⟩ := exists_word_of_infix hv hinfix
    rw [words_lower] at hw
    obtain ⟨u, hu, rfl⟩ := List.mem_map.1 hw
    exact ⟨u, hu, hvw⟩
  · rintro ⟨w, hw, hvw⟩
    have hmem : lower w ∈ words (lower s) := by
      rw [words_lower]
      exact List.mem_map_of_mem hw
    exact hvw.trans (infix_of_mem_words hmem)

theorem lower_spaced (ws : List (List Char)) (x : List Char) :
    lower (spaced ws x) = spaced (ws.map lower) (lower x) := by
  induction ws with
  | nil => rfl
  | cons w ws ih =>
    rw [spaced_cons, lower_append_blank (by decide), ih]
    rfl

/-! ### Small letters -/

/-- The small letter of an ASCII letter or of the Kelvin sign. -/
def smallLetter (c : Char) : Char := if c = '\u212a' then 'k' else c.toLower

/-- When the lower case of a text has only small ASCII letters, the text has only ASCII letters and
Kelvin signs. -/
theorem lowerAfter_eq_map_smallLetter {w before : List Char}
    (h : ∀ d ∈ lowerAfter before w, d.isLower) :
    (∀ c ∈ w, c.isAlpha ∨ c = '\u212a') ∧ lowerAfter before w = w.map smallLetter := by
  induction w generalizing before with
  | nil => exact ⟨by simp, rfl⟩
  | cons c r ih =>
    by_cases hsigma : c = 'Σ'
    · have hd := h (if casedAhead before && !casedAhead r then 'ς' else 'σ')
        (by simp [lowerAfter, hsigma])
      split at hd
      · exact absurd hd (by decide)
      · exact absurd hd (by decide)
    · rw [lowerAfter_cons_of_ne hsigma] at h ⊢
      have hc := isAlpha_or_kelvin_of_toLower fun d hd => h d (List.mem_append_left _ hd)
      obtain ⟨hr, heq⟩ := ih fun d hd => h d (List.mem_append_right _ hd)
      refine ⟨List.forall_mem_cons.2 ⟨hc, hr⟩, ?_⟩
      have hhead : toLower c = [smallLetter c] := by
        rcases hc with halpha | rfl
        · have hascii := lt_of_isAlpha halpha
          have hkelvin : c ≠ '\u212a' := by
            rintro rfl
            exact absurd hascii (by decide)
          rw [toLower_of_lt hascii, smallLetter, if_neg hkelvin]
        · decide
      rw [heq, hhead]
      rfl

end GridTalk.Text
