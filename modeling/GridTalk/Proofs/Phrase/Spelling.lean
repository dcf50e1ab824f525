import GridTalk.Proofs.Phrase.Search
import GridTalk.Proofs.Text.Lower

/-!
# How the words of a phrase are spelled

A word of a phrase is in small letters.  In any case each of them can be spelled by either letter,
k by the Kelvin sign and s by the long s as well.

* `standsFor`: the small letter that a character stands for.
* `spellsWord_iff`: a text spells a word when its characters stand for the letters of the word.
* `isWord_of_map_standsFor`: such a text has no blanks.
* `prefix_fold_of_prefix_map`: without k and s a word is spelled by its own letters only.
-/

namespace GridTalk

open Text

/-- The small letter that a character stands for in any case. -/
def standsFor (c : Char) : Char := if c = '\u017f' then 's' else smallLetter c

/-- Only the ASCII letters and the two signs stand for small letters. -/
theorem isAlpha_of_isLower_standsFor {c : Char} (h : (standsFor c).isLower) :
    c.isAlpha ∨ c = '\u212a' ∨ c = '\u017f' := by
  by_cases hlong : c = '\u017f'
  · exact .inr (.inr hlong)
  · by_cases hkelvin : c = '\u212a'
    · exact .inr (.inl hkelvin)
    · rw [standsFor, if_neg hlong, smallLetter, if_neg hkelvin] at h
      exact .inl (isAlpha_of_isLower_toLower h)

theorem letterAgrees_iff {letter : Char} (hletter : letter.isLower) (c : Char) :
    letterAgrees true letter c = true ↔ standsFor c = letter := by
  have hsign : ∀ {d : Char}, d.isLower = false → d ≠ letter := by
    rintro d hd rfl
    rw [hd] at hletter
    cases hletter
  by_cases hlong : c = '\u017f'
  · subst hlong
    have hlower : '\u017f' ≠ letter := hsign (by decide)
    simpa [letterAgrees, standsFor, hlower] using eq_comm
  · by_cases hkelvin : c = '\u212a'
    · subst hkelvin
      have hlower : '\u212a' ≠ letter := hsign (by decide)
      simpa [letterAgrees, standsFor, smallLetter, hlower] using eq_comm
    · simp [letterAgrees, standsFor, smallLetter, hlong, hkelvin]

/-- An ASCII letter stands for itself in the small form. -/
theorem standsFor_of_isAlpha {c : Char} (h : c.isAlpha) : standsFor c = c.toLower := by
  have hsign : ∀ {d : Char}, d.isAlpha = false → c ≠ d := by
    rintro d hd rfl
    rw [hd] at h
    cases h
  rw [standsFor, if_neg (hsign (by decide)), smallLetter, if_neg (hsign (by decide))]

/-- A text spells a word when its characters stand for the letters of the word. -/
theorem spellsWord_iff {w t : List Char} (hw : InSmallLetters w) :
    spellsWord true w t = true ↔ t.map standsFor = w := by
  induction w generalizing t with
  | nil => cases t <;> simp [spellsWord]
  | cons letter w ih =>
    cases t with
    | nil => simp [spellsWord]
    | cons c t =>
      have hrest := ih (t := t) fun d hd => hw d (List.mem_cons_of_mem letter hd)
      have hhead := letterAgrees_iff (hw letter (List.mem_cons_self ..)) c
      rw [List.map_cons, List.cons.injEq, ← hrest, ← hhead, spellsWord_cons, Bool.and_eq_true]

theorem isBlank_of_isLower_standsFor {c : Char} (h : (standsFor c).isLower) :
    isBlank c = false := by
  rcases isAlpha_of_isLower_standsFor h with halpha | rfl | rfl
  · exact isBlank_of_isAlphanum (isAlphanum_of_isAlpha halpha)
  · decide
  · decide

/-- What spells a word is one. -/
theorem isWord_of_map_standsFor {w t : List Char} (hw : InSmallLetters w) (hne : w ≠ [])
    (h : t.map standsFor = w) : IsWord t := by
  subst h
  exact ⟨fun hnil => hne (by rw [hnil]; rfl),
    fun c hc => isBlank_of_isLower_standsFor (hw _ (List.mem_map_of_mem hc))⟩

/-- Lower case writes the letters that the characters stand for, but leaves the long s. -/
theorem lowerAfter_of_standsFor {t before : List Char} (h : InSmallLetters (t.map standsFor)) :
    lowerAfter before t = t.map fun c => if c = '\u017f' then c else standsFor c := by
  induction t generalizing before with
  | nil => rfl
  | cons c t ih =>
    rw [List.map_cons] at h
    have hrest : lowerAfter (c :: before) t = _ := ih fun d hd => h d (List.mem_cons_of_mem _ hd)
    have hhead : c ≠ 'Σ' ∧ toLower c = [if c = '\u017f' then c else standsFor c] := by
      rcases isAlpha_of_isLower_standsFor (h _ (List.mem_cons_self ..)) with halpha | rfl | rfl
      · have hascii := lt_of_isAlpha halpha
        have hne : ∀ d : Char, 128 ≤ d.toNat → c ≠ d := by
          rintro d hd rfl
          omega
        rw [toLower_of_lt hascii, if_neg (hne _ (by decide)), standsFor_of_isAlpha halpha]
        exact ⟨hne _ (by decide), rfl⟩
      · exact ⟨by decide, by decide⟩
      · exact ⟨by decide, by decide⟩
    rw [lowerAfter_cons_of_ne hhead.1, hhead.2, hrest]
    rfl

/-- A word in the lower case of a text that spells a word is spelled in this text. -/
theorem infix_of_infix_lower {t v w : List Char} (hw : InSmallLetters w)
    (ht : t.map standsFor = w) (hv : '\u017f' ∉ v) (h : v <:+: lower t) : v <:+: w := by
  subst ht
  rw [lower, lowerAfter_of_standsFor hw] at h
  have hlong := h.map fun c => if c = '\u017f' then 's' else c
  rw [List.map_map] at hlong
  have hsame : v.map (fun c => if c = '\u017f' then 's' else c) = v := by
    refine List.map_congr_left (fun c hc => if_neg ?_) |>.trans (List.map_id v)
    rintro rfl
    exact hv hc
  rw [hsame] at hlong
  have hletters : ∀ c ∈ t, ((fun c => if c = '\u017f' then 's' else c) ∘
      fun c => if c = '\u017f' then c else standsFor c) c = standsFor c := by
    intro c hc
    by_cases hlong : c = '\u017f'
    · simp [hlong, standsFor]
    · have hsmall : standsFor c ≠ '\u017f' := by
        intro heq
        have hlower := hw _ (List.mem_map_of_mem hc)
        rw [heq] at hlower
        exact absurd hlower (by decide)
      simp [hlong, hsmall]
  rwa [List.map_congr_left hletters] at hlong

/-- The word has no letter which a sign stands for. -/
def WithoutSigns (w : List Char) : Prop := ∀ c ∈ w, c ≠ 'k' ∧ c ≠ 's'

instance (w : List Char) : Decidable (WithoutSigns w) :=
  inferInstanceAs (Decidable (∀ _ ∈ w, _))

theorem toLower_eq_of_smallLetter {c d : Char} (h : smallLetter c = d) (hd : d ≠ 'k') :
    c.toLower = d := by
  rw [smallLetter] at h
  split at h
  · exact absurd h.symm hd
  · exact h

theorem toLower_eq_of_standsFor {c d : Char} (h : standsFor c = d) (hd : d ≠ 'k' ∧ d ≠ 's') :
    c.toLower = d := by
  rw [standsFor] at h
  split at h
  · exact absurd h.symm hd.2
  · exact toLower_eq_of_smallLetter h hd.1

/-- A word without k and s that a text stands for is its fold. -/
theorem fold_eq_of_map {f : Char → Char} {w t : List Char} (hw : WithoutSigns w)
    (hf : ∀ c d, f c = d → d ≠ 'k' ∧ d ≠ 's' → c.toLower = d) (h : t.map f = w) : fold t = w := by
  subst h
  exact List.map_congr_left fun c hc => hf c _ rfl (hw _ (List.mem_map_of_mem hc))

theorem prefix_fold_of_prefix_map {w t : List Char} (hw : WithoutSigns w)
    (h : w <+: t.map standsFor) : w <+: fold t := by
  have htake : (t.take w.length).map standsFor = w := by
    rw [List.map_take]
    exact (List.prefix_iff_eq_take.1 h).symm
  have hfold := fold_eq_of_map hw (fun c d => toLower_eq_of_standsFor) htake
  rw [← hfold, fold, fold, List.map_take]
  exact List.take_prefix _ _

end GridTalk
