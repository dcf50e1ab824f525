import GridTalk.Expression.Reading
import GridTalk.Proofs.Text.Lower

/-!
# Keywords

A keyword is compared with a text letter by letter, but what it takes from the text is counted in
bytes.  A letter of the text may have more bytes than the letter that it agrees with, and then the
bytes of the keyword end inside a character.

* `startsWith_iff`, `isKeyword_iff`: the texts that start with a word, and those that are a keyword.
* `BlankWithKelvin`, `splitsCharacter_iff`: the texts that cannot be divided behind a keyword.
* `byteSize`, `dropBytes?`: texts in bytes; `isValid_iff` is about the positions in a string.
* `attempt`, `attempt_cases`: what comes of trying a keyword in bytes.
* `readBytes`, `ofText_eq_readBytes`: reading is trying the keywords in bytes, one after the other.
-/

namespace GridTalk.Expression

open Text

/-! ### Letters that agree -/

/-- Only the letters whose small letter it is agree with a small letter. -/
theorem toLower_eq_toLower_iff {c d : Char} (hc : c.isLower) :
    toLower c = toLower d ↔ smallLetter d = c := by
  have hsame : toLower c = [c] := by
    rw [toLower_of_lt (lt_of_isAlpha (isAlpha_of_isLower hc)), toLower_of_isLower hc]
  rw [hsame, smallLetter]
  split
  · next hkelvin =>
    have hk : toLower '\u212a' = ['k'] := by decide
    rw [hkelvin, hk, List.singleton_inj, eq_comm]
  · next hkelvin =>
    constructor
    · intro h
      have hsmall : ∀ d' ∈ toLower d, d'.isLower := by
        rw [← h]
        simpa using hc
      have halpha : d.isAlpha := (isAlpha_or_kelvin_of_toLower hsmall).resolve_right hkelvin
      rw [toLower_of_lt (lt_of_isAlpha halpha)] at h
      exact (List.singleton_inj.1 h).symm
    · rintro rfl
      rw [toLower_of_lt (lt_of_isAlpha (isAlpha_of_isLower_toLower hc))]

/-- Do the letters of the word and of the text agree, as far as both of them go? -/
def agrees (word s : List Char) : Bool := (word.zip s).all fun p => toLower p.1 == toLower p.2

theorem agrees_iff {w s : List Char} (hw : InSmallLetters w) :
    agrees w s = true ↔ (s.take w.length).map smallLetter = w.take s.length := by
  induction w generalizing s with
  | nil => simp [agrees]
  | cons c w ih =>
    obtain ⟨hc, hw⟩ := List.forall_mem_cons.1 hw
    cases s with
    | nil => simp [agrees]
    | cons d s =>
      have hcons : agrees (c :: w) (d :: s) = (toLower c == toLower d && agrees w s) := rfl
      rw [hcons, Bool.and_eq_true, beq_iff_eq, toLower_eq_toLower_iff hc, ih hw]
      simp

/-- A word is found at the start of the texts whose first letters have it for their small
letters. -/
theorem startsWith_iff {w s : List Char} (hw : InSmallLetters w) :
    startsWith w s = true ↔ ∃ u r, s = u ++ r ∧ u.map smallLetter = w := by
  rw [startsWith, ← agrees, Bool.and_eq_true, decide_eq_true_eq, agrees_iff hw]
  constructor
  · rintro ⟨hle, h⟩
    rw [List.take_of_length_le hle] at h
    exact ⟨s.take w.length, s.drop w.length, (List.take_append_drop ..).symm, h⟩
  · rintro ⟨u, r, rfl, rfl⟩
    simp [List.take_of_length_le]

theorem map_smallLetter_eq_fold {u : List Char} (h : '\u212a' ∉ u) :
    u.map smallLetter = Text.fold u := by
  refine List.map_congr_left fun c hc => if_neg ?_
  rintro rfl
  exact h hc

theorem kelvin_not_mem_of_fold {u : List Char} (h : InSmallLetters (Text.fold u)) :
    '\u212a' ∉ u := fun hmem =>
  absurd (h _ (List.mem_map_of_mem hmem)) (by decide)

/-! ### Keywords -/

theorem inSmallLetters_of_mem_keywords : ∀ w ∈ keywords, InSmallLetters w := by decide

/-- No keyword is the start of another one. -/
theorem eq_of_startsWith {w w' s : List Char} (hw : w ∈ keywords) (hw' : w' ∈ keywords)
    (h : startsWith w s = true) (h' : startsWith w' s = true) : w = w' := by
  have hall : ∀ w ∈ keywords, ∀ w' ∈ keywords, w <+: w' → w = w' := by decide
  obtain ⟨u, r, rfl, rfl⟩ := (startsWith_iff (inSmallLetters_of_mem_keywords w hw)).1 h
  obtain ⟨u', r', heq, rfl⟩ := (startsWith_iff (inSmallLetters_of_mem_keywords w' hw')).1 h'
  have hprefix : u <+: u ++ r := List.prefix_append u r
  have hprefix' : u' <+: u ++ r := heq ▸ List.prefix_append u' r'
  rcases List.prefix_or_prefix_of_prefix hprefix hprefix' with hle | hle
  · exact hall _ hw _ hw' (hle.map smallLetter)
  · exact (hall _ hw' _ hw (hle.map smallLetter)).symm

theorem isKeyword_iff_smallLetter {s : List Char} :
    isKeyword s = true ↔ s.map smallLetter ∈ keywords := by
  rw [isKeyword, List.any_eq_true]
  constructor
  · rintro ⟨w, hw, h⟩
    rw [Bool.and_eq_true, beq_iff_eq] at h
    obtain ⟨u, r, rfl, rfl⟩ := (startsWith_iff (inSmallLetters_of_mem_keywords w hw)).1 h.2
    have hr : r = [] := by simpa using h.1
    rwa [hr, List.append_nil]
  · intro h
    refine ⟨_, h, ?_⟩
    rw [Bool.and_eq_true, beq_iff_eq]
    have hwhole : ∃ u r, s = u ++ r ∧ u.map smallLetter = s.map smallLetter :=
      ⟨s, [], (List.append_nil s).symm, rfl⟩
    exact ⟨List.length_map _, (startsWith_iff (inSmallLetters_of_mem_keywords _ h)).2 hwhole⟩

theorem isKeyword_iff {s : List Char} (hs : '\u212a' ∉ s) :
    isKeyword s = true ↔ Text.fold s ∈ keywords := by
  rw [isKeyword_iff_smallLetter, map_smallLetter_eq_fold hs]

theorem isRun_of_fold_mem_keywords {s : List Char} (h : Text.fold s ∈ keywords) :
    IsRun Char.isAlpha s := by
  have hne : ∀ w ∈ keywords, w ≠ [] := by decide
  refine ⟨fun hnil => hne _ h (by rw [hnil]; rfl), fun c hc => ?_⟩
  exact isAlpha_of_isLower_toLower
    (inSmallLetters_of_mem_keywords _ h _ (List.mem_map_of_mem hc))

/-! ### The Kelvin sign -/

/-- The text starts with the word `blank`, in any case, and the last letter of the word is the
Kelvin sign. -/
def BlankWithKelvin (s : List Char) : Prop :=
  ∃ u r, s = u ++ '\u212a' :: r ∧ Text.fold u = "blan".toList

theorem BlankWithKelvin.kelvin_mem {s : List Char} (h : BlankWithKelvin s) : '\u212a' ∈ s := by
  obtain ⟨u, r, rfl, -⟩ := h
  simp

theorem BlankWithKelvin.startsWith {s : List Char} (h : BlankWithKelvin s) :
    startsWith "blank".toList s = true := by
  obtain ⟨u, r, rfl, hu⟩ := h
  refine (startsWith_iff (by decide)).2 ⟨u ++ ['\u212a'], r, by simp, ?_⟩
  rw [List.map_append, map_smallLetter_eq_fold (kelvin_not_mem_of_fold (by rw [hu]; decide)), hu]
  decide

/-- Only one keyword has the letter k, and it is the last one of its letters. -/
theorem exists_blan_of_kelvin {u : List Char} (hw : u.map smallLetter ∈ keywords)
    (hmem : '\u212a' ∈ u) : u.map smallLetter = "blank".toList ∧
      ∃ v, u = v ++ ['\u212a'] ∧ Text.fold v = "blan".toList := by
  have hblank : ∀ w ∈ keywords, 'k' ∈ w → w = "blan".toList ++ ['k'] := by decide
  have heq := hblank _ hw (List.mem_map.2 ⟨_, hmem, by decide⟩)
  obtain ⟨v, t, rfl, hv, ht⟩ := List.map_eq_append_iff.1 heq
  obtain ⟨d, rfl, -⟩ := List.map_eq_singleton_iff.1 ht
  have hkelvin : '\u212a' ∉ v := by
    intro hv'
    have hk : smallLetter '\u212a' ∈ "blan".toList := hv ▸ List.mem_map_of_mem hv'
    exact absurd hk (by decide)
  obtain rfl : '\u212a' = d := by simpa [hkelvin] using hmem
  exact ⟨heq, v, rfl, (map_smallLetter_eq_fold hkelvin).symm.trans hv⟩

/-- A letter of several bytes whose small letter is an ASCII letter is the Kelvin sign. -/
theorem eq_kelvin_of_utf8Size {c : Char} (hc : (smallLetter c).isLower) (hsize : 1 < c.utf8Size) :
    c = '\u212a' := by
  refine Classical.byContradiction fun hkelvin => ?_
  rw [smallLetter, if_neg hkelvin] at hc
  have hall : ∀ c : Char, c.toNat < 128 → c.utf8Size = 1 := forall_ascii (by decide)
  rw [hall c (lt_of_isAlpha (isAlpha_of_isLower_toLower hc))] at hsize
  omega

/-- Exactly the word `blank` with the Kelvin sign cannot be divided from what is behind it. -/
theorem splitsCharacter_iff {s : List Char} : splitsCharacter s = true ↔ BlankWithKelvin s := by
  rw [splitsCharacter, List.any_eq_true]
  constructor
  · rintro ⟨w, hw, h⟩
    rw [Bool.and_eq_true] at h
    obtain ⟨u, r, rfl, rfl⟩ := (startsWith_iff (inSmallLetters_of_mem_keywords w hw)).1 h.1
    rw [List.length_map, List.take_left] at h
    obtain ⟨c, hc, hsize⟩ := List.any_eq_true.1 h.2
    have hsmall := inSmallLetters_of_mem_keywords _ hw _ (List.mem_map_of_mem hc)
    obtain rfl := eq_kelvin_of_utf8Size hsmall (of_decide_eq_true hsize)
    obtain ⟨-, v, rfl, hv⟩ := exists_blan_of_kelvin hw hc
    exact ⟨v, r, by simp, hv⟩
  · intro h
    refine ⟨"blank".toList, by decide, Bool.and_eq_true_iff.2 ⟨h.startsWith, ?_⟩⟩
    obtain ⟨u, r, rfl, hu⟩ := h
    have hlength : u.length = 4 := by
      rw [← length_fold, hu]
      rfl
    refine List.any_eq_true.2 ⟨'\u212a', ?_, by decide⟩
    rw [List.take_append, hlength]
    exact List.mem_append_right _ (List.mem_cons_self ..)

theorem splitsCharacter_eq_false {s : List Char} (h : ¬BlankWithKelvin s) :
    splitsCharacter s = false := by
  simpa using mt splitsCharacter_iff.1 h

/-! ### Texts in bytes -/

/-- The number of bytes of a text. -/
def byteSize : List Char → Nat
  | [] => 0
  | c :: s => c.utf8Size + byteSize s

@[simp] theorem byteSize_nil : byteSize [] = 0 := rfl

@[simp] theorem byteSize_cons (c : Char) (s : List Char) :
    byteSize (c :: s) = c.utf8Size + byteSize s := rfl

@[simp] theorem byteSize_append (s t : List Char) :
    byteSize (s ++ t) = byteSize s + byteSize t := by
  induction s with
  | nil => simp
  | cons c s ih =>
    rw [List.cons_append, byteSize_cons, byteSize_cons, ih]
    omega

theorem byteSize_fold (s : List Char) : byteSize (Text.fold s) = byteSize s := by
  induction s with
  | nil => rfl
  | cons c s ih => rw [fold_cons, byteSize_cons, byteSize_cons, ih, ignoresCase_utf8Size]

theorem utf8ByteSize_ofList (s : List Char) : (String.ofList s).utf8ByteSize = byteSize s := by
  induction s with
  | nil => rfl
  | cons c s ih =>
    rw [← List.singleton_append, String.ofList_append, String.utf8ByteSize_append, ih,
      ← String.singleton_eq_ofList, String.utf8ByteSize_singleton]
    rfl

/-- What is left of a text without its first bytes, `none` if these end inside a character. -/
def dropBytes? : List Char → Nat → Option (List Char)
  | s, 0 => some s
  | [], _ + 1 => none
  | c :: s, n + 1 => if c.utf8Size ≤ n + 1 then dropBytes? s (n + 1 - c.utf8Size) else none

@[simp] theorem dropBytes?_zero (s : List Char) : dropBytes? s 0 = some s := by
  cases s <;> rfl

theorem dropBytes?_append (u r : List Char) (n : Nat) :
    dropBytes? (u ++ r) (byteSize u + n) = dropBytes? r n := by
  induction u with
  | nil => simp
  | cons c u ih =>
    have hpos := c.utf8Size_pos
    obtain ⟨m, hm⟩ : ∃ m, byteSize (c :: u) + n = m + 1 :=
      Nat.exists_eq_succ_of_ne_zero (by rw [byteSize_cons]; omega)
    rw [byteSize_cons] at hm
    rw [List.cons_append, byteSize_cons, hm, dropBytes?, if_pos (by omega),
      show m + 1 - c.utf8Size = byteSize u + n by omega, ih]

theorem dropBytes?_eq_some_iff {s r : List Char} {n : Nat} :
    dropBytes? s n = some r ↔ ∃ u, s = u ++ r ∧ byteSize u = n := by
  constructor
  · intro h
    induction s generalizing n with
    | nil =>
      cases n with
      | zero => exact ⟨[], by simpa using h, rfl⟩
      | succ n => cases h
    | cons c s ih =>
      cases n with
      | zero => exact ⟨[], by simpa using h, rfl⟩
      | succ n =>
        obtain ⟨hle, h⟩ := Option.ite_none_right_eq_some.1 h
        obtain ⟨u, rfl, hu⟩ := ih h
        exact ⟨c :: u, rfl, by rw [byteSize_cons]; omega⟩
  · rintro ⟨u, rfl, rfl⟩
    simpa using dropBytes?_append u r 0

/-- Bytes can be taken from a text up to each position between two characters. -/
theorem isValid_iff {s : List Char} {n : Nat} :
    (⟨n⟩ : String.Pos.Raw).IsValid (String.ofList s) ↔ ∃ r, dropBytes? s n = some r := by
  rw [String.Pos.Raw.isValid_iff_exists_append]
  constructor
  · rintro ⟨s₁, s₂, heq, hpos⟩
    refine ⟨s₂.toList, dropBytes?_eq_some_iff.2 ⟨s₁.toList, ?_, ?_⟩⟩
    · rw [← String.toList_append, ← heq, String.toList_ofList]
    · rw [← utf8ByteSize_ofList, String.ofList_toList]
      exact (congrArg String.Pos.Raw.byteIdx hpos).symm
  · rintro ⟨r, h⟩
    obtain ⟨u, rfl, rfl⟩ := dropBytes?_eq_some_iff.1 h
    refine ⟨String.ofList u, String.ofList r, String.ofList_append, ?_⟩
    rw [← utf8ByteSize_ofList]
    rfl

/-! ### Keywords in bytes -/

/-- What comes of trying a keyword on a text. -/
inductive Attempt
  /-- The text does not start with the keyword. -/
  | refused
  /-- The keyword is taken from the text, and this is left. -/
  | taken (rest : List Char)
  /-- The bytes of the keyword end inside a character of the text. -/
  | cut
  deriving DecidableEq, Repr

/-- The letters of the keyword are compared as far as there are any, and if they agree and the text
has enough bytes, as many as the keyword has are taken. -/
def attempt (word s : List Char) : Attempt :=
  if agrees word s && byteSize word ≤ byteSize s then
    match dropBytes? s (byteSize word) with
    | some rest => .taken rest
    | none => .cut
  else .refused

/-- What comes of trying the keywords in their order, until one of them is not refused. -/
def firstAttempt (s : List Char) : Attempt :=
  ((keywords.map (attempt · s)).find? (· ≠ .refused)).getD .refused

/-- The expression of a text, keywords being taken in bytes. -/
def readBytes (text : String) : Except SheetError Expression :=
  let s := trim text.toList
  match quoted? s, firstAttempt s with
  | some inner, _ => .ok (.quoted (String.ofList inner))
  | none, .cut => .error .splitCharacter
  | none, .taken [] => .ok .blank
  | none, _ => .ok ((shape? s).getD (.label (String.ofList s)))

section Attempts

variable {w s : List Char}

/-- A text that is too short for a keyword has too few bytes as well: it has no Kelvin sign, since
this would be the last letter of the keyword. -/
theorem byteSize_lt_of_agrees (hw : w ∈ keywords) (h : agrees w s = true)
    (hlt : s.length < w.length) : byteSize s < byteSize w := by
  have hlast : ∀ w ∈ keywords, ∀ n < w.length, 'k' ∉ w.take n := by decide
  rw [agrees_iff (inSmallLetters_of_mem_keywords w hw), List.take_of_length_le hlt.le] at h
  have hkelvin : '\u212a' ∉ s := fun hmem =>
    hlast w hw _ hlt (h ▸ List.mem_map.2 ⟨_, hmem, by decide⟩)
  rw [map_smallLetter_eq_fold hkelvin] at h
  have hsplit : byteSize w = byteSize s + byteSize (w.drop s.length) := by
    rw [← byteSize_fold s, h, ← byteSize_append, List.take_append_drop]
  obtain ⟨c, r, hrest⟩ := List.exists_cons_of_ne_nil (l := w.drop s.length) (by simpa using hlt)
  have hpos := c.utf8Size_pos
  rw [hsplit, hrest, byteSize_cons]
  omega

theorem attempt_of_not_startsWith (hw : w ∈ keywords) (h : startsWith w s = false) :
    attempt w s = .refused := by
  refine if_neg fun hstart => ?_
  rw [Bool.and_eq_true, decide_eq_true_eq] at hstart
  rw [startsWith, ← agrees, hstart.1, Bool.and_true, decide_eq_false_iff_not] at h
  have hlt := byteSize_lt_of_agrees hw hstart.1 (by omega)
  omega

theorem agrees_of_startsWith (h : startsWith w s = true) : agrees w s = true :=
  (Bool.and_eq_true_iff.1 h).2

/-- A keyword in ASCII letters is taken. -/
theorem attempt_of_fold {u : List Char} (hu : Text.fold u ∈ keywords) (r : List Char) :
    attempt (Text.fold u) (u ++ r) = .taken r := by
  have hsmall := inSmallLetters_of_mem_keywords _ hu
  have hletters := map_smallLetter_eq_fold (kelvin_not_mem_of_fold hsmall)
  have hagrees := agrees_of_startsWith ((startsWith_iff hsmall).2 ⟨u, r, rfl, hletters⟩)
  have hdrop : dropBytes? (u ++ r) (byteSize u) = some r := dropBytes?_eq_some_iff.2 ⟨u, rfl, rfl⟩
  rw [attempt, hagrees, byteSize_fold, hdrop]
  simp

/-- Behind four bytes the Kelvin sign has three, and the keyword would take one of them. -/
theorem attempt_of_blankWithKelvin (h : BlankWithKelvin s) : attempt "blank".toList s = .cut := by
  have hagrees := agrees_of_startsWith h.startsWith
  obtain ⟨u, r, rfl, hu⟩ := h
  have hsize : byteSize u = 4 := by
    rw [← byteSize_fold, hu]
    decide
  have hkelvin : ('\u212a').utf8Size = 3 := by decide
  have hdrop : dropBytes? (u ++ '\u212a' :: r) (byteSize "blank".toList) = none := by
    have hbytes := dropBytes?_append u ('\u212a' :: r) 1
    rw [hsize] at hbytes
    exact hbytes
  have henough : byteSize "blank".toList ≤ byteSize (u ++ '\u212a' :: r) := by
    have hblank : byteSize "blank".toList = 5 := by decide
    rw [byteSize_append, byteSize_cons, hsize, hkelvin, hblank]
    omega
  rw [attempt, if_pos (Bool.and_eq_true_iff.2 ⟨hagrees, decide_eq_true henough⟩), hdrop]

/-- A keyword is refused, taken, or cut by the Kelvin sign. -/
theorem attempt_cases (hw : w ∈ keywords) (s : List Char) :
    (attempt w s = .refused ∧ startsWith w s = false) ∨
    (∃ u r, s = u ++ r ∧ Text.fold u = w ∧ attempt w s = .taken r) ∨
    (w = "blank".toList ∧ BlankWithKelvin s ∧ attempt w s = .cut) := by
  by_cases hstart : startsWith w s = true
  · obtain ⟨u, r, rfl, rfl⟩ := (startsWith_iff (inSmallLetters_of_mem_keywords w hw)).1 hstart
    by_cases hkelvin : '\u212a' ∈ u
    · obtain ⟨hblank, v, rfl, hv⟩ := exists_blan_of_kelvin hw hkelvin
      have hcut : BlankWithKelvin (v ++ ['\u212a'] ++ r) := ⟨v, r, by simp, hv⟩
      exact .inr (.inr ⟨hblank, hcut, hblank ▸ attempt_of_blankWithKelvin hcut⟩)
    · rw [map_smallLetter_eq_fold hkelvin] at hw ⊢
      exact .inr (.inl ⟨u, r, rfl, rfl, attempt_of_fold hw r⟩)
  · have hrefused : startsWith w s = false := by simpa using hstart
    exact .inl ⟨attempt_of_not_startsWith hw hrefused, hrefused⟩

/-- A keyword that is not refused is taken when its bytes end between two characters. -/
theorem isValid_iff_of_attempt (h : attempt w s ≠ .refused) :
    (⟨byteSize w⟩ : String.Pos.Raw).IsValid (String.ofList s) ↔ attempt w s ≠ .cut := by
  unfold attempt at h ⊢
  split at h
  · next hstart =>
    rw [if_pos hstart, isValid_iff]
    cases dropBytes? s (byteSize w) <;> simp
  · exact absurd rfl h

theorem startsWith_of_attempt (hw : w ∈ keywords) (h : attempt w s ≠ .refused) :
    startsWith w s = true := by
  by_contra hstart
  exact h (attempt_of_not_startsWith hw (by simpa using hstart))

theorem exists_attempt (h : firstAttempt s ≠ .refused) :
    ∃ w ∈ keywords, attempt w s = firstAttempt s := by
  unfold firstAttempt at h ⊢
  cases hfind : (keywords.map (attempt · s)).find? (· ≠ .refused) with
  | none =>
    rw [hfind] at h
    exact absurd rfl h
  | some a => simpa using List.mem_of_find?_eq_some hfind

/-- It makes no difference in which order the keywords are tried. -/
theorem firstAttempt_eq (hw : w ∈ keywords) (h : attempt w s ≠ .refused) :
    firstAttempt s = attempt w s := by
  have hfirst : firstAttempt s ≠ .refused := by
    unfold firstAttempt
    cases hfind : (keywords.map (attempt · s)).find? (· ≠ .refused) with
    | none =>
      have hnone := List.find?_eq_none.1 hfind _ (List.mem_map_of_mem hw)
      exact absurd (by simpa using hnone) h
    | some a => simpa using List.find?_some hfind
  obtain ⟨w', hw', heq⟩ := exists_attempt hfirst
  have hstart := startsWith_of_attempt hw' (heq ▸ hfirst)
  rw [← heq, eq_of_startsWith hw' hw hstart (startsWith_of_attempt hw h)]

theorem firstAttempt_eq_cut_iff : firstAttempt s = .cut ↔ BlankWithKelvin s := by
  constructor
  · intro h
    obtain ⟨w, hw, hattempt⟩ := exists_attempt (s := s) (by rw [h]; decide)
    rcases attempt_cases hw s with ⟨hrefused, -⟩ | ⟨u, r, -, -, htaken⟩ | ⟨-, hcut, -⟩
    · rw [h, hrefused] at hattempt
      cases hattempt
    · rw [h, htaken] at hattempt
      cases hattempt
    · exact hcut
  · intro h
    have hcut := attempt_of_blankWithKelvin h
    rw [firstAttempt_eq (w := "blank".toList) (by decide) (by rw [hcut]; decide), hcut]

theorem firstAttempt_eq_taken_iff {r : List Char} :
    firstAttempt s = .taken r ↔ ∃ u, s = u ++ r ∧ Text.fold u ∈ keywords := by
  constructor
  · intro h
    obtain ⟨w, hw, hattempt⟩ := exists_attempt (s := s) (by rw [h]; simp)
    rcases attempt_cases hw s with ⟨hrefused, -⟩ | ⟨u, r', rfl, rfl, htaken⟩ | ⟨-, -, hcut⟩
    · rw [h, hrefused] at hattempt
      cases hattempt
    · rw [h, htaken] at hattempt
      cases hattempt
      exact ⟨u, rfl, hw⟩
    · rw [h, hcut] at hattempt
      cases hattempt
  · rintro ⟨u, rfl, hu⟩
    have htaken := attempt_of_fold hu r
    rw [firstAttempt_eq hu (by rw [htaken]; simp), htaken]

/-- The text is a keyword when one is taken and nothing is left. -/
theorem isKeyword_iff_firstAttempt (hs : ¬BlankWithKelvin s) :
    isKeyword s = true ↔ firstAttempt s = .taken [] := by
  rw [firstAttempt_eq_taken_iff, isKeyword_iff_smallLetter]
  constructor
  · intro h
    have hkelvin : '\u212a' ∉ s := by
      intro hmem
      obtain ⟨-, v, hv, hblan⟩ := exists_blan_of_kelvin h hmem
      exact hs ⟨v, [], hv, hblan⟩
    exact ⟨s, (List.append_nil s).symm, map_smallLetter_eq_fold hkelvin ▸ h⟩
  · rintro ⟨u, hu, hmem⟩
    obtain rfl : s = u := by simpa using hu
    have hkelvin := kelvin_not_mem_of_fold (inSmallLetters_of_mem_keywords _ hmem)
    rwa [map_smallLetter_eq_fold hkelvin]

end Attempts

/-- A text is read in bytes as it is read in letters. -/
theorem ofText_eq_readBytes (text : String) : ofText text = readBytes text := by
  unfold ofText readBytes
  dsimp only
  generalize trim text.toList = s
  cases quoted? s with
  | some inner => rfl
  | none =>
    by_cases hcut : BlankWithKelvin s
    · rw [firstAttempt_eq_cut_iff.2 hcut, splitsCharacter_iff.2 hcut]
      rfl
    · have hnot := mt firstAttempt_eq_cut_iff.1 hcut
      have hkeyword := isKeyword_iff_firstAttempt hcut
      rw [splitsCharacter_eq_false hcut]
      cases hfirst : firstAttempt s with
      | cut => exact absurd hfirst hnot
      | refused => simp [hkeyword, hfirst]
      | taken r => cases r <;> simp [hkeyword, hfirst]

/-- What starts with a letter is not in quotes. -/
theorem quoted?_of_blankWithKelvin {s : List Char} (h : BlankWithKelvin s) : quoted? s = none := by
  obtain ⟨u, r, rfl, hu⟩ := h
  cases u with
  | nil => cases hu
  | cons c u =>
    have hc : c.toLower = 'b' := (List.cons.inj hu).1
    refine if_neg fun hquote => ?_
    rcases hquote.1 with rfl | rfl
    · exact absurd hc (by decide)
    · exact absurd hc (by decide)

/-- Only a text that cannot be divided behind its keyword cannot be read. -/
theorem ofText_eq_error_iff {text : String} {err : SheetError} :
    ofText text = .error err ↔ err = .splitCharacter ∧ BlankWithKelvin (trim text.toList) := by
  unfold ofText
  dsimp only
  generalize trim text.toList = s
  by_cases hcut : BlankWithKelvin s
  · simp [quoted?_of_blankWithKelvin hcut, splitsCharacter_iff.2 hcut, hcut, eq_comm]
  · have hwhole := splitsCharacter_eq_false hcut
    cases quoted? s with
    | some inner => simp [hcut]
    | none => by_cases hkeyword : isKeyword s = true <;> simp [hcut, hwhole, hkeyword]

end GridTalk.Expression
