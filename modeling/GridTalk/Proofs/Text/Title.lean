import GridTalk.Proofs.Text.Lower
import Mathlib.Data.List.Forall2

/-!
# Titles

Capitalising the words of an ASCII text gives the one form that stands for all texts with these
words, however their letters were cased and whatever blanks stood between them.

* `SameWords`: as many words, and one by one the same but for the case of ASCII letters.
* `fold_capitalizeWord`: a capitalised word is the word, up to case; so it is a word again.
* `words_capitalizeWords`: the words of a title are the words, capitalised.
* `capitalizeWords_of_sameWords`, `sameWords_capitalizeWords`: texts with the same words have the
  same title, and a title has the words of its text.
* `capitalizeWords_canonical`: both together, with the blanks of a title.
-/

namespace GridTalk.Text

/-- The texts have the same number of words, and these differ one by one at most in the case of
ASCII letters. -/
def SameWords (s t : List Char) : Prop :=
  List.Forall₂ (fun v w => fold v = fold w) (words s) (words t)

variable {s t u w : List Char}

theorem sameWords_iff : SameWords s t ↔ (words s).map fold = (words t).map fold := by
  rw [← List.forall₂_eq_eq_eq, List.forall₂_map_left_iff, List.forall₂_map_right_iff, SameWords]

namespace SameWords

theorem symm (h : SameWords s t) : SameWords t s := sameWords_iff.2 (sameWords_iff.1 h).symm

theorem trans (h : SameWords s t) (h' : SameWords t u) : SameWords s u :=
  sameWords_iff.2 ((sameWords_iff.1 h).trans (sameWords_iff.1 h'))

end SameWords

/-! ### One word -/

@[simp] theorem fold_fold (s : List Char) : fold (fold s) = fold s := by
  rw [fold, fold, List.map_map, show Char.toLower ∘ Char.toLower = Char.toLower from
    funext ignoresCase_toLower]

theorem isWord_fold_iff : IsWord (fold w) ↔ IsWord w := by
  simp only [IsWord, ne_eq, fold, List.map_eq_nil_iff, List.forall_mem_map, ignoresCase_isBlank _]

theorem toLower_toUpper {c : Char} (hc : c.toNat < 128) : c.toUpper.toLower = c.toLower := by
  have hall : ∀ c : Char, c.toNat < 128 → c.toUpper.toLower = c.toLower := forall_ascii (by decide)
  exact hall c hc

theorem capitalizeWord_cons_of_ascii {c : Char} {r : List Char}
    (h : ∀ d ∈ c :: r, d.toNat < 128) : capitalizeWord (c :: r) = c.toUpper :: fold r := by
  obtain ⟨hc, hr⟩ := List.forall_mem_cons.1 h
  rw [capitalizeWord, toUpper_of_lt hc, lower_of_ascii hr]
  rfl

/-- Only the case of letters is changed. -/
theorem fold_capitalizeWord (h : ∀ c ∈ w, c.toNat < 128) : fold (capitalizeWord w) = fold w := by
  cases w with
  | nil => rfl
  | cons c r =>
    rw [capitalizeWord_cons_of_ascii h, fold_cons, fold_cons, fold_fold,
      toLower_toUpper (h c (List.mem_cons_self ..))]

theorem isWord_capitalizeWord (h : ∀ c ∈ w, c.toNat < 128) (hw : IsWord w) :
    IsWord (capitalizeWord w) := by
  rwa [← isWord_fold_iff, fold_capitalizeWord h, isWord_fold_iff]

/-! ### All words -/

section Ascii

variable (hs : ∀ c ∈ s, c.toNat < 128)
include hs

theorem ascii_of_mem_words : ∀ w ∈ words s, ∀ c ∈ w, c.toNat < 128 :=
  fun _ hw c hc => hs c ((infix_of_mem_words hw).subset hc)

theorem isWord_of_mem_capitalized : ∀ w ∈ (words s).map capitalizeWord, IsWord w := by
  intro w hw
  obtain ⟨v, hv, rfl⟩ := List.mem_map.1 hw
  exact isWord_capitalizeWord (ascii_of_mem_words hs v hv) (isWord_of_mem_words hv)

/-- The words of a title are the words of the text, capitalised. -/
theorem words_capitalizeWords : words (capitalizeWords s) = (words s).map capitalizeWord :=
  words_intercalate (isWord_of_mem_capitalized hs)

theorem trimmed_capitalizeWords : Trimmed (capitalizeWords s) :=
  trimmed_intercalate (isWord_of_mem_capitalized hs)

/-- A title has the words of its text. -/
theorem sameWords_capitalizeWords : SameWords (capitalizeWords s) s := by
  rw [sameWords_iff, words_capitalizeWords hs, List.map_map]
  exact List.map_congr_left fun w hw => fold_capitalizeWord (ascii_of_mem_words hs w hw)

end Ascii

/-- Texts with the same words have the same title. -/
theorem capitalizeWords_of_sameWords (h : SameWords s t) :
    capitalizeWords s = capitalizeWords t := by
  -- a word is capitalised without regard to its case, so that all words may be folded first
  have hcapitalized : ∀ s, (words s).map capitalizeWord
      = ((words s).map fold).map capitalizeWord := fun s => by
    rw [List.map_map, show capitalizeWord ∘ fold = capitalizeWord from funext capitalizeWord_fold]
  rw [capitalizeWords, capitalizeWords, hcapitalized s, hcapitalized t, sameWords_iff.1 h]

/-- **A title is a form for all texts with the same words.**  The title of an ASCII text has no
blank at its ends and a single space between every two words, and these are the words of the text
but for case.  Two such texts have the same title exactly when they have the same words, so a title
is its own title. -/
theorem capitalizeWords_canonical (hs : ∀ c ∈ s, c.toNat < 128) :
    Trimmed (capitalizeWords s) ∧
    [' '].intercalate (words (capitalizeWords s)) = capitalizeWords s ∧
    SameWords (capitalizeWords s) s ∧
    (∀ t, (∀ c ∈ t, c.toNat < 128) →
      (capitalizeWords s = capitalizeWords t ↔ SameWords s t)) ∧
    capitalizeWords (capitalizeWords s) = capitalizeWords s := by
  have hsame := sameWords_capitalizeWords hs
  refine ⟨trimmed_capitalizeWords hs, ?_, hsame, fun t ht => ⟨fun h => ?_, ?_⟩, ?_⟩
  · rw [words_capitalizeWords hs, capitalizeWords]
  · -- both texts have the words of the one title
    have htitle := sameWords_capitalizeWords ht
    rw [← h] at htitle
    exact hsame.symm.trans htitle
  · exact capitalizeWords_of_sameWords
  · exact capitalizeWords_of_sameWords hsame

/-- Words in capitals between blanks of several kinds. -/
theorem capitalizeWords_canonical_payroll :
    let s := "  PAYROLL \t  total ".toList
    let t := "payroll\nTOTAL".toList
    (∀ c ∈ s, c.toNat < 128) ∧ (∀ c ∈ t, c.toNat < 128) ∧ SameWords s t ∧
      capitalizeWords s = "Payroll Total".toList ∧
      capitalizeWords t = "Payroll Total".toList ∧ Trimmed "Payroll Total".toList := by
  intro s t
  have hs : ∀ c ∈ s, c.toNat < 128 := by decide
  have ht : ∀ c ∈ t, c.toNat < 128 := by decide
  have hsame : SameWords s t := sameWords_iff.2 (by decide)
  have htitle : capitalizeWords s = "Payroll Total".toList := by decide +kernel
  obtain ⟨htrimmed, -, -, hiff, -⟩ := capitalizeWords_canonical hs
  rw [htitle] at htrimmed
  exact ⟨hs, ht, hsame, htitle, ((hiff t ht).2 hsame).symm.trans htitle, htrimmed⟩

end GridTalk.Text
