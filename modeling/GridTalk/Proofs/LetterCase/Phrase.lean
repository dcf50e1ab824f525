import GridTalk.Phrase
import GridTalk.Proofs.LetterCase.Text

/-!
# Phrases up to the case of letters

A phrase that matches in any case is found in the same place, and its pieces take the same
segments, when the text is folded first.

* `matchPieces_fold`: the pieces at the start of a text.
* `search?_fold`: the leftmost place of a phrase.
-/

namespace GridTalk

open Text

theorem ignoresCase_letterAgrees (letter : Char) : IgnoresCase (letterAgrees true letter) := by
  intro c
  have hkelvin : c.toLower = '\u212a' ↔ c = '\u212a' := toLower_eq_iff (by decide) c
  have hlong : c.toLower = '\u017f' ↔ c = '\u017f' := toLower_eq_iff (by decide) c
  rw [Bool.eq_iff_iff]
  simp [letterAgrees, ignoresCase_toLower c, hkelvin, hlong]

theorem ignoresCase_accepts (k : Operand) : IgnoresCase (k.accepts true) := by
  intro c
  cases k with
  | letters => exact ignoresCase_isAlpha c
  | digits => exact ignoresCase_isDigit c
  | amount =>
    have hsign : IgnoresCase " ./*+-".toList.contains := ignoresCase_of_capitals (by decide)
    simp only [Operand.accepts, ignoresCase_isWordChar c, hsign c]
  | line =>
    have hend : c.toLower = '\n' ↔ c = '\n' := toLower_eq_iff (by decide) c
    rw [Bool.eq_iff_iff]
    simp [Operand.accepts, hend]

theorem spellsWord_fold (w s : List Char) : spellsWord true w (fold s) = spellsWord true w s := by
  unfold spellsWord
  rw [length_fold, fold, List.zip_map_right, List.all_map]
  congr 2
  funext p
  exact ignoresCase_letterAgrees p.1 p.2

theorem wordHead?_fold (w s : List Char) :
    wordHead? true w (fold s) = (wordHead? true w s).map (Prod.map fold fold) := by
  have htake : (fold s).take w.length = fold (s.take w.length) := List.map_take.symm
  have hdrop : (fold s).drop w.length = fold (s.drop w.length) := List.map_drop.symm
  unfold wordHead?
  rw [htake, hdrop, spellsWord_fold]
  split <;> rfl

section Run

variable {α : Type} {next next' : List Char → List Char → Option α} {f : α → α}

theorem longestFirst_fold (h : ∀ t r, next' (fold t) (fold r) = (next t r).map f) (s : List Char)
    (n : Nat) : longestFirst next' (fold s) n = (longestFirst next s n).map f := by
  induction n with
  | zero => rfl
  | succ n ih =>
    have htake : (fold s).take (n + 1) = fold (s.take (n + 1)) := List.map_take.symm
    have hdrop : (fold s).drop (n + 1) = fold (s.drop (n + 1)) := List.map_drop.symm
    rw [longestFirst, longestFirst, ih, htake, hdrop, h]
    simp only [Option.orElse_eq_orElse, Option.orElse_eq_or, Option.map_or]

theorem takeRun_fold {p : Char → Bool} (hp : IgnoresCase p)
    (h : ∀ t r, next' (fold t) (fold r) = (next t r).map f) (s : List Char) :
    takeRun p next' (fold s) = (takeRun p next s).map f := by
  rw [takeRun, takeRun, takeWhile_fold hp, length_fold, longestFirst_fold h]

end Run

/-- The segments of a match and the rest of the text, folded. -/
def foldMatch (m : List (List Char) × List Char) : List (List Char) × List Char :=
  (m.1.map fold, fold m.2)

/-- The pieces take the same segments from a folded text. -/
theorem matchPieces_fold (ps : List Piece) (s : List Char) :
    matchPieces true ps (fold s) = (matchPieces true ps s).map foldMatch := by
  induction ps generalizing s with
  | nil => rfl
  | cons p ps ih =>
    -- what follows a segment, for whichever part of the text the first piece takes
    have next : ∀ t r, (matchPieces true ps (fold r)).map (Prod.map (fold t :: ·) id)
        = ((matchPieces true ps r).map (Prod.map (t :: ·) id)).map foldMatch := by
      intro t r
      rw [ih]
      cases matchPieces true ps r <;> rfl
    cases p with
    | word choices =>
      rw [matchPieces, matchPieces, List.map_findSome?]
      congr 1
      funext w
      rw [wordHead?_fold, Function.comp_apply]
      cases wordHead? true w.toList s with
      | none => rfl
      | some m => exact next m.1 m.2
    | blanks => exact takeRun_fold ignoresCase_isBlank next s
    | operand k => exact takeRun_fold (ignoresCase_accepts k) next s
    | maybe w =>
      rw [matchPieces, matchPieces, wordHead?_fold, ih]
      simp only [Option.orElse_eq_orElse, Option.orElse_eq_or, Option.map_or]
      congr 1
      · cases wordHead? true w.toList s with
        | none => rfl
        | some m =>
          obtain ⟨t, r⟩ := m
          refine takeRun_fold ignoresCase_isBlank (fun b r => ?_) r
          dsimp only [Prod.map]
          rw [← fold_append]
          exact next (t ++ b) r
      · cases matchPieces true ps s <;> rfl

/-- A finding with all its parts folded. -/
def Finding.fold (f : Finding) : Finding :=
  ⟨Text.fold f.before, f.segments.map Text.fold, Text.fold f.after⟩

variable {p : Phrase}

theorem searchFrom?_fold (hp : p.anyCase = true) (before s : List Char) :
    p.searchFrom? (fold before) (fold s) = (p.searchFrom? before s).map Finding.fold := by
  have hmatch : ∀ s, p.matchAt? (fold s) = (p.matchAt? s).map foldMatch := fun s => by
    rw [Phrase.matchAt?, Phrase.matchAt?, hp, matchPieces_fold]
  induction s generalizing before with
  | nil =>
    have hnil : p.matchAt? [] = (p.matchAt? []).map foldMatch := hmatch []
    rw [fold_nil, Phrase.searchFrom?, Phrase.searchFrom?, Option.map_map]
    conv => lhs; rw [hnil, Option.map_map]
    congr 1
    funext m
    simp [foldMatch, Finding.fold, fold_reverse]
  | cons c r ih =>
    have hcons := hmatch (c :: r)
    rw [fold_cons] at hcons ⊢
    rw [Phrase.searchFrom?, Phrase.searchFrom?, hcons]
    cases p.matchAt? (c :: r) with
    | none => exact ih (c :: before)
    | some m => simp [foldMatch, Finding.fold, fold_reverse]

/-- A phrase in any case is found at the same place of a folded text. -/
theorem search?_fold (hp : p.anyCase = true) (s : List Char) :
    p.search? (fold s) = (p.search? s).map Finding.fold :=
  searchFrom?_fold hp [] s

end GridTalk
