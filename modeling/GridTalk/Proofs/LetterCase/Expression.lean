import GridTalk.Expression.Reading
import GridTalk.Proofs.LetterCase.Text
import GridTalk.Proofs.Text.Words
import Mathlib.Data.List.TakeDrop

/-!
# Expressions up to the case of letters

Outside quotes the case of letters makes no difference to the shape of an expression: addresses,
column labels, keywords and the exponents of numbers are read in any case.

* `ReadsFolded`: a reader that commutes with folding, and the ways in which such readers combine.
* `Expression.fold`: an expression with its letters in lower case.
* `Expression.ofText_fold`: a folded text is read as the folded expression.
-/

namespace GridTalk

open Text

namespace Text

/-- The text with its ASCII letters in lower case. -/
def foldText (s : String) : String := String.ofList (fold s.toList)

/-- There is no quote in the text. -/
def Unquoted (s : List Char) : Prop := ∀ c ∈ s, c ≠ '"' ∧ c ≠ '\x27'

@[simp] theorem toList_foldText (s : String) : (foldText s).toList = fold s.toList :=
  String.toList_ofList

theorem foldText_ofList (s : List Char) : foldText (String.ofList s) = String.ofList (fold s) := by
  rw [foldText, String.toList_ofList]

theorem unquoted_iff {s : List Char} : Unquoted s ↔ s.all fun c => c ≠ '"' ∧ c ≠ '\x27' := by
  simp only [Unquoted, List.all_eq_true, decide_eq_true_eq]

instance (s : List Char) : Decidable (Unquoted s) :=
  decidable_of_decidable_of_iff unquoted_iff.symm

theorem Unquoted.subset {s t : List Char} (h : Unquoted t) (hst : s ⊆ t) : Unquoted s :=
  fun c hc => h c (hst hc)

theorem Unquoted.fold {s : List Char} (h : Unquoted s) : Unquoted (fold s) := by
  intro d hd
  obtain ⟨c, hc, rfl⟩ := List.mem_map.1 hd
  have hdouble : c.toLower = '"' ↔ c = '"' := toLower_eq_iff (by decide) c
  have hsingle : c.toLower = '\x27' ↔ c = '\x27' := toLower_eq_iff (by decide) c
  rw [ne_eq, ne_eq, hdouble, hsingle]
  exact h c hc

/-- Digits have no case. -/
theorem fold_of_isDigit {s : List Char} (h : ∀ c ∈ s, c.isDigit) : fold s = s := by
  have hdigit : ∀ c ∈ s, c.toLower = c := fun c hc => toLower_of_not_isUpper fun hup => by
    have hcap := mem_capitals_of_isUpper hup
    have hno : ∀ c ∈ capitals, c.isDigit = false := forall_capitals (by decide)
    exact absurd (h c hc) (by simp [hno c hcap])
  rw [fold, List.map_congr_left hdigit, List.map_id']

theorem fold_takeWhile_isDigit (s : List Char) :
    fold (s.takeWhile Char.isDigit) = s.takeWhile Char.isDigit :=
  fold_of_isDigit fun c hc => List.all_eq_true.1 List.all_takeWhile c hc
end Text

/-! ### Numerals -/

theorem signOf_fold (s : List Char) : Numeral.signOf (fold s) = (Numeral.signOf s).map id fold := by
  cases s with
  | nil => rfl
  | cons c r =>
    have hplus : c.toLower = '+' ↔ c = '+' := toLower_eq_iff (by decide) c
    have hminus : c.toLower = '-' ↔ c = '-' := toLower_eq_iff (by decide) c
    by_cases h1 : c = '+'
    · subst h1
      rfl
    · by_cases h2 : c = '-'
      · subst h2
        rfl
      · rw [fold_cons]
        unfold Numeral.signOf
        split <;> split <;> simp_all

theorem exponentOf?_fold (s : List Char) :
    Numeral.exponentOf? (fold s) = Numeral.exponentOf? s := by
  cases s with
  | nil => rfl
  | cons c r =>
    have hmark : (c.toLower = 'e' ∨ c.toLower = 'E') ↔ (c = 'e' ∨ c = 'E') := by
      have hcase : IgnoresCase fun c => decide (c = 'e' ∨ c = 'E') :=
        ignoresCase_of_capitals (by decide)
      exact decide_eq_decide.1 (hcase c)
    rw [fold_cons, Numeral.exponentOf?, Numeral.exponentOf?, signOf_fold]
    simp only [hmark]
    split
    · generalize Numeral.signOf r = body
      obtain ⟨negative, ds⟩ := body
      by_cases hds : ds.all Char.isDigit
      · simp only [Prod.map, id, fold_of_isDigit (List.all_eq_true.1 hds)]
      · simp [all_fold ignoresCase_isDigit, hds]
    · rfl

theorem numeralOfText?_fold (s : List Char) : Numeral.ofText? (fold s) = Numeral.ofText? s := by
  unfold Numeral.ofText?
  rw [signOf_fold]
  generalize Numeral.signOf s = body
  obtain ⟨negative, body⟩ := body
  simp only [Prod.map, id, List.span_eq_takeWhile_dropWhile, takeWhile_fold ignoresCase_isDigit,
    dropWhile_fold ignoresCase_isDigit, fold_takeWhile_isDigit]
  cases body.dropWhile Char.isDigit with
  | nil => rfl
  | cons c r =>
    -- folding neither makes a point nor takes one away
    have hpoint : c.toLower = '.' ↔ c = '.' := toLower_eq_iff (by decide) c
    by_cases hc : c = '.'
    · subst hc
      simp only [fold_cons, show Char.toLower '.' = '.' from by decide,
        takeWhile_fold ignoresCase_isDigit, dropWhile_fold ignoresCase_isDigit,
        fold_takeWhile_isDigit, exponentOf?_fold]
    · have hexp := exponentOf?_fold (c :: r)
      rw [fold_cons] at hexp ⊢
      simp [hc, hpoint, hexp]

/-- The letter of an exponent is the only one in a number, and it is read in both cases. -/
theorem finiteOf?_fold (s : List Char) : finiteOf? (fold s) = finiteOf? s := by
  have hcomma : ∀ c : Char, (if c.toLower = ',' then '.' else c.toLower)
      = (if c = ',' then '.' else c).toLower := fun c => by
    simp only [toLower_eq_iff (d := ',') (by decide) c]
    split <;> rfl
  have hmap : (fold s).map (fun c => if c = ',' then '.' else c)
      = fold (s.map fun c => if c = ',' then '.' else c) := by
    simp only [fold, List.map_map]
    exact List.map_congr_left fun c _ => hcomma c
  rw [finiteOf?, finiteOf?, hmap, numeralOfText?_fold]

/-! ### Readers -/

/-- The reader takes as much from a folded text, and what it gives is folded by `f`. -/
def ReadsFolded {α : Type} (f : α → α) (read? : List Char → Option (α × List Char)) : Prop :=
  ∀ s, read? (fold s) = (read? s).map (Prod.map f fold)

/-- An address with its letters in lower case. -/
def Reference.fold (r : Reference) : Reference := ⟨foldText r.letters, foldText r.digits⟩

namespace Expression

/-- An expression with its letters in lower case, except those between quotes. -/
def fold : Expression → Expression
  | quoted text => quoted text
  | blank => blank
  | cell source => cell source.fold
  | number x => number x
  | columns left op right => columns (foldText left) op (foldText right)
  | cells left op right => cells left.fold op right.fold
  | cellNumber left op y => cellNumber left.fold op y
  | label text => label (foldText text)

theorem readsFolded_lettersHead? : ReadsFolded foldText lettersHead? := by
  intro s
  simp only [lettersHead?, List.span_eq_takeWhile_dropWhile, takeWhile_fold ignoresCase_isAlpha,
    dropWhile_fold ignoresCase_isAlpha, fold_eq_nil]
  split
  · rfl
  · rw [Option.map_some, Prod.map_apply, foldText_ofList]

theorem readsFolded_referenceHead? : ReadsFolded Reference.fold referenceHead? := by
  intro s
  rw [referenceHead?, referenceHead?, readsFolded_lettersHead?]
  cases lettersHead? s with
  | none => rfl
  | some p =>
    obtain ⟨letters, r⟩ := p
    simp only [Option.map_some, Option.bind_some, Prod.map, List.span_eq_takeWhile_dropWhile,
      takeWhile_fold ignoresCase_isDigit, dropWhile_fold ignoresCase_isDigit, fold_eq_nil]
    split
    · rfl
    · simp only [Option.map_some, Prod.map, Reference.fold, foldText_ofList]

theorem ignoresCase_isSpace : IgnoresCase isSpace := ignoresCase_of_capitals (by decide)

theorem ignoresCase_ofSymbol? : IgnoresCase Operator.ofSymbol? :=
  ignoresCase_of_capitals (by decide)

theorem readsFolded_operatorHead? : ReadsFolded id operatorHead? := by
  intro s
  rw [operatorHead?, operatorHead?, dropWhile_fold ignoresCase_isSpace]
  cases s.dropWhile isSpace with
  | nil => rfl
  | cons c r =>
    simp only [fold_cons, ignoresCase_ofSymbol? c, dropWhile_fold ignoresCase_isSpace]
    cases Operator.ofSymbol? c <;> rfl

theorem readsFolded_numberTextHead? : ReadsFolded Text.fold numberTextHead? := by
  intro s
  have hpoint : IgnoresCase isPoint := ignoresCase_of_capitals (by decide)
  simp only [numberTextHead?, List.span_eq_takeWhile_dropWhile,
    takeWhile_fold ignoresCase_isDigit, dropWhile_fold ignoresCase_isDigit]
  cases s.dropWhile Char.isDigit with
  | nil =>
    simp only [fold_nil, fold_eq_nil]
    split <;> rfl
  | cons c r =>
    simp only [fold_cons, hpoint c, takeWhile_fold ignoresCase_isDigit,
      dropWhile_fold ignoresCase_isDigit, fold_eq_nil]
    split
    · split
      · rfl
      · rw [← fold_cons, ← fold_append]
        rfl
    · split <;> rfl

theorem readsFolded_unsignedHead? : ReadsFolded id unsignedHead? := by
  intro s
  rw [unsignedHead?, unsignedHead?, readsFolded_numberTextHead?]
  cases numberTextHead? s with
  | none => rfl
  | some p =>
    simp only [Option.map_some, Option.bind_some, Prod.map, finiteOf?_fold]
    cases finiteOf? p.1 <;> rfl

theorem signed?_fold (s : List Char) : signed? (Text.fold s) = signed? s := by
  simp only [signed?, signOf_fold, Prod.map, readsFolded_unsignedHead? _, finiteOf?_fold]
  cases unsignedHead? (Numeral.signOf s).2 with
  | none => rfl
  | some p => simp only [Option.map_some, Option.bind_some, Prod.map, fold_eq_nil]

section Combination

variable {α β : Type} {f : α → α} {h : β → β} {left? : List Char → Option (α × List Char)}
  {right? : List Char → Option (β × List Char)}

theorem whole?_fold (hl : ReadsFolded f left?) (s : List Char) :
    whole? left? (Text.fold s) = (whole? left? s).map f := by
  rw [whole?, whole?, hl]
  cases left? s with
  | none => rfl
  | some p =>
    simp only [Option.map_some, Option.bind_some, Prod.map, fold_eq_nil]
    split <;> rfl

theorem readsFolded_operationHead? (hl : ReadsFolded f left?) (hr : ReadsFolded h right?) :
    ReadsFolded (Prod.map f (Prod.map id h)) (operationHead? left? right?) := by
  intro s
  rw [operationHead?, operationHead?, hl]
  cases left? s with
  | none => rfl
  | some p =>
    simp only [Option.map_some, Option.bind_some, Prod.map, readsFolded_operatorHead? _]
    cases operatorHead? p.2 with
    | none => rfl
    | some q =>
      simp only [Option.map_some, Option.bind_some, Prod.map, hr _]
      cases right? q.2 <;> rfl

end Combination

/-! ### Whole expressions -/

theorem shape?_fold (s : List Char) : shape? (Text.fold s) = (shape? s).map fold := by
  simp only [shape?, Option.orElse_eq_orElse, Option.orElse_eq_or, Option.map_or, Option.map_map,
    signed?_fold, whole?_fold readsFolded_referenceHead?,
    whole?_fold (readsFolded_operationHead? readsFolded_lettersHead? readsFolded_lettersHead?),
    whole?_fold (readsFolded_operationHead? readsFolded_referenceHead? readsFolded_referenceHead?),
    whole?_fold (readsFolded_operationHead? readsFolded_referenceHead? readsFolded_unsignedHead?)]
  rfl

theorem startsWith_fold (w s : List Char) : startsWith w (Text.fold s) = startsWith w s := by
  unfold startsWith
  rw [length_fold, Text.fold, List.zip_map_right, List.all_map]
  congr 2
  funext p
  exact congrArg (toLower p.1 == ·) (ignoresCase_fullLower p.2)

theorem isKeyword_fold (s : List Char) : isKeyword (Text.fold s) = isKeyword s := by
  simp only [isKeyword, length_fold, startsWith_fold]

theorem splitsCharacter_fold (s : List Char) :
    splitsCharacter (Text.fold s) = splitsCharacter s := by
  have htake : ∀ n, (Text.fold s).take n = Text.fold (s.take n) := fun n => List.map_take.symm
  have hwide : IgnoresCase fun c => decide (c.utf8Size > 1) := fun c =>
    congrArg (fun n => decide (n > 1)) (ignoresCase_utf8Size c)
  simp only [splitsCharacter, startsWith_fold, htake, any_fold hwide]

theorem quoted?_of_unquoted {s : List Char} (h : Unquoted s) : quoted? s = none := by
  cases s with
  | nil => rfl
  | cons c r =>
    obtain ⟨h1, h2⟩ := h c (List.mem_cons_self ..)
    rw [quoted?, if_neg]
    rintro ⟨hquote, -⟩
    exact hquote.elim h1 h2

/-- A folded text is read as the folded expression. -/
theorem ofText_fold {text : String} (h : Unquoted text.toList) :
    ofText (foldText text) = (ofText text).map fold := by
  -- without quotes neither text is a quoted one, which would keep its case
  have htrim := h.subset (trim_subset _)
  simp only [ofText, toList_foldText, trim_fold, quoted?_of_unquoted htrim,
    quoted?_of_unquoted htrim.fold, splitsCharacter_fold, isKeyword_fold, shape?_fold]
  split
  · rfl
  · split
    · rfl
    · cases shape? (trim text.toList) with
      | none => rw [Except.map, ← foldText_ofList]; rfl
      | some e => rfl

end Expression

end GridTalk
