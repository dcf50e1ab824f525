import GridTalk.Expression.Reading
import GridTalk.Proofs.Decimal.Digits

/-!
# The grammar of the pieces of an expression

What the readers take from the front of a text, said without reading from left to right.

* `SpellsLetters`, `SpellsReference`, `SpellsUnsigned`, `SpellsSigned`, `SpellsOperation`: the texts
  of each piece and what they stand for.
* `Reads`: a reader that takes exactly such texts, as far as certain characters go on; with
  `Reads.operation` the readers of two operands make one of an operation.
* `Reads.whole?_eq_some_iff`: the whole texts that a reader takes.
* `finiteOf?_of_spellsSigned`, `signed?_eq_some_iff`: numbers, and the floats they stand for.
-/

namespace GridTalk

open Text

namespace Expression

/-! ### The pieces -/

/-- A column is named by letters. -/
def SpellsLetters (letters : String) (t : List Char) : Prop :=
  t = letters.toList ∧ IsRun Char.isAlpha t

/-- A cell is named by letters with digits behind them. -/
def SpellsReference (r : Reference) (t : List Char) : Prop :=
  t = r.letters.toList ++ r.digits.toList ∧ IsRun Char.isAlpha r.letters.toList ∧
    IsRun Char.isDigit r.digits.toList

theorem isPoint_iff {c : Char} : isPoint c = true ↔ c = '.' ∨ c = ',' := by simp [isPoint]

/-- A number without a sign is digits, digits with a point behind them and maybe more digits, or a
point and digits. -/
inductive SpellsUnsigned : Numeral → List Char → Prop
  | whole {w : List Char} : IsRun Char.isDigit w → SpellsUnsigned ⟨false, Numeral.naturalOf w, 0⟩ w
  | fraction {w p : List Char} {c : Char} : IsRun Char.isDigit w → isPoint c = true →
      (∀ d ∈ p, d.isDigit = true) →
      SpellsUnsigned ⟨false, Numeral.naturalOf (w ++ p), -p.length⟩ (w ++ c :: p)
  | bare {p : List Char} {c : Char} : isPoint c = true → IsRun Char.isDigit p →
      SpellsUnsigned ⟨false, Numeral.naturalOf p, -p.length⟩ (c :: p)

/-- A number can have a sign. -/
inductive SpellsSigned : Numeral → List Char → Prop
  | plain {n : Numeral} {t : List Char} : SpellsUnsigned n t → SpellsSigned n t
  | plus {n : Numeral} {t : List Char} : SpellsUnsigned n t → SpellsSigned n ('+' :: t)
  | minus {n : Numeral} {t : List Char} : SpellsUnsigned n t →
      SpellsSigned { n with negative := true } ('-' :: t)

/-- The numeral of the text is in range, and the float is the nearest one. -/
def SpellsFinite (Spells : Numeral → List Char → Prop) (x : Float) (t : List Char) : Prop :=
  ∃ n, Spells n t ∧ n.toFinite? = some x

/-- Two operands with an operator between them, which may have spaces on both sides. -/
def SpellsOperation {α β : Type} (Left : α → List Char → Prop) (Right : β → List Char → Prop)
    (operation : α × Operator × β) (t : List Char) : Prop :=
  ∃ u before after v, t = u ++ (before ++ operation.2.1.symbol :: (after ++ v)) ∧
    Left operation.1 u ∧ (∀ c ∈ before, isSpace c = true) ∧ (∀ c ∈ after, isSpace c = true) ∧
    Right operation.2.2 v

/-! ### Reading a piece -/

/-- The reader takes the texts of a piece: what it has taken is one, and one that stands at the
front is taken if no character behind it could belong to it. -/
structure Reads {α : Type} (read? : List Char → Option (α × List Char))
    (Spells : α → List Char → Prop) (goesOn : Char → Bool) : Prop where
  sound : ∀ {s r a}, read? s = some (a, r) → ∃ t, s = t ++ r ∧ Spells a t
  complete : ∀ {t r a}, Spells a t → (∀ c ∈ r.head?, goesOn c = false) →
    read? (t ++ r) = some (a, r)

theorem Reads.whole?_eq_some_iff {α : Type} {read? : List Char → Option (α × List Char)}
    {Spells : α → List Char → Prop} {goesOn : Char → Bool} (h : Reads read? Spells goesOn)
    {s : List Char} {a : α} : whole? read? s = some a ↔ Spells a s := by
  constructor
  · intro hread
    obtain ⟨⟨a', r⟩, hhead, hwhole⟩ := Option.bind_eq_some_iff.1 hread
    obtain ⟨rfl, hsome⟩ : r = [] ∧ some a' = some a := by simpa using hwhole
    obtain rfl := Option.some.inj hsome
    obtain ⟨t, rfl, hspells⟩ := h.sound hhead
    rwa [List.append_nil]
  · intro hspells
    have hread := h.complete hspells (r := []) (by simp)
    rw [List.append_nil] at hread
    rw [whole?, hread]
    rfl

theorem reads_lettersHead? : Reads lettersHead? SpellsLetters Char.isAlpha where
  sound {s r letters} h := by
    obtain ⟨⟨w, r'⟩, hspan⟩ : ∃ q, s.span Char.isAlpha = q := ⟨_, rfl⟩
    rw [lettersHead?, hspan] at h
    dsimp only at h
    split at h
    · cases h
    · next hne =>
      cases h
      obtain ⟨hs, hw, -⟩ := span_eq_iff.1 hspan
      exact ⟨w, hs, String.toList_ofList.symm, hne, hw⟩
  complete {t r letters} h hr := by
    obtain ⟨rfl, hne, ht⟩ := h
    rw [lettersHead?, span_append_of_head? ht hr]
    simp [hne]

theorem reads_referenceHead? : Reads referenceHead? SpellsReference Char.isDigit where
  sound {s r a} h := by
    obtain ⟨⟨letters, r₁⟩, hletters, hdigits⟩ := Option.bind_eq_some_iff.1 h
    obtain ⟨w, rfl, rfl, hw⟩ := reads_lettersHead?.sound hletters
    obtain ⟨⟨d, r₂⟩, hspan⟩ : ∃ q, r₁.span Char.isDigit = q := ⟨_, rfl⟩
    dsimp only at hdigits
    rw [hspan] at hdigits
    dsimp only at hdigits
    split at hdigits
    · cases hdigits
    · next hne =>
      cases hdigits
      obtain ⟨rfl, hd, -⟩ := span_eq_iff.1 hspan
      refine ⟨letters.toList ++ d, (List.append_assoc ..).symm, ?_⟩
      rw [SpellsReference, String.toList_ofList]
      exact ⟨rfl, hw, hne, hd⟩
  complete {t r a} h hr := by
    obtain ⟨rfl, hw, hne, hd⟩ := h
    have hboundary : ∀ c ∈ (a.digits.toList ++ r).head?, c.isAlpha = false := fun c hc => by
      rw [head?_append_of_ne_nil hne] at hc
      exact isAlpha_of_isDigit (hd c (List.mem_of_mem_head? hc))
    rw [referenceHead?, List.append_assoc, reads_lettersHead?.complete ⟨rfl, hw⟩ hboundary,
      Option.bind_some]
    dsimp only
    rw [span_append_of_head? hd hr]
    simp [hne]

/-- An operator is neither a space nor part of an operand. -/
theorem symbol_spec (op : Operator) : isSpace op.symbol = false ∧ op.symbol.isAlpha = false ∧
    op.symbol.isDigit = false ∧ isPoint op.symbol = false := by
  cases op <;> decide

theorem eq_symbol_of_ofSymbol? {c : Char} {op : Operator} (h : Operator.ofSymbol? c = some op) :
    c = op.symbol := by
  unfold Operator.ofSymbol? at h
  split at h <;> cases h <;> rfl

theorem operatorHead?_eq_some_iff {s r : List Char} {op : Operator} :
    operatorHead? s = some (op, r) ↔ ∃ before after, s = before ++ op.symbol :: (after ++ r) ∧
      (∀ c ∈ before, isSpace c = true) ∧ (∀ c ∈ after, isSpace c = true) ∧
      ∀ c ∈ r.head?, isSpace c = false := by
  constructor
  · intro h
    have hsplit := List.takeWhile_append_dropWhile (p := isSpace) (l := s)
    rw [operatorHead?] at h
    split at h
    · cases h
    · next c t hrest =>
      obtain ⟨op', hop, heq⟩ := Option.map_eq_some_iff.1 h
      cases heq
      refine ⟨s.takeWhile isSpace, t.takeWhile isSpace, ?_,
        fun c hc => List.all_eq_true.1 List.all_takeWhile c hc,
        fun c hc => List.all_eq_true.1 List.all_takeWhile c hc, eq_false_of_head?_dropWhile⟩
      rw [List.takeWhile_append_dropWhile, ← eq_symbol_of_ofSymbol? hop, ← hrest, hsplit]
  · rintro ⟨before, after, rfl, hbefore, hafter, hr⟩
    have hstop : ∀ c ∈ (op.symbol :: (after ++ r)).head?, isSpace c = false := by
      simpa using (symbol_spec op).1
    rw [operatorHead?, dropWhile_append_of_head? hbefore hstop]
    dsimp only
    rw [Operator.ofSymbol?_symbol, dropWhile_append_of_head? hafter hr]
    rfl

/-- An operand on the left ends before the operator, and one on the right does not start with a
space. -/
theorem Reads.operation {α β : Type} {left? : List Char → Option (α × List Char)}
    {right? : List Char → Option (β × List Char)} {Left : α → List Char → Prop}
    {Right : β → List Char → Prop} {goesOn goesOn' : Char → Bool}
    (hleft : Reads left? Left goesOn) (hright : Reads right? Right goesOn')
    (hspace : ∀ c, isSpace c = true → goesOn c = false)
    (hsymbol : ∀ op : Operator, goesOn op.symbol = false)
    (hstart : ∀ {b v}, Right b v → v ≠ [] ∧ ∀ c ∈ v.head?, isSpace c = false) :
    Reads (operationHead? left? right?) (SpellsOperation Left Right) goesOn' where
  sound {s r operation} h := by
    obtain ⟨⟨a, r₁⟩, hl, h⟩ := Option.bind_eq_some_iff.1 h
    obtain ⟨⟨op, r₂⟩, ho, h⟩ := Option.bind_eq_some_iff.1 h
    obtain ⟨⟨b, r₃⟩, hr, heq⟩ := Option.map_eq_some_iff.1 h
    cases heq
    obtain ⟨u, rfl, hu⟩ := hleft.sound hl
    obtain ⟨before, after, rfl, hbefore, hafter, -⟩ := operatorHead?_eq_some_iff.1 ho
    obtain ⟨v, rfl, hv⟩ := hright.sound hr
    exact ⟨u ++ (before ++ op.symbol :: (after ++ v)), by simp, u, before, after, v, rfl, hu,
      hbefore, hafter, hv⟩
  complete {t r operation} h hr := by
    obtain ⟨a, op, b⟩ := operation
    obtain ⟨u, before, after, v, rfl, hu, hbefore, hafter, hv⟩ := h
    obtain ⟨hne, hhead⟩ := hstart hv
    have hl : left? (u ++ (before ++ op.symbol :: (after ++ (v ++ r))))
        = some (a, before ++ op.symbol :: (after ++ (v ++ r))) := by
      refine hleft.complete hu fun c hc => ?_
      cases before with
      | nil => exact (Option.mem_some_iff.1 hc) ▸ hsymbol op
      | cons d before =>
        exact (Option.mem_some_iff.1 hc) ▸ hspace d (hbefore d (List.mem_cons_self ..))
    have ho : operatorHead? (before ++ op.symbol :: (after ++ (v ++ r))) = some (op, v ++ r) :=
      operatorHead?_eq_some_iff.2 ⟨before, after, rfl, hbefore, hafter, by
        rwa [head?_append_of_ne_nil hne]⟩
    have hassoc : u ++ (before ++ op.symbol :: (after ++ v)) ++ r
        = u ++ (before ++ op.symbol :: (after ++ (v ++ r))) := by simp
    rw [operationHead?, hassoc, hl, Option.bind_some]
    dsimp only
    rw [ho, Option.bind_some]
    dsimp only
    rw [hright.complete hv hr]
    rfl

/-! ### Numbers -/

/-- The one character that a number without a sign can start with beside a digit is a point. -/
def isNumberStart (c : Char) : Bool := c.isDigit || isPoint c

theorem isNumberStart_spec {c : Char} (h : isNumberStart c) :
    isSpace c = false ∧ c.isAlpha = false ∧ c ≠ '+' ∧ c ≠ '-' ∧ c ≠ '"' ∧ c ≠ '\x27' := by
  have hascii : c.toNat < 128 := by
    rw [isNumberStart, Bool.or_eq_true, isPoint_iff] at h
    rcases h with h | rfl | rfl
    · exact lt_of_isAlphanum (isAlphanum_of_isDigit h)
    · decide
    · decide
  have hall : ∀ c : Char, c.toNat < 128 → isNumberStart c → isSpace c = false ∧
      c.isAlpha = false ∧ c ≠ '+' ∧ c ≠ '-' ∧ c ≠ '"' ∧ c ≠ '\x27' := forall_ascii (by decide)
  exact hall c hascii h

theorem SpellsUnsigned.head {n : Numeral} {t : List Char} (h : SpellsUnsigned n t) :
    t ≠ [] ∧ ∀ c ∈ t.head?, isNumberStart c := by
  have hdigits : ∀ {w : List Char}, IsRun Char.isDigit w → ∀ c ∈ w.head?, isNumberStart c :=
    fun hw c hc => by simp [isNumberStart, hw.2 c (List.mem_of_mem_head? hc)]
  cases h with
  | whole hw => exact ⟨hw.1, hdigits hw⟩
  | fraction hw =>
    rw [head?_append_of_ne_nil hw.1]
    exact ⟨by simp, hdigits hw⟩
  | bare hc =>
    refine ⟨by simp, fun d hd => ?_⟩
    simp [isNumberStart, ← Option.mem_some_iff.1 hd, hc]

theorem SpellsUnsigned.negative_eq {n : Numeral} {t : List Char} (h : SpellsUnsigned n t) :
    n.negative = false := by
  cases h <;> rfl

section Point

variable {w p : List Char} {c : Char} (hw : ∀ d ∈ w, d.isDigit = true) (hc : isPoint c = true)
  (hp : ∀ d ∈ p, d.isDigit = true) (hne : ¬(w = [] ∧ p = []))
include hw hc hp hne

/-- Behind a point and before it there can be no digits, but not at the same time. -/
theorem spellsUnsigned_point :
    SpellsUnsigned ⟨false, Numeral.naturalOf (w ++ p), -p.length⟩ (w ++ c :: p) := by
  by_cases hempty : w = []
  · subst hempty
    exact .bare hc ⟨fun hnil => hne ⟨rfl, hnil⟩, hp⟩
  · exact .fraction ⟨hempty, hw⟩ hc hp

theorem numberTextHead?_point {r : List Char} (hr : ∀ d ∈ r.head?, d.isDigit = false) :
    numberTextHead? (w ++ c :: (p ++ r)) = some (w ++ c :: p, r) := by
  have hstop : c.isDigit = false := by
    rcases isPoint_iff.1 hc with rfl | rfl
    · decide
    · decide
  have hspan : (w ++ c :: (p ++ r)).span Char.isDigit = (w, c :: (p ++ r)) :=
    span_append_of_head? hw (by simpa using hstop)
  rw [numberTextHead?, hspan]
  dsimp only
  rw [if_pos hc, span_append_of_head? hp hr]
  dsimp only
  rw [if_neg hne]

end Point

theorem reads_numberTextHead? :
    Reads numberTextHead? (fun text t => text = t ∧ ∃ n, SpellsUnsigned n t) isNumberStart where
  sound {s r text} h := by
    obtain ⟨⟨w, r₁⟩, hspan⟩ : ∃ q, s.span Char.isDigit = q := ⟨_, rfl⟩
    obtain ⟨rfl, hw, -⟩ := span_eq_iff.1 hspan
    have hwhole : w ≠ [] → ∃ n, SpellsUnsigned n w := fun hne => ⟨_, .whole ⟨hne, hw⟩⟩
    rw [numberTextHead?, hspan] at h
    cases r₁ with
    | nil =>
      dsimp only at h
      split at h
      · cases h
      · next hne =>
        cases h
        exact ⟨_, rfl, rfl, hwhole hne⟩
    | cons c t =>
      dsimp only at h
      split at h
      · next hc =>
        obtain ⟨⟨p, u⟩, hspan'⟩ : ∃ q, t.span Char.isDigit = q := ⟨_, rfl⟩
        obtain ⟨rfl, hp, -⟩ := span_eq_iff.1 hspan'
        rw [hspan'] at h
        dsimp only at h
        split at h
        · cases h
        · next hne =>
          cases h
          exact ⟨w ++ c :: p, by simp, rfl, _, spellsUnsigned_point hw hc hp hne⟩
      · split at h
        · cases h
        · next hne =>
          cases h
          exact ⟨_, rfl, rfl, hwhole hne⟩
  complete {t r text} h hr := by
    obtain ⟨rfl, n, hn⟩ := h
    have hdigit : ∀ c ∈ r.head?, c.isDigit = false := fun c hc =>
      (Bool.or_eq_false_iff.1 (hr c hc)).1
    cases hn with
    | whole hw =>
      rw [numberTextHead?, span_append_of_head? hw.2 hdigit]
      cases r with
      | nil => simp [hw.1]
      | cons c r =>
        have hc : isPoint c = false := (Bool.or_eq_false_iff.1 (hr c rfl)).2
        simp [hw.1, hc]
    | fraction hw hc hp =>
      rw [List.append_assoc, List.cons_append]
      exact numberTextHead?_point hw.2 hc hp (fun h => hw.1 h.1) hdigit
    | bare hc hp =>
      exact numberTextHead?_point (w := []) (by simp) hc hp.2 (fun h => hp.1 h.2) hdigit

/-- The comma in place of a point makes no difference to a number. -/
def withPoint (t : List Char) : List Char := t.map fun c => if c = ',' then '.' else c

theorem withPoint_of_isDigit {w : List Char} (hw : ∀ d ∈ w, d.isDigit = true) :
    withPoint w = w := by
  have hsame : ∀ d ∈ w, (if d = ',' then '.' else d) = d := by
    intro d hd
    refine if_neg ?_
    rintro rfl
    exact absurd (hw _ hd) (by decide)
  rw [withPoint, List.map_congr_left hsame, List.map_id']

theorem withPoint_point {w p : List Char} {c : Char} (hw : ∀ d ∈ w, d.isDigit = true)
    (hc : isPoint c = true) (hp : ∀ d ∈ p, d.isDigit = true) :
    withPoint (w ++ c :: p) = w ++ '.' :: p := by
  have hpoint : (if c = ',' then '.' else c) = '.' := by
    rcases isPoint_iff.1 hc with rfl | rfl <;> rfl
  have happend : withPoint (w ++ c :: p) = withPoint w ++ withPoint (c :: p) := List.map_append
  rw [happend, withPoint_of_isDigit hw]
  exact congrArg₂ (fun d q => w ++ d :: q) hpoint (withPoint_of_isDigit hp)

/-- A numeral with a point in it, behind any sign. -/
theorem numeralOfText?_point {s w p : List Char} {negative : Bool}
    (hw : ∀ d ∈ w, d.isDigit = true) (hp : ∀ d ∈ p, d.isDigit = true) (hne : ¬(w = [] ∧ p = []))
    (hsign : Numeral.signOf s = (negative, w ++ '.' :: p)) :
    Numeral.ofText? s = some ⟨negative, Numeral.naturalOf (w ++ p), -p.length⟩ := by
  have hspan : (w ++ '.' :: p).span Char.isDigit = (w, '.' :: p) :=
    span_append_of_head? hw (by simp)
  have hspan' : p.span Char.isDigit = (p, []) := by
    simpa using span_append_of_head? (r := []) hp (by simp)
  rw [Numeral.ofText?, hsign]
  dsimp only
  rw [hspan]
  simp only [hspan']
  simp [hne, Numeral.exponentOf?]

theorem numeralOfText?_of_spellsUnsigned {n : Numeral} {t : List Char} (h : SpellsUnsigned n t)
    {s : List Char} {negative : Bool} (hsign : Numeral.signOf s = (negative, withPoint t)) :
    Numeral.ofText? s = some { n with negative := negative } := by
  cases h with
  | whole hw =>
    rw [withPoint_of_isDigit hw.2] at hsign
    have hspan : t.span Char.isDigit = (t, []) := by
      simpa using span_append_of_head? (r := []) hw.2 (by simp)
    rw [Numeral.ofText?, hsign]
    dsimp only
    rw [hspan]
    simp [hw.1, Numeral.exponentOf?]
  | fraction hw hc hp =>
    rw [withPoint_point hw.2 hc hp] at hsign
    exact numeralOfText?_point hw.2 hp (fun hnil => hw.1 hnil.1) hsign
  | bare hc hp =>
    have hbare := withPoint_point (w := []) (by simp) hc hp.2
    rw [List.nil_append] at hbare
    rw [hbare] at hsign
    exact numeralOfText?_point (w := []) (by simp) hp.2 (fun hnil => hp.1 hnil.2) hsign

theorem signOf_of_isNumberStart {t : List Char} (h : ∀ c ∈ t.head?, isNumberStart c) :
    Numeral.signOf t = (false, t) := by
  cases t with
  | nil => rfl
  | cons c r =>
    obtain ⟨-, -, hplus, hminus, -⟩ := isNumberStart_spec (h c rfl)
    simp [Numeral.signOf, hplus, hminus]

theorem isNumberStart_withPoint {t : List Char} (h : ∀ c ∈ t.head?, isNumberStart c) :
    ∀ c ∈ (withPoint t).head?, isNumberStart c := by
  cases t with
  | nil => exact h
  | cons c r =>
    intro d hd
    rw [← Option.mem_some_iff.1 hd]
    show isNumberStart (if c = ',' then '.' else c) = true
    split
    · decide
    · exact h c rfl

/-- The float of a number is the nearest one to its exact value, and there is none out of range. -/
theorem finiteOf?_of_spellsSigned {n : Numeral} {t : List Char} (h : SpellsSigned n t) :
    finiteOf? t = n.toFinite? := by
  have hnumeral : Numeral.ofText? (withPoint t) = some n := by
    cases h with
    | plain h =>
      have hread := numeralOfText?_of_spellsUnsigned h
        (signOf_of_isNumberStart (isNumberStart_withPoint h.head.2))
      rw [hread, ← h.negative_eq]
    | plus h =>
      have hread := numeralOfText?_of_spellsUnsigned h (s := withPoint ('+' :: _)) rfl
      rw [hread, ← h.negative_eq]
    | minus h => exact numeralOfText?_of_spellsUnsigned h rfl
  rw [withPoint] at hnumeral
  rw [finiteOf?, hnumeral, Option.bind_some]

theorem finiteOf?_of_spellsUnsigned {n : Numeral} {t : List Char} (h : SpellsUnsigned n t) :
    finiteOf? t = n.toFinite? := finiteOf?_of_spellsSigned (.plain h)

theorem reads_unsignedHead? : Reads unsignedHead? (SpellsFinite SpellsUnsigned) isNumberStart where
  sound {s r x} h := by
    obtain ⟨⟨text, r'⟩, htext, hvalue⟩ := Option.bind_eq_some_iff.1 h
    obtain ⟨y, hy, heq⟩ := Option.map_eq_some_iff.1 hvalue
    cases heq
    obtain ⟨t, rfl, rfl, n, hn⟩ := reads_numberTextHead?.sound htext
    exact ⟨text, rfl, n, hn, finiteOf?_of_spellsUnsigned hn ▸ hy⟩
  complete {t r x} h hr := by
    obtain ⟨n, hn, hx⟩ := h
    rw [unsignedHead?, reads_numberTextHead?.complete ⟨rfl, n, hn⟩ hr, Option.bind_some]
    dsimp only
    rw [finiteOf?_of_spellsUnsigned hn, hx]
    rfl

open Float.Model in
/-- Neither an infinity nor what is not a number becomes finite by a sign. -/
theorem isFinite_of_neg {x : Float} (h : (-x).isFinite) : x.isFinite := by
  have hneg : (-x).isFinite = (pack x.toModel.unpack.neg).isFinite := rfl
  have hx : x.isFinite = x.toModel.unpack.isFinite := rfl
  rw [hneg] at h
  rw [hx]
  cases hunpack : x.toModel.unpack with
  | infinity sign =>
    rw [hunpack] at h
    cases sign
    · exact absurd h (by decide +kernel)
    · exact absurd h (by decide +kernel)
  | notANumber =>
    rw [hunpack] at h
    exact absurd h (by decide +kernel)
  | zero sign => rfl
  | finite => rfl

theorem exists_toFinite?_of_negative {n : Numeral} (hn : n.negative = false) {x : Float}
    (h : ({ n with negative := true } : Numeral).toFinite? = some x) :
    ∃ y, n.toFinite? = some y := by
  rw [Numeral.toFinite?] at h
  split at h
  · next hfinite =>
    have hsame : n.toFloat = n.magnitude := by simp [Numeral.toFloat, hn]
    refine ⟨n.toFloat, if_pos ?_⟩
    rw [hsame]
    exact isFinite_of_neg hfinite
  · cases h

/-- A number is read with its sign if and only if it is in range. -/
theorem signed?_eq_some_iff {s : List Char} {x : Float} :
    signed? s = some x ↔ SpellsFinite SpellsSigned x s := by
  constructor
  · intro h
    obtain ⟨⟨y, r⟩, hbody, hwhole⟩ := Option.bind_eq_some_iff.1 h
    obtain ⟨rfl, hx⟩ : r = [] ∧ finiteOf? s = some x := by simpa using hwhole
    obtain ⟨t, ht, n, hn, -⟩ := reads_unsignedHead?.sound hbody
    rw [List.append_nil] at ht
    rw [← ht] at hn
    have hspells : ∃ n', SpellsSigned n' s := by
      rcases Numeral.eq_or_eq_cons_signOf s with hs | ⟨c, hc, hs⟩
      · rw [hs]
        exact ⟨n, .plain hn⟩
      · rw [hs]
        rcases List.mem_pair.1 hc with rfl | rfl
        · exact ⟨n, .plus hn⟩
        · exact ⟨_, .minus hn⟩
    obtain ⟨n', hn'⟩ := hspells
    exact ⟨n', hn', finiteOf?_of_spellsSigned hn' ▸ hx⟩
  · rintro ⟨n, hn, hx⟩
    have hvalue := finiteOf?_of_spellsSigned hn
    have hread : ∀ {n' : Numeral} {t : List Char} {y : Float}, SpellsUnsigned n' t →
        n'.toFinite? = some y → (Numeral.signOf s).2 = t → signed? s = some x := by
      intro n' t y hn' hy ht
      have hunsigned := reads_unsignedHead?.complete ⟨n', hn', hy⟩ (r := []) (by simp)
      rw [List.append_nil] at hunsigned
      rw [signed?]
      dsimp only
      rw [ht, hunsigned, Option.bind_some]
      dsimp only
      rw [if_pos rfl, hvalue, hx]
    cases hn with
    | plain hn => exact hread hn hx (congrArg Prod.snd (signOf_of_isNumberStart hn.head.2))
    | plus hn => exact hread hn hx rfl
    | minus hn =>
      obtain ⟨y, hy⟩ := exists_toFinite?_of_negative hn.negative_eq hx
      exact hread hn hy rfl

/-! ### Operations -/

theorem isSpace_spec {c : Char} (h : isSpace c) :
    c.isAlpha = false ∧ c.isDigit = false ∧ isPoint c = false := by
  simp only [isSpace, Bool.or_eq_true, decide_eq_true_eq] at h
  rcases h with ((rfl | rfl) | rfl) | rfl <;> decide

theorem isSpace_of_isAlpha {c : Char} (h : c.isAlpha) : isSpace c = false := by
  rw [Bool.eq_false_iff]
  intro hspace
  rw [(isSpace_spec hspace).1] at h
  cases h

theorem SpellsLetters.head {letters : String} {t : List Char} (h : SpellsLetters letters t) :
    t ≠ [] ∧ ∀ c ∈ t.head?, c.isAlpha :=
  ⟨h.2.1, fun c hc => h.2.2 c (List.mem_of_mem_head? hc)⟩

theorem SpellsReference.head {r : Reference} {t : List Char} (h : SpellsReference r t) :
    t ≠ [] ∧ ∀ c ∈ t.head?, c.isAlpha := by
  obtain ⟨rfl, hletters, -⟩ := h
  rw [head?_append_of_ne_nil hletters.1]
  exact ⟨by simp [hletters.1], fun c hc => hletters.2 c (List.mem_of_mem_head? hc)⟩

/-- Two columns. -/
theorem reads_columns : Reads (operationHead? lettersHead? lettersHead?)
    (SpellsOperation SpellsLetters SpellsLetters) Char.isAlpha :=
  reads_lettersHead?.operation reads_lettersHead? (fun _ hc => (isSpace_spec hc).1)
    (fun op => (symbol_spec op).2.1)
    fun h => ⟨h.head.1, fun c hc => isSpace_of_isAlpha (h.head.2 c hc)⟩

/-- Two cells. -/
theorem reads_cells : Reads (operationHead? referenceHead? referenceHead?)
    (SpellsOperation SpellsReference SpellsReference) Char.isDigit :=
  reads_referenceHead?.operation reads_referenceHead? (fun _ hc => (isSpace_spec hc).2.1)
    (fun op => (symbol_spec op).2.2.1)
    fun h => ⟨h.head.1, fun c hc => isSpace_of_isAlpha (h.head.2 c hc)⟩

/-- A cell and a number. -/
theorem reads_cellNumber : Reads (operationHead? referenceHead? unsignedHead?)
    (SpellsOperation SpellsReference (SpellsFinite SpellsUnsigned)) isNumberStart :=
  reads_referenceHead?.operation reads_unsignedHead? (fun _ hc => (isSpace_spec hc).2.1)
    (fun op => (symbol_spec op).2.2.1)
    fun ⟨_, hn, _⟩ => ⟨hn.head.1, fun c hc => (isNumberStart_spec (hn.head.2 c hc)).1⟩

end Expression

end GridTalk
