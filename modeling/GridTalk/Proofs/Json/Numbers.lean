import GridTalk.Json.Reading
import GridTalk.Proofs.Decimal.Digits
import GridTalk.Proofs.Decimal.Shortest

/-!
# Numbers in JSON text

A numeral is written as a number with a point or an exponent, and all of that is read as one number
again.

* `Json.Layout`: a written number in its parts, and the numeral that they spell.
* `Json.Layout.numberHead?_text`: the parts are read up to their end.
* `Json.Spells`: a text that makes a number which is the same as a numeral.
* `Json.exists_layout`: every numeral is written so.
-/

namespace GridTalk.Json

open Text

/-- A written number: a sign, the digits before and behind the point, and an exponent with its sign,
if there is one. -/
structure Layout where
  negative : Bool
  whole : List Char
  part : List Char
  exponent : Option (Bool × List Char)

namespace Layout

/-- The sign as it is written. -/
def signText (negative : Bool) : List Char := if negative then ['-'] else []

/-- The digits behind the point, and the point if there are any. -/
def fractionText (part : List Char) : List Char := if part = [] then [] else '.' :: part

/-- The exponent as it is written. -/
def exponentText : Option (Bool × List Char) → List Char
  | none => []
  | some (negative, ds) => 'e' :: (if negative then '-' else '+') :: ds

/-- The text of a number. -/
def text (w : Layout) : List Char :=
  signText w.negative ++ (w.whole ++ (fractionText w.part ++ exponentText w.exponent))

/-- The value of the exponent. -/
def exponentValue : Option (Bool × List Char) → Int
  | none => 0
  | some (negative, ds) => if negative then -(Numeral.naturalOf ds : Int) else Numeral.naturalOf ds

/-- The numeral that a number spells. -/
def numeral (w : Layout) : Numeral :=
  ⟨w.negative, Numeral.naturalOf (w.whole ++ w.part), exponentValue w.exponent - w.part.length⟩

/-- The parts are digits.  Before the point there is at least one, and the first of several is not
zero. -/
structure Valid (w : Layout) : Prop where
  whole_ne_nil : w.whole ≠ []
  whole_digits : ∀ d ∈ w.whole, d.isDigit = true
  whole_zero : w.whole.length = 1 ∨ w.whole.head? ≠ some '0'
  part_digits : ∀ d ∈ w.part, d.isDigit = true
  exponent_digits : ∀ e ∈ w.exponent, e.2 ≠ [] ∧ ∀ d ∈ e.2, d.isDigit = true

/-- A character with which no number goes on. -/
def Stops (c : Char) : Prop := c.isDigit = false ∧ c ≠ '.' ∧ c ≠ 'e' ∧ c ≠ 'E'

instance (c : Char) : Decidable (Stops c) := inferInstanceAs (Decidable (_ ∧ _))

variable {w : Layout} {r : List Char}

/-! ### The parts are read -/

/-- The number behind its sign. -/
def unsignedHead? (sign s : List Char) : Option (Numeral × List Char) := do
  let (whole, r) := s.span Char.isDigit
  if whole = [] ∨ (whole.length > 1 ∧ whole.head? = some '0') then none
  else
    let (fraction, r) ← fractionHead? r
    let (exponent, r) ← exponentHead? r
    let x ← Numeral.ofText? (sign ++ whole ++ fraction ++ exponent)
    return (x, r)

theorem numberHead?_minus (s : List Char) : numberHead? ('-' :: s) = unsignedHead? ['-'] s := rfl

theorem numberHead?_cons {c : Char} (hc : c ≠ '-') (s : List Char) :
    numberHead? (c :: s) = unsignedHead? [] (c :: s) := by
  unfold numberHead?
  split
  · next sign r heq =>
    split at heq
    · next h =>
      cases h
      exact absurd rfl hc
    · cases heq
      rfl

theorem fractionHead?_append {part : List Char} (hpart : ∀ d ∈ part, d.isDigit = true)
    (hr : ∀ c ∈ r.head?, c.isDigit = false ∧ c ≠ '.') :
    fractionHead? (fractionText part ++ r) = some (fractionText part, r) := by
  by_cases hnil : part = []
  · rw [fractionText, if_pos hnil, List.nil_append, fractionHead?.eq_def]
    split
    · exact absurd rfl (hr '.' rfl).2
    · rfl
  · rw [fractionText, if_neg hnil, List.cons_append, fractionHead?,
      span_append_of_head? hpart fun c hc => (hr c hc).1]
    simp [hnil]

theorem exponentHead?_append {exponent : Option (Bool × List Char)}
    (hexponent : ∀ e ∈ exponent, e.2 ≠ [] ∧ ∀ d ∈ e.2, d.isDigit = true)
    (hr : ∀ c ∈ r.head?, c.isDigit = false ∧ c ≠ 'e' ∧ c ≠ 'E') :
    exponentHead? (exponentText exponent ++ r) = some (exponentText exponent, r) := by
  cases exponent with
  | none =>
    cases r with
    | nil => rfl
    | cons c r =>
      obtain ⟨-, hsmall, hcapital⟩ := hr c rfl
      simp [exponentText, exponentHead?, hsmall, hcapital]
  | some e =>
    obtain ⟨negative, ds⟩ := e
    obtain ⟨hne, hds⟩ := hexponent _ rfl
    have hspan : (ds ++ r).span Char.isDigit = (ds, r) :=
      span_append_of_head? hds fun c hc => (hr c hc).1
    cases negative <;>
      simp only [exponentText, List.cons_append, exponentHead?, true_or, if_true, if_false,
        Bool.false_eq_true, hspan, if_neg hne, List.nil_append]

/-- What stands behind the digits before the point is no digit. -/
theorem head?_fractionText (part : List Char) (hr : ∀ c ∈ r.head?, c.isDigit = false) :
    ∀ c ∈ (fractionText part ++ r).head?, c.isDigit = false := by
  unfold fractionText
  split
  · exact hr
  · intro c hc
    cases hc
    rfl

/-- What stands behind those behind it is neither a digit nor a point. -/
theorem head?_exponentText (exponent : Option (Bool × List Char)) (hr : ∀ c ∈ r.head?, Stops c) :
    ∀ c ∈ (exponentText exponent ++ r).head?, c.isDigit = false ∧ c ≠ '.' := by
  cases exponent with
  | none => exact fun c hc => ⟨(hr c hc).1, (hr c hc).2.1⟩
  | some e =>
    intro c hc
    cases hc
    decide

/-- The digits before the point are behind the sign. -/
theorem exists_cons (hw : w.Valid) :
    ∃ d ds, w.whole = d :: ds ∧ d.isDigit = true ∧ d ≠ '-' ∧ d ≠ '+' := by
  cases hwhole : w.whole with
  | nil => exact absurd hwhole hw.whole_ne_nil
  | cons d ds =>
    have hd : d.isDigit = true := hw.whole_digits d (hwhole ▸ List.mem_cons_self)
    refine ⟨d, ds, rfl, hd, ?_, ?_⟩ <;>
      · rintro rfl
        cases hd

/-- A number starts with a digit or with the sign. -/
theorem exists_cons_text (hw : w.Valid) :
    ∃ c s, w.text = c :: s ∧ (c.isDigit = true ∨ c = '-') := by
  obtain ⟨d, ds, hwhole, hd, -, -⟩ := exists_cons hw
  cases hnegative : w.negative with
  | true => exact ⟨'-', _, by rw [text, hnegative]; rfl, .inr rfl⟩
  | false => exact ⟨d, _, by rw [text, hnegative, hwhole]; rfl, .inl hd⟩

theorem exponentOf?_exponentText {exponent : Option (Bool × List Char)}
    (hexponent : ∀ e ∈ exponent, e.2 ≠ [] ∧ ∀ d ∈ e.2, d.isDigit = true) :
    Numeral.exponentOf? (exponentText exponent) = some (exponentValue exponent) := by
  cases exponent with
  | none => rfl
  | some e =>
    obtain ⟨negative, ds⟩ := e
    obtain ⟨hne, hds⟩ := hexponent _ rfl
    have hdigits : ¬(ds.isEmpty = true ∨ ¬ds.all Char.isDigit = true) := by
      simp only [List.isEmpty_iff, List.all_eq_true, not_or, not_not]
      exact ⟨hne, hds⟩
    cases negative <;>
      simp only [exponentText, exponentValue, Numeral.exponentOf?, Numeral.signOf, true_or, if_true,
        if_false, Bool.false_eq_true, if_neg hdigits]

/-- The numeral is what the text spells. -/
theorem ofText?_text (hw : w.Valid) : Numeral.ofText? w.text = some w.numeral := by
  obtain ⟨d, ds, hwhole, -, hminus, hplus⟩ := exists_cons hw
  have hsign : Numeral.signOf w.text
      = (w.negative, w.whole ++ (fractionText w.part ++ exponentText w.exponent)) := by
    unfold text signText
    cases w.negative with
    | true => rfl
    | false => simp [hwhole, Numeral.signOf, hminus, hplus]
  have hrest : ∀ c ∈ (exponentText w.exponent).head?, c.isDigit = false ∧ c ≠ '.' := by
    have hhead := head?_exponentText w.exponent (r := []) nofun
    rwa [List.append_nil] at hhead
  have hspan : (w.whole ++ (fractionText w.part ++ exponentText w.exponent)).span Char.isDigit
      = (w.whole, fractionText w.part ++ exponentText w.exponent) :=
    span_append_of_head? hw.whole_digits (head?_fractionText w.part fun c hc => (hrest c hc).1)
  have hexponent := exponentOf?_exponentText hw.exponent_digits
  have hne : ¬(w.whole.isEmpty = true ∧ w.part.isEmpty = true) := by simp [hwhole]
  rw [Numeral.ofText?, hsign]
  dsimp only
  rw [hspan]
  by_cases hnil : w.part = []
  · -- without a point the exponent comes next
    rw [hnil] at hne
    rw [numeral, hnil, fractionText, if_pos rfl, List.nil_append]
    have hmap := congrArg (Option.map fun e : Int =>
      (⟨w.negative, Numeral.naturalOf (w.whole ++ []), e - (0 : Nat)⟩ : Numeral)) hexponent
    cases hvalue : w.exponent <;>
      · rw [hvalue] at hmap
        exact (if_neg hne).trans hmap
  · have hspan' : (w.part ++ exponentText w.exponent).span Char.isDigit
        = (w.part, exponentText w.exponent) :=
      span_append_of_head? hw.part_digits fun c hc => (hrest c hc).1
    rw [fractionText, if_neg hnil, List.cons_append]
    simp only [hspan', if_neg hne, hexponent]
    rfl

/-- **A number is read** up to its end. -/
theorem numberHead?_text (hw : w.Valid) (hr : ∀ c ∈ r.head?, Stops c) :
    numberHead? (w.text ++ r) = some (w.numeral, r) := by
  have hread := ofText?_text hw
  obtain ⟨d, ds, hwhole, -, hminus, -⟩ := exists_cons hw
  have hspan : (w.whole ++ (fractionText w.part ++ (exponentText w.exponent ++ r))).span
      Char.isDigit = (w.whole, fractionText w.part ++ (exponentText w.exponent ++ r)) :=
    span_append_of_head? hw.whole_digits
      (head?_fractionText w.part fun c hc => (head?_exponentText w.exponent hr c hc).1)
  have hzero : ¬(w.whole = [] ∨ (w.whole.length > 1 ∧ w.whole.head? = some '0')) := by
    rintro (hnil | ⟨hlong, hfirst⟩)
    · exact hw.whole_ne_nil hnil
    · rcases hw.whole_zero with h | h
      · omega
      · exact h hfirst
  have hexponent := exponentHead?_append hw.exponent_digits
    fun c hc => ⟨(hr c hc).1, (hr c hc).2.2⟩
  have hfraction : fractionHead? (fractionText w.part ++ (exponentText w.exponent ++ r))
      = some (fractionText w.part, exponentText w.exponent ++ r) :=
    fractionHead?_append hw.part_digits (head?_exponentText w.exponent hr)
  have hbody : unsignedHead? (signText w.negative)
      (w.whole ++ (fractionText w.part ++ (exponentText w.exponent ++ r)))
      = some (w.numeral, r) := by
    have htext : signText w.negative ++ w.whole ++ fractionText w.part ++ exponentText w.exponent
        = w.text := by
      simp [text]
    unfold unsignedHead?
    rw [hspan]
    dsimp only
    rw [if_neg hzero, hfraction]
    dsimp only [Option.bind_eq_bind, Option.bind_some]
    rw [hexponent]
    dsimp only [Option.bind_some]
    rw [htext, hread]
    rfl
  have htext : w.text ++ r = signText w.negative
      ++ (w.whole ++ (fractionText w.part ++ (exponentText w.exponent ++ r))) := by
    simp [text]
  rw [htext]
  cases hnegative : w.negative with
  | true =>
    rw [hnegative] at hbody
    exact (numberHead?_minus _).trans hbody
  | false =>
    rw [hnegative, hwhole] at hbody
    rw [hwhole]
    exact (numberHead?_cons hminus _).trans hbody

end Layout

/-! ### Every numeral has a layout -/

/-- A numeral with some more zeros is the same number. -/
theorem sameValue_of_zeros {x y : Numeral} (k : Nat)
    (h : y = ⟨x.negative, x.digits * 10 ^ k, (if x.digits = 0 then 0 else x.exponent) - k⟩) :
    x.SameValue y := by
  subst h
  refine ⟨rfl, ?_⟩
  rw [Numeral.value, Numeral.value]
  split
  · next hzero => simp [hzero]
  · rw [zpow_sub₀ (by norm_num), zpow_natCast]
    push_cast
    field_simp

section Layouts

variable {ds : List Char} {exponent : Int} (hds : ∀ d ∈ ds, d.isDigit = true)
include hds

/-- A whole number, with the zeros that its exponent asks for. -/
theorem valid_whole (hne : ds ≠ [])
    (hzero : (ds.length = 1 ∧ exponent = 0) ∨ ds.head? ≠ some '0') (negative : Bool) :
    Layout.Valid ⟨negative, ds ++ List.replicate exponent.toNat '0', ['0'], none⟩ where
  whole_ne_nil := by simp [hne]
  whole_digits d hd := by
    rcases List.mem_append.1 hd with hd | hd
    · exact hds d hd
    · rw [List.eq_of_mem_replicate hd]
      rfl
  whole_zero := by
    rcases hzero with ⟨hone, rfl⟩ | hhead
    · exact .inl (by simpa using hone)
    · right
      cases ds with
      | nil => exact absurd rfl hne
      | cons d ds => simpa using hhead
  part_digits := by simp
  exponent_digits := nofun

/-- The point stands among the digits. -/
theorem valid_among (hhead : ds.head? ≠ some '0') {n : Nat} (hn : 0 < n) (hlt : n < ds.length)
    (negative : Bool) : Layout.Valid ⟨negative, ds.take n, ds.drop n, none⟩ where
  whole_ne_nil := by
    rw [← List.length_pos_iff, List.length_take]
    omega
  whole_digits d hd := hds d (List.mem_of_mem_take hd)
  whole_zero := .inr (by rwa [List.head?_take, if_neg (by omega)])
  part_digits d hd := hds d (List.mem_of_mem_drop hd)
  exponent_digits := nofun

/-- All digits stand behind the point, and perhaps some zeros before them. -/
theorem valid_behind (k : Nat) (negative : Bool) :
    Layout.Valid ⟨negative, ['0'], List.replicate k '0' ++ ds, none⟩ where
  whole_ne_nil := by simp
  whole_digits := by simp
  whole_zero := .inl rfl
  part_digits d hd := by
    rcases List.mem_append.1 hd with hd | hd
    · rw [List.eq_of_mem_replicate hd]
      rfl
    · exact hds d hd
  exponent_digits := nofun

/-- One digit before the point, and the exponent of it. -/
theorem valid_exponent (hne : ds ≠ []) (first : Int) (negative : Bool) :
    Layout.Valid ⟨negative, ds.take 1, ds.drop 1,
      some (decide (first < 0), Nat.toDigits 10 first.natAbs)⟩ where
  whole_ne_nil := by simp [hne]
  whole_digits d hd := hds d (List.mem_of_mem_take hd)
  whole_zero := by
    left
    rw [List.length_take, Nat.min_eq_left (List.length_pos_iff.2 hne)]
  part_digits d hd := hds d (List.mem_of_mem_drop hd)
  exponent_digits e he := by
    cases he
    exact ⟨Nat.toDigits_ne_nil, fun d hd => Nat.isDigit_of_mem_toDigits (by omega) (by omega) hd⟩

end Layouts

/-- Behind the sign of the numeral the text makes a number that is the same. -/
def Spells (x : Numeral) (s : List Char) : Prop :=
  ∃ w : Layout, w.Valid ∧ w.text = Layout.signText x.negative ++ s ∧ x.SameValue w.numeral

section Spelled

variable {x : Numeral} {ds : List Char} {exponent : Int} (hds : ∀ d ∈ ds, d.isDigit = true)
  (hvalue : Numeral.naturalOf ds = x.digits)
  (hexponent : (if x.digits = 0 then 0 else x.exponent) = exponent)
include hds hvalue hexponent

theorem spells_whole (hne : ds ≠ [])
    (hzero : (ds.length = 1 ∧ exponent = 0) ∨ ds.head? ≠ some '0') (hwhole : 0 ≤ exponent) :
    Spells x (ds ++ List.replicate exponent.toNat '0' ++ ['.', '0']) := by
  refine ⟨_, valid_whole hds hne hzero x.negative, ?_, sameValue_of_zeros (exponent.toNat + 1) ?_⟩
  · simp [Layout.text, Layout.fractionText, Layout.exponentText]
  · have hdigit : Numeral.naturalOf (ds ++ List.replicate exponent.toNat '0' ++ ['0'])
        = x.digits * 10 ^ (exponent.toNat + 1) := by
      rw [List.append_assoc, ← List.replicate_succ', Numeral.naturalOf_append_zeros, hvalue]
    rw [Layout.numeral, hdigit, hexponent]
    simp only [Layout.exponentValue, List.length_singleton]
    congr 1
    omega

theorem spells_among (hhead : ds.head? ≠ some '0') {n : Nat} (hn : (-exponent).toNat = n)
    (hpos : 0 < n) (hlt : n < ds.length) :
    Spells x (ds.take (ds.length - n) ++ '.' :: ds.drop (ds.length - n)) := by
  have hdrop : ds.drop (ds.length - n) ≠ [] := by
    rw [← List.length_pos_iff, List.length_drop]
    omega
  refine ⟨_, valid_among hds hhead (n := ds.length - n) (by omega) (by omega) x.negative, ?_,
    sameValue_of_zeros 0 ?_⟩
  · simp [Layout.text, Layout.fractionText, Layout.exponentText, hdrop]
  · rw [Layout.numeral, List.take_append_drop, hvalue, hexponent]
    simp only [Layout.exponentValue, List.length_drop, pow_zero, mul_one]
    congr 1
    omega

theorem spells_behind (hne : ds ≠ []) {k : Nat} (hk : (-exponent).toNat = k + ds.length) :
    Spells x ('0' :: '.' :: List.replicate k '0' ++ ds) := by
  have hpos : 0 < ds.length := List.length_pos_iff.2 hne
  refine ⟨_, valid_behind hds k x.negative, ?_, sameValue_of_zeros 0 ?_⟩
  · simp [Layout.text, Layout.fractionText, Layout.exponentText, hne]
  · have hdigit : Numeral.naturalOf (['0'] ++ (List.replicate k '0' ++ ds)) = x.digits := by
      rw [← hvalue]
      exact Numeral.naturalOf_zeros_append _ ds
    rw [Layout.numeral, hdigit, hexponent]
    simp only [Layout.exponentValue, List.length_append, List.length_replicate, pow_zero, mul_one]
    congr 1
    omega

theorem spells_exponent (hne : ds ≠ []) :
    Spells x (NumberStyle.exponentText ds (exponent + ds.length - 1)) := by
  have hpos : 0 < ds.length := List.length_pos_iff.2 hne
  have htail : ds.tail = [] ↔ ¬1 < ds.length := by
    rw [← List.length_eq_zero_iff, List.length_tail]
    omega
  refine ⟨_, valid_exponent hds hne (exponent + ds.length - 1) x.negative, ?_,
    sameValue_of_zeros 0 ?_⟩
  · simp only [NumberStyle.exponentText, Layout.text, Layout.fractionText, Layout.exponentText,
      List.drop_one, htail, ite_not, gt_iff_lt, decide_eq_true_eq, List.append_assoc]
  · rw [Layout.numeral, List.take_append_drop, hvalue, hexponent]
    simp only [Layout.exponentValue, Numeral.naturalOf_toDigits, List.length_drop, pow_zero,
      mul_one, decide_eq_true_eq]
    congr 1
    split <;> omega

end Spelled

/-- **Every numeral is written as a number**, which spells a numeral of the same value. -/
theorem exists_layout (x : Numeral) :
    ∃ w : Layout, w.Valid ∧ w.text = numberStyle.write x ∧ x.SameValue w.numeral := by
  obtain ⟨ds, hdigits⟩ : ∃ ds, Nat.toDigits 10 x.digits = ds := ⟨_, rfl⟩
  obtain ⟨exponent, hexponent⟩ : ∃ e, (if x.digits = 0 then 0 else x.exponent) = e := ⟨_, rfl⟩
  have hne : ds ≠ [] := hdigits ▸ Nat.toDigits_ne_nil
  have hds : ∀ d ∈ ds, d.isDigit = true := fun d hd =>
    Nat.isDigit_of_mem_toDigits (by omega) (by omega) (hdigits ▸ hd)
  have hvalue : Numeral.naturalOf ds = x.digits := hdigits ▸ Numeral.naturalOf_toDigits x.digits
  have hzero : (ds.length = 1 ∧ exponent = 0) ∨ ds.head? ≠ some '0' := by
    rcases Nat.eq_zero_or_pos x.digits with hdigits₀ | hdigits₀
    · left
      rw [← hdigits, ← hexponent, if_pos hdigits₀, hdigits₀]
      exact ⟨rfl, rfl⟩
    · exact .inr (hdigits ▸ Numeral.head?_toDigits hdigits₀)
  have hwrite : numberStyle.write x = Layout.signText x.negative ++
      if numberStyle.positional (exponent + ds.length - 1) then
        numberStyle.positionalText ds exponent
      else NumberStyle.exponentText ds (exponent + ds.length - 1) := by
    subst hdigits hexponent
    simp [NumberStyle.write, numberStyle, Layout.signText]
  rw [hwrite]
  show Spells x _
  split
  · rw [NumberStyle.positionalText]
    by_cases hwhole : 0 ≤ exponent
    · rw [if_pos hwhole]
      exact spells_whole hds hvalue hexponent hne hzero hwhole
    · rw [if_neg hwhole]
      by_cases hamong : (-exponent).toNat < ds.length
      · rw [if_pos hamong]
        have hhead : ds.head? ≠ some '0' := hzero.resolve_left fun h => by omega
        exact spells_among hds hvalue hexponent hhead rfl (by omega) hamong
      · rw [if_neg hamong]
        exact spells_behind hds hvalue hexponent hne (by omega)
  · exact spells_exponent hds hvalue hexponent hne

end GridTalk.Json
