import GridTalk.Cell
import GridTalk.Proofs.Expression.Grammar
import GridTalk.Proofs.Expression.Keyword

/-!
# One expression for each text

Seven forms of expressions are tried one after the other, and what is in none of them is a label.
No text is in two of the forms, so that the order of the tries is of no importance.

* `Form.recognize`, `ofText_eq_findSome?`: the forms one by one, and all of them in their order.
* `Form.Spelled`: the texts of each form; `Form.recognize_eq_some_iff` says that these are the ones
  that are recognized.
* `formOf`, `Form.Spelled.formOf_eq`: the only form that a text can have is known from its start and
  from what is behind its first letters and digits.
* `spellsFinite_of_ofText`, `isFinite_of_ofText`: what is read as a number spells a finite one.
* `ofText_eq_ok_iff_spelled`: what a text is read as, with everything above put together.
-/

namespace GridTalk.Expression

open Text

/-! ### The forms -/

/-- The shapes of an expression that is not a label. -/
inductive Form
  | quoted
  | blank
  | cell
  | number
  | columns
  | cells
  | cellNumber
  deriving DecidableEq, Repr

namespace Form

/-- All forms, in the order in which they are tried. -/
def all : List Form := [quoted, blank, cell, number, columns, cells, cellNumber]

theorem mem_all (form : Form) : form ∈ all := by cases form <;> decide

/-- The expression that a whole text is in this form. -/
def recognize : Form → List Char → Option Expression
  | quoted, s => (quoted? s).map fun u => .quoted (String.ofList u)
  | blank, s => if isKeyword s then some .blank else none
  | cell, s => (whole? referenceHead? s).map .cell
  | number, s => (signed? s).map .number
  | columns, s => (whole? (operationHead? lettersHead? lettersHead?) s).map
      fun (l, op, r) => .columns l op r
  | cells, s => (whole? (operationHead? referenceHead? referenceHead?) s).map
      fun (l, op, r) => .cells l op r
  | cellNumber, s => (whole? (operationHead? referenceHead? unsignedHead?) s).map
      fun (l, op, x) => .cellNumber l op x

/-- The text is in this form, and it is this expression. -/
inductive Spelled : Form → List Char → Expression → Prop
  | quoted {q : Char} {u : String} : q = '"' ∨ q = '\x27' →
      Spelled quoted (q :: (u.toList ++ [q])) (.quoted u)
  | blank {s : List Char} : Text.fold s ∈ keywords → Spelled blank s .blank
  | cell {s : List Char} {r : Reference} : SpellsReference r s → Spelled cell s (.cell r)
  | number {s : List Char} {x : Float} : SpellsFinite SpellsSigned x s →
      Spelled number s (.number x)
  | columns {s : List Char} {l r : String} {op : Operator} :
      SpellsOperation SpellsLetters SpellsLetters (l, op, r) s →
      Spelled columns s (.columns l op r)
  | cells {s : List Char} {l r : Reference} {op : Operator} :
      SpellsOperation SpellsReference SpellsReference (l, op, r) s →
      Spelled cells s (.cells l op r)
  | cellNumber {s : List Char} {l : Reference} {op : Operator} {x : Float} :
      SpellsOperation SpellsReference (SpellsFinite SpellsUnsigned) (l, op, x) s →
      Spelled cellNumber s (.cellNumber l op x)

end Form

theorem quoted?_eq_some_iff {s u : List Char} :
    quoted? s = some u ↔ ∃ q, (q = '"' ∨ q = '\x27') ∧ s = q :: (u ++ [q]) := by
  cases s with
  | nil => simp [quoted?]
  | cons q r =>
    rw [quoted?]
    constructor
    · intro h
      split at h
      · next hquote =>
        cases h
        exact ⟨q, hquote.1, by rw [List.dropLast_append_getLast? q hquote.2]⟩
      · cases h
    · rintro ⟨q', hq, heq⟩
      obtain ⟨rfl, rfl⟩ := List.cons.inj heq
      rw [if_pos ⟨hq, List.getLast?_concat⟩, List.dropLast_concat]

/-- What is recognized in a form is spelled in it.  Only a keyword can have the Kelvin sign among
its letters. -/
theorem Form.spelled_of_recognize {form : Form} {s : List Char} {e : Expression}
    (hs : form = .blank → '\u212a' ∉ s) (h : form.recognize s = some e) : form.Spelled s e := by
  cases form with
  | blank =>
    rw [recognize] at h
    split at h
    · next hkeyword =>
      cases h
      exact .blank ((isKeyword_iff (hs rfl)).1 hkeyword)
    · cases h
  | quoted =>
    obtain ⟨u, hu, rfl⟩ := Option.map_eq_some_iff.1 h
    obtain ⟨q, hq, rfl⟩ := quoted?_eq_some_iff.1 hu
    have hspelled := Spelled.quoted (u := String.ofList u) hq
    rwa [String.toList_ofList] at hspelled
  | cell =>
    obtain ⟨r, hr, rfl⟩ := Option.map_eq_some_iff.1 h
    exact .cell (reads_referenceHead?.whole?_eq_some_iff.1 hr)
  | number =>
    obtain ⟨x, hx, rfl⟩ := Option.map_eq_some_iff.1 h
    exact .number (signed?_eq_some_iff.1 hx)
  | columns =>
    obtain ⟨_, ho, rfl⟩ := Option.map_eq_some_iff.1 h
    exact .columns (reads_columns.whole?_eq_some_iff.1 ho)
  | cells =>
    obtain ⟨_, ho, rfl⟩ := Option.map_eq_some_iff.1 h
    exact .cells (reads_cells.whole?_eq_some_iff.1 ho)
  | cellNumber =>
    obtain ⟨_, ho, rfl⟩ := Option.map_eq_some_iff.1 h
    exact .cellNumber (reads_cellNumber.whole?_eq_some_iff.1 ho)

/-- Exactly the texts of a form are recognized. -/
theorem Form.recognize_eq_some_iff {form : Form} {s : List Char} (hs : '\u212a' ∉ s)
    {e : Expression} : form.recognize s = some e ↔ form.Spelled s e := by
  constructor
  · exact spelled_of_recognize fun _ => hs
  · intro h
    cases h with
    | quoted hq =>
      refine Option.map_eq_some_iff.2 ⟨_, quoted?_eq_some_iff.2 ⟨_, hq, rfl⟩, ?_⟩
      rw [String.ofList_toList]
    | blank hkeyword => exact if_pos ((isKeyword_iff hs).2 hkeyword)
    | cell hr =>
      exact Option.map_eq_some_iff.2 ⟨_, reads_referenceHead?.whole?_eq_some_iff.2 hr, rfl⟩
    | number hx => exact Option.map_eq_some_iff.2 ⟨_, signed?_eq_some_iff.2 hx, rfl⟩
    | columns ho => exact Option.map_eq_some_iff.2 ⟨_, reads_columns.whole?_eq_some_iff.2 ho, rfl⟩
    | cells ho => exact Option.map_eq_some_iff.2 ⟨_, reads_cells.whole?_eq_some_iff.2 ho, rfl⟩
    | cellNumber ho =>
      exact Option.map_eq_some_iff.2 ⟨_, reads_cellNumber.whole?_eq_some_iff.2 ho, rfl⟩

theorem findSome?_cons_eq_orElse {α β : Type} (f : α → Option β) (a : α) (l : List α) :
    (a :: l).findSome? f = (f a <|> l.findSome? f) := by
  rw [List.findSome?_cons]
  cases f a <;> rfl

/-- Only a text with the Kelvin sign in it cannot be read. -/
theorem ofText_eq_error {text : String} {err : SheetError} (h : ofText text = .error err) :
    err = .splitCharacter ∧ '\u212a' ∈ text.toList := by
  obtain ⟨rfl, hcut⟩ := ofText_eq_error_iff.1 h
  exact ⟨rfl, trim_subset _ hcut.kelvin_mem⟩

/-- The forms are tried in their order, and a text in none of them is a label. -/
theorem ofText_eq_findSome? {text : String} (h : splitsCharacter (trim text.toList) = false) :
    ofText text = .ok ((Form.all.findSome? (·.recognize (trim text.toList))).getD
      (.label (String.ofList (trim text.toList)))) := by
  have hshape : ∀ s, [Form.cell, .number, .columns, .cells, .cellNumber].findSome? (·.recognize s)
      = shape? s := fun s => by
    simp only [findSome?_cons_eq_orElse, List.findSome?_nil, Form.recognize, shape?,
      Option.orElse_eq_orElse, Option.orElse_eq_or, Option.or_none]
  rw [Form.all, findSome?_cons_eq_orElse, findSome?_cons_eq_orElse, hshape]
  simp only [ofText, h, Form.recognize]
  cases quoted? (trim text.toList) with
  | some u => rfl
  | none =>
    by_cases hkeyword : isKeyword (trim text.toList) = true
    · simp [hkeyword]
    · simp [hkeyword]

/-- Whatever its characters are, a text that is not a keyword or a label is read as what it
spells. -/
theorem spelled_of_ofText {text : String} {e : Expression} (h : ofText text = .ok e) :
    e = .blank ∨ e = .label (String.ofList (trim text.toList)) ∨
      ∃ form : Form, form.Spelled (trim text.toList) e := by
  by_cases hsplit : splitsCharacter (trim text.toList) = true
  · rw [ofText] at h
    cases hquoted : quoted? (trim text.toList) with
    | none => simp [hquoted, hsplit] at h
    | some u =>
      have hread : Form.quoted.recognize (trim text.toList) = some e := by
        simpa [hquoted, Form.recognize] using h
      exact .inr (.inr ⟨.quoted, Form.spelled_of_recognize (by simp) hread⟩)
  · rw [ofText_eq_findSome? (by simpa using hsplit), Except.ok.injEq] at h
    cases hfind : Form.all.findSome? (·.recognize (trim text.toList)) with
    | none =>
      rw [hfind] at h
      exact .inr (.inl h.symm)
    | some e' =>
      rw [hfind] at h
      obtain rfl : e' = e := h
      obtain ⟨form, -, hform⟩ := List.exists_of_findSome?_eq_some hfind
      by_cases hblank : form = .blank
      · subst hblank
        exact .inl (Option.ite_some_none_eq_some.1 hform).2.symm
      · exact .inr (.inr ⟨form, Form.spelled_of_recognize (fun h => absurd h hblank) hform⟩)

/-! ### The form of a text -/

/-- Is the first character of the text one of these? -/
def opens (p : Char → Bool) (s : List Char) : Bool := s.head?.any p

theorem opens_eq_true_iff {p : Char → Bool} {s : List Char} :
    opens p s = true ↔ ∃ c r, s = c :: r ∧ p c = true := by
  cases s <;> simp [opens]

/-- The form that a text must have if it has any.  Letters at the start tell names from the rest;
behind the letters there are digits or not, and then nothing or an operation, whose right operand
has letters or not. -/
def formOf (s : List Char) : Form :=
  let afterLetters := s.dropWhile Char.isAlpha
  let afterDigits := afterLetters.dropWhile Char.isDigit
  let afterOperator := (afterDigits.dropWhile isSpace).tail.dropWhile isSpace
  if opens (fun c => c = '"' || c = '\x27') s then .quoted
  else if !opens Char.isAlpha s then .number
  else if afterLetters = [] then .blank
  else if !opens Char.isDigit afterLetters then .columns
  else if afterDigits = [] then .cell
  else if opens Char.isAlpha afterOperator then .cells
  else .cellNumber

theorem opens_append {p : Char → Bool} {s : List Char} (h : s ≠ []) (t : List Char) :
    opens p (s ++ t) = opens p s := by
  rw [opens, opens, head?_append_of_ne_nil h]

theorem opens_of_isRun {p : Char → Bool} {s : List Char} (h : IsRun p s) : opens p s = true := by
  obtain ⟨c, r, rfl⟩ := List.exists_cons_of_ne_nil h.1
  exact h.2 c (List.mem_cons_self ..)

/-- An operation starts with a space or with its operator. -/
theorem head?_operation {before : List Char} (hbefore : ∀ c ∈ before, isSpace c = true)
    (op : Operator) (r : List Char) :
    ∀ c ∈ (before ++ op.symbol :: r).head?, c.isAlpha = false ∧ c.isDigit = false := by
  intro c hc
  cases before with
  | nil =>
    rw [← Option.mem_some_iff.1 hc]
    exact ⟨(symbol_spec op).2.1, (symbol_spec op).2.2.1⟩
  | cons d before =>
    rw [← Option.mem_some_iff.1 hc]
    have hd := isSpace_spec (hbefore d (List.mem_cons_self ..))
    exact ⟨hd.1, hd.2.1⟩

theorem not_quote_of_isAlpha {c : Char} (h : c.isAlpha) : c ≠ '"' ∧ c ≠ '\x27' := by
  constructor
  · rintro rfl
    exact absurd h (by decide)
  · rintro rfl
    exact absurd h (by decide)

section Letters

variable {w r : List Char} (hw : IsRun Char.isAlpha w) (hr : ∀ c ∈ r.head?, c.isAlpha = false)
include hw hr

/-- A text that starts with letters is told by what is behind them. -/
theorem formOf_of_letters :
    formOf (w ++ r) =
      if r = [] then .blank
      else if !opens Char.isDigit r then .columns
      else if r.dropWhile Char.isDigit = [] then .cell
      else if opens Char.isAlpha
        (((r.dropWhile Char.isDigit).dropWhile isSpace).tail.dropWhile isSpace) then .cells
      else .cellNumber := by
  have hquote : opens (fun c => c = '"' || c = '\x27') (w ++ r) = false := by
    rw [opens_append hw.1]
    obtain ⟨c, t, rfl⟩ := List.exists_cons_of_ne_nil hw.1
    simpa [opens] using not_quote_of_isAlpha (hw.2 c (List.mem_cons_self ..))
  have halpha : opens Char.isAlpha (w ++ r) = true := by rw [opens_append hw.1, opens_of_isRun hw]
  simp only [formOf, hquote, halpha, dropWhile_append_of_head? hw.2 hr]
  rfl

end Letters

section Operation

variable {l : Reference} {u before after v : List Char} (hl : SpellsReference l u)
  (hbefore : ∀ c ∈ before, isSpace c = true) (hafter : ∀ c ∈ after, isSpace c = true)
  (hv : ∀ c ∈ v.head?, isSpace c = false)
include hl hbefore hafter hv

/-- Two operations that start with a cell are told by their right operands. -/
theorem formOf_of_operation (op : Operator) :
    formOf (u ++ (before ++ op.symbol :: (after ++ v))) =
      if opens Char.isAlpha v then .cells else .cellNumber := by
  obtain ⟨rfl, hletters, hdigits⟩ := hl
  have hhead := head?_operation hbefore op (after ++ v)
  have hboundary : ∀ c ∈ (l.digits.toList ++ (before ++ op.symbol :: (after ++ v))).head?,
      c.isAlpha = false := fun c hc => by
    rw [head?_append_of_ne_nil hdigits.1] at hc
    exact isAlpha_of_isDigit (hdigits.2 c (List.mem_of_mem_head? hc))
  have hsymbol : ∀ c ∈ (op.symbol :: (after ++ v)).head?, isSpace c = false := by
    simpa using (symbol_spec op).1
  rw [List.append_assoc, formOf_of_letters hletters hboundary,
    dropWhile_append_of_head? hdigits.2 fun c hc => (hhead c hc).2,
    dropWhile_append_of_head? hbefore hsymbol, List.tail_cons, dropWhile_append_of_head? hafter hv,
    opens_append hdigits.1, opens_of_isRun hdigits]
  simp [hdigits.1]

end Operation

/-- **The form is known.**  A text of some form has the form that its characters tell. -/
theorem Form.Spelled.formOf_eq {form : Form} {s : List Char} {e : Expression}
    (h : form.Spelled s e) : formOf s = form := by
  have hend : ∀ c ∈ ([] : List Char).head?, c.isAlpha = false := by simp
  cases h with
  | quoted hq => simp [formOf, opens, hq]
  | blank hkeyword =>
    have hletters := formOf_of_letters (isRun_of_fold_mem_keywords hkeyword) hend
    rw [List.append_nil] at hletters
    simpa using hletters
  | cell hr =>
    obtain ⟨rfl, hletters, hdigits⟩ := hr
    have hboundary : ∀ c ∈ (_ : List Char).head?, c.isAlpha = false := fun c hc =>
      isAlpha_of_isDigit (hdigits.2 c (List.mem_of_mem_head? hc))
    have hnil := List.dropWhile_eq_nil_iff.2 hdigits.2
    rw [formOf_of_letters hletters hboundary, opens_of_isRun hdigits, hnil]
    simp [hdigits.1]
  | number hx =>
    obtain ⟨n, hn, -⟩ := hx
    have hplain : ∀ {n t}, SpellsUnsigned n t → formOf t = .number := by
      intro n t ht
      obtain ⟨hne, hhead⟩ := ht.head
      obtain ⟨c, r, rfl⟩ := List.exists_cons_of_ne_nil hne
      obtain ⟨-, halpha, -, -, hdouble, hsingle⟩ := isNumberStart_spec (hhead c rfl)
      simp [formOf, opens, halpha, hdouble, hsingle]
    cases hn with
    | plain hn => exact hplain hn
    | plus => rfl
    | minus => rfl
  | @columns _ l r op ho =>
    obtain ⟨u, before, after, v, rfl, hl, hbefore, -⟩ := ho
    have hhead := head?_operation hbefore op (after ++ v)
    have hdigit : opens Char.isDigit (before ++ op.symbol :: (after ++ v)) = false := by
      rw [Bool.eq_false_iff, ne_eq, opens_eq_true_iff]
      rintro ⟨c, t, hc, hdigit⟩
      rw [(hhead c (by rw [hc]; rfl)).2] at hdigit
      cases hdigit
    rw [formOf_of_letters hl.2 fun c hc => (hhead c hc).1, hdigit]
    simp
  | cells ho =>
    obtain ⟨u, before, after, v, rfl, hl, hbefore, hafter, hr⟩ := ho
    have hv : opens Char.isAlpha v = true := by
      obtain ⟨hne, hhead⟩ := SpellsReference.head hr
      obtain ⟨c, t, rfl⟩ := List.exists_cons_of_ne_nil hne
      exact hhead c rfl
    rw [formOf_of_operation hl hbefore hafter
      (fun c hc => isSpace_of_isAlpha ((SpellsReference.head hr).2 c hc)), hv]
    rfl
  | cellNumber ho =>
    obtain ⟨u, before, after, v, rfl, hl, hbefore, hafter, n, hn, -⟩ := ho
    have hv : opens Char.isAlpha v = false := by
      obtain ⟨hne, hhead⟩ := hn.head
      obtain ⟨c, t, rfl⟩ := List.exists_cons_of_ne_nil hne
      exact (isNumberStart_spec (hhead c rfl)).2.1
    rw [formOf_of_operation hl hbefore hafter
      (fun c hc => (isNumberStart_spec (hn.head.2 c hc)).1), hv]
    rfl

/-! ### Reading in any order -/

/-- Where at most one element succeeds, the order of the search is of no importance. -/
theorem findSome?_eq_of_perm {α β : Type} {f : α → Option β} {l l' : List α} (h : l.Perm l')
    (hunique : ∀ a ∈ l, ∀ a' ∈ l, ∀ b b', f a = some b → f a' = some b' → a = a') :
    l.findSome? f = l'.findSome? f := by
  cases hfind : l.findSome? f with
  | none =>
    rw [List.findSome?_eq_none_iff] at hfind
    exact (List.findSome?_eq_none_iff.2 fun a ha => hfind a (h.mem_iff.2 ha)).symm
  | some b =>
    obtain ⟨a, ha, hb⟩ := List.exists_of_findSome?_eq_some hfind
    cases hfind' : l'.findSome? f with
    | none =>
      rw [List.findSome?_eq_none_iff.1 hfind' a (h.mem_iff.1 ha)] at hb
      cases hb
    | some b' =>
      obtain ⟨a', ha', hb'⟩ := List.exists_of_findSome?_eq_some hfind'
      obtain rfl := hunique a ha a' (h.mem_iff.2 ha') b b' hb hb'
      rw [← hb, ← hb']

section Reading

variable {s : List Char} (hs : '\u212a' ∉ s)
include hs

/-- No text is recognized in two forms. -/
theorem Form.eq_of_recognize {form form' : Form} {e e' : Expression}
    (h : form.recognize s = some e) (h' : form'.recognize s = some e') : form = form' := by
  rw [← ((recognize_eq_some_iff hs).1 h).formOf_eq, ← ((recognize_eq_some_iff hs).1 h').formOf_eq]

theorem findSome?_recognize_eq_some_iff {e : Expression} :
    Form.all.findSome? (·.recognize s) = some e ↔ ∃ form : Form, form.Spelled s e := by
  constructor
  · intro h
    obtain ⟨form, -, hform⟩ := List.exists_of_findSome?_eq_some h
    exact ⟨form, (Form.recognize_eq_some_iff hs).1 hform⟩
  · rintro ⟨form, hform⟩
    have hrecognized := (Form.recognize_eq_some_iff hs).2 hform
    cases hfind : Form.all.findSome? (·.recognize s) with
    | none =>
      rw [List.findSome?_eq_none_iff.1 hfind form form.mem_all] at hrecognized
      cases hrecognized
    | some e' =>
      obtain ⟨form', -, hform'⟩ := List.exists_of_findSome?_eq_some hfind
      obtain rfl := Form.eq_of_recognize hs hrecognized hform'
      rw [← hform', ← hrecognized]

end Reading

/-- What is spelled in some form is read so. -/
theorem ofText_of_spelled {text : String} (htext : '\u212a' ∉ text.toList) {form : Form}
    {e : Expression} (h : form.Spelled (trim text.toList) e) : ofText text = .ok e := by
  have hs : '\u212a' ∉ trim text.toList := fun hmem => htext (trim_subset _ hmem)
  rw [ofText_eq_findSome? (splitsCharacter_eq_false fun h => hs h.kelvin_mem),
    (findSome?_recognize_eq_some_iff hs).2 ⟨form, h⟩]
  rfl

theorem number_of_spelled {form : Form} {s : List Char} {x : Float}
    (h : form.Spelled s (.number x)) : SpellsFinite SpellsSigned x s := by
  cases h with
  | number hx => exact hx

/-- What is read as a number spells it. -/
theorem spellsFinite_of_ofText {text : String} {x : Float} (h : ofText text = .ok (.number x)) :
    SpellsFinite SpellsSigned x (trim text.toList) := by
  rcases spelled_of_ofText h with h | h | ⟨form, hform⟩
  · cases h
  · cases h
  · exact number_of_spelled hform

/-- A number that is read from a text is finite. -/
theorem isFinite_of_ofText {text : String} {x : Float} (h : ofText text = .ok (.number x)) :
    x.isFinite := by
  obtain ⟨n, -, hx⟩ := spellsFinite_of_ofText h
  exact Numeral.isFinite_of_toFinite? hx

/-- **The reading of an expression.**  A text without the Kelvin sign is read as what it spells in
the only form that it has, and as a label if it has none; the forms can be tried in any order.  A
number is worth as much as the same text in a cell. -/
theorem ofText_eq_ok_iff_spelled {text : String} (htext : '\u212a' ∉ text.toList) :
    let s := trim text.toList
    (∀ e, ofText text = .ok e ↔ (∃ form : Form, form.Spelled s e) ∨
      (e = .label (String.ofList s) ∧ ∀ (form : Form) e', ¬form.Spelled s e')) ∧
    (∀ x, ofText text = .ok (.number x) → (Cell.text (String.ofList s)).toNumber? = some x) ∧
    (∀ (form form' : Form) e e', form.recognize s = some e → form'.recognize s = some e' →
      form = form') ∧
    ∀ order : List Form, order.Perm Form.all →
      ofText text = .ok ((order.findSome? (·.recognize s)).getD (.label (String.ofList s))) := by
  intro s
  have hs : '\u212a' ∉ s := fun hmem => htext (trim_subset _ hmem)
  have hread : ofText text
      = .ok ((Form.all.findSome? (·.recognize s)).getD (.label (String.ofList s))) :=
    ofText_eq_findSome? (splitsCharacter_eq_false fun h => hs h.kelvin_mem)
  have hunique : ∀ (form form' : Form) e e', form.recognize s = some e →
      form'.recognize s = some e' → form = form' := fun _ _ _ _ => Form.eq_of_recognize hs
  have hspelled : ∀ e, ofText text = .ok e ↔ (∃ form : Form, form.Spelled s e) ∨
      (e = .label (String.ofList s) ∧ ∀ (form : Form) e', ¬form.Spelled s e') := by
    intro e
    rw [hread, Except.ok.injEq]
    cases hfind : Form.all.findSome? (·.recognize s) with
    | none =>
      have hnone : ∀ (form : Form) e', ¬form.Spelled s e' := fun form e' h => by
        rw [(findSome?_recognize_eq_some_iff hs).2 ⟨form, h⟩] at hfind
        cases hfind
      simp [hnone, eq_comm]
    | some e' =>
      obtain ⟨form, hform⟩ := (findSome?_recognize_eq_some_iff hs).1 hfind
      rw [← findSome?_recognize_eq_some_iff hs, hfind, Option.some.injEq, Option.getD_some]
      exact ⟨.inl, fun h => h.resolve_right fun hlabel => hlabel.2 form e' hform⟩
  refine ⟨hspelled, fun x hx => ?_, hunique, fun order horder => ?_⟩
  · obtain ⟨n, hn, hvalue⟩ : SpellsFinite SpellsSigned x s := spellsFinite_of_ofText hx
    rw [Cell.toNumber?, Cell.numberOfText?, String.toList_ofList, trim_trim,
      finiteOf?_of_spellsSigned hn, hvalue]
  · rw [hread, findSome?_eq_of_perm horder fun a _ b _ => hunique a b]

/-- A number with a sign and a comma, the forms being tried from the last to the first. -/
theorem ofText_eq_ok_comma :
    '\u212a' ∉ " -2,5".toList ∧ ofText " -2,5" = .ok (.number (-2.5)) ∧
      Form.number.Spelled "-2,5".toList (.number (-2.5)) ∧
      (Cell.text "-2,5").toNumber? = some (-2.5) ∧
      Form.all.reverse.findSome? (·.recognize "-2,5".toList) = some (.number (-2.5)) := by
  have htext : '\u212a' ∉ " -2,5".toList := by decide
  have hnumber : ofText " -2,5" = .ok (.number (-2.5)) := by decide +kernel
  have htrim : trim " -2,5".toList = "-2,5".toList := by decide
  obtain ⟨hread, hvalue, -, horder⟩ := ofText_eq_ok_iff_spelled htext
  rw [htrim] at hread hvalue horder
  have hspelled : Form.number.Spelled "-2,5".toList (.number (-2.5)) := by
    rcases (hread _).1 hnumber with ⟨form, h⟩ | ⟨h, -⟩
    · exact .number (number_of_spelled h)
    · cases h
  have hreverse := (horder _ (List.reverse_perm _)).symm.trans hnumber
  refine ⟨htext, hnumber, hspelled, hvalue _ hnumber, ?_⟩
  cases hfind : Form.all.reverse.findSome? (·.recognize "-2,5".toList) with
  | none =>
    rw [hfind] at hreverse
    cases hreverse
  | some e =>
    rw [hfind] at hreverse
    exact congrArg some (Except.ok.inj hreverse)

end GridTalk.Expression
