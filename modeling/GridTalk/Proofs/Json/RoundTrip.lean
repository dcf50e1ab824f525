import GridTalk.Json.Grid
import GridTalk.Proofs.Grid.Finite
import GridTalk.Proofs.Grid.Shape
import GridTalk.Proofs.Json.Numbers
import GridTalk.Proofs.Json.Strings

/-!
# Grids written and read as JSON

A grid is the same after it has been written as JSON and read again.  The text does not tell what
kind of cell it is: the first character of a value decides.

* `Json.ReadsAs`: a text is read as a value, whatever follows it in an array.
* `Json.reads_array`: an array of values that are read.
* `Json.reads_toJson`: every kind of cell.
* `Json.reread_ofFloat`: a number is found again, although it may be read with other digits.
* `Grid.ofJsonText?_jsonText`: grids.
-/

namespace GridTalk

namespace Json

/-- The text is read as the value.  There has to be fuel for all of its characters, and what follows
it has to be what follows an item of an array. -/
structure ReadsAs (t : List Char) (x : Json) : Prop where
  start : ∃ c ∈ t.head?, isSpace c = false ∧ c ≠ ']'
  valueHead?_eq : ∀ (fuel : Nat) (r : List Char), 2 * t.length < fuel →
    (∀ c ∈ r.head?, c = ',' ∨ c = ']') → valueHead? fuel (t ++ r) = some (x, r)

theorem skipSpace_cons {c : Char} (h : isSpace c = false) (s : List Char) :
    skipSpace (c :: s) = c :: s :=
  List.dropWhile_cons_of_neg (by simp [h])

/-- There are no blanks in front of a value. -/
theorem ReadsAs.skipSpace_append {t : List Char} {x : Json} (h : ReadsAs t x) (r : List Char) :
    skipSpace (t ++ r) = t ++ r := by
  obtain ⟨c, hc, hspace, -⟩ := h.start
  cases t with
  | nil => cases hc
  | cons d t =>
    cases hc
    exact skipSpace_cons hspace _

/-! ### Arrays -/

theorem itemsHead?_last {t : List Char} {x : Json} (h : ReadsAs t x) {fuel : Nat}
    (hfuel : 2 * t.length < fuel) (u : List Char) :
    itemsHead? (fuel + 1) (t ++ ']' :: u) = some ([x], u) := by
  rw [itemsHead?, h.valueHead?_eq fuel _ hfuel (by simp)]
  rfl

theorem itemsHead?_more {t : List Char} {x : Json} (h : ReadsAs t x) {fuel : Nat}
    (hfuel : 2 * t.length < fuel) (s : List Char) :
    itemsHead? (fuel + 1) (t ++ ',' :: s)
      = (itemsHead? fuel (skipSpace s)).map fun p => (x :: p.1, p.2) := by
  rw [itemsHead?, h.valueHead?_eq fuel _ hfuel (by simp)]
  rfl

theorem valueHead?_array {s : List Char} (hskip : skipSpace s = s)
    (hclose : ∀ c ∈ s.head?, c ≠ ']') (fuel : Nat) :
    valueHead? (fuel + 1) ('[' :: s) = (itemsHead? fuel s).map fun p => (array p.1, p.2) := by
  rw [valueHead?, hskip]
  split
  · exact absurd rfl (hclose ']' rfl)
  · rfl

section Items

variable {α : Type} {f g : α → Json} {v : α} {vs : List α}

/-- The items of an array are read one after the other. -/
theorem itemsHead?_render (h : ∀ w ∈ v :: vs, ReadsAs (render (f w)) (g w)) (fuel : Nat)
    (r : List Char) (hfuel : 2 * (render (f v) ++ renderItems (vs.map f)).length ≤ fuel) :
    itemsHead? fuel (render (f v) ++ renderItems (vs.map f) ++ r)
      = some ((v :: vs).map g, r) := by
  induction vs generalizing v fuel with
  | nil =>
    obtain ⟨fuel, rfl⟩ : ∃ n, fuel = n + 1 := by
      simp [renderItems] at hfuel
      exact ⟨fuel - 1, by omega⟩
    simp only [List.map_nil, renderItems, List.length_append, List.length_singleton] at hfuel
    rw [List.map_nil, renderItems, List.append_assoc]
    exact itemsHead?_last (h v List.mem_cons_self) (by omega) r
  | cons w vs ih =>
    have hrest := fun u hu => h u (List.mem_cons_of_mem v hu)
    simp only [List.map_cons, renderItems, List.length_append, List.length_cons] at hfuel
    obtain ⟨fuel, rfl⟩ : ∃ n, fuel = n + 1 := ⟨fuel - 1, by omega⟩
    have hitems := ih hrest fuel (by rw [List.length_append]; omega)
    have hskip := (hrest w List.mem_cons_self).skipSpace_append (renderItems (vs.map f) ++ r)
    rw [List.map_cons, renderItems, List.append_assoc, List.cons_append, List.cons_append,
      itemsHead?_more (h v List.mem_cons_self) (by omega), List.append_assoc, hskip,
      ← List.append_assoc, hitems]
    rfl

/-- **An array is read** if its items are. -/
theorem reads_array {items : List α} (h : ∀ v ∈ items, ReadsAs (render (f v)) (g v)) :
    ReadsAs (render (.array (items.map f))) (.array (items.map g)) := by
  cases items with
  | nil =>
    refine ⟨⟨'[', rfl, by decide⟩, fun fuel r hfuel _ => ?_⟩
    obtain ⟨fuel, rfl⟩ : ∃ n, fuel = n + 1 := ⟨fuel - 1, by omega⟩
    rfl
  | cons v vs =>
    refine ⟨⟨'[', rfl, by decide⟩, fun fuel r hfuel _ => ?_⟩
    rw [List.map_cons, render, List.length_append, List.length_cons] at hfuel
    obtain ⟨fuel, rfl⟩ : ∃ n, fuel = n + 1 := ⟨fuel - 1, by omega⟩
    have hitems := itemsHead?_render h fuel r (by rw [List.length_append]; omega)
    have hskip := (h v List.mem_cons_self).skipSpace_append (renderItems (vs.map f) ++ r)
    obtain ⟨c, hc, -, hclose⟩ := (h v List.mem_cons_self).start
    have hhead : ∀ d ∈ (render (f v) ++ (renderItems (vs.map f) ++ r)).head?, d ≠ ']' := by
      intro d hd
      exact Option.mem_unique (List.mem_head?_append_of_mem_head? hc) hd ▸ hclose
    rw [List.append_assoc] at hitems
    rw [List.map_cons, render, List.cons_append, List.cons_append, List.append_assoc,
      valueHead?_array hskip hhead, hitems]
    rfl

end Items

/-! ### Cells -/

/-- The value as which the text of a scalar is read.  A number is read with other digits. -/
def reread : Json → Json
  | number x => ((Numeral.ofText? (numberStyle.write x)).map number).getD null
  | x => x

theorem reads_string (s : String) : ReadsAs (render (.string s)) (.string s) := by
  refine ⟨⟨'"', rfl, by decide⟩, fun fuel r hfuel _ => ?_⟩
  obtain ⟨fuel, rfl⟩ : ∃ n, fuel = n + 1 := ⟨fuel - 1, by omega⟩
  have hcodes := codesHead?_flatMap s.toList r
  rw [render, renderString, List.append_assoc, List.singleton_append, List.cons_append, valueHead?,
    hcodes, Option.map_some]
  dsimp only
  rw [textOfCodes?_map_toNat]
  dsimp only
  rw [String.ofList_toList]

/-- A number starts with a digit or with the sign, unlike all other values. -/
theorem valueHead?_number {c : Char} (hc : c.isDigit = true ∨ c = '-') (fuel : Nat)
    (s : List Char) :
    valueHead? (fuel + 1) (c :: s) = (numberHead? (c :: s)).map fun p => (number p.1, p.2) := by
  have hother : c ≠ '"' ∧ c ≠ '[' ∧ c ≠ '\x7b' ∧ c ≠ 'n' ∧ c ≠ 't' ∧ c ≠ 'f' := by
    refine ⟨?_, ?_, ?_, ?_, ?_, ?_⟩ <;>
      · rintro rfl
        revert hc
        decide
  obtain ⟨hquote, hbracket, hbrace, hn, ht, hf⟩ := hother
  rw [valueHead?.eq_def]
  dsimp only
  split
  · next h => exact absurd (List.cons.inj h).1 hquote
  · next h => exact absurd (List.cons.inj h).1 hbracket
  · next h => exact absurd (List.cons.inj h).1 hbrace
  · next h => exact absurd (List.cons.inj h).1 hn
  · next h => exact absurd (List.cons.inj h).1 ht
  · next h => exact absurd (List.cons.inj h).1 hf
  · rfl

theorem isSpace_of_isDigit {c : Char} (hc : c.isDigit = true) : isSpace c = false := by
  rw [← Bool.not_eq_true]
  intro hspace
  simp only [isSpace, Bool.or_eq_true, decide_eq_true_eq] at hspace
  rcases hspace with ((rfl | rfl) | rfl) | rfl <;> cases hc

theorem reads_number (x : Numeral) : ReadsAs (render (.number x)) (reread (.number x)) := by
  obtain ⟨w, hw, htext, -⟩ := exists_layout x
  have hreread : reread (.number x) = .number w.numeral := by
    rw [reread, ← htext, Layout.ofText?_text hw]
    rfl
  obtain ⟨c, s, hcons, hc⟩ := Layout.exists_cons_text hw
  rw [hreread, render, ← htext]
  refine ⟨⟨c, by simp [hcons], ?_, ?_⟩, fun fuel r hfuel hr => ?_⟩
  · rcases hc with hc | rfl
    · exact isSpace_of_isDigit hc
    · rfl
  · rintro rfl
    revert hc
    decide
  · obtain ⟨fuel, rfl⟩ : ∃ n, fuel = n + 1 := ⟨fuel - 1, by omega⟩
    have hstops : ∀ d ∈ r.head?, Layout.Stops d := by
      intro d hd
      rcases hr d hd with rfl | rfl <;> decide
    have hread := Layout.numberHead?_text hw hstops
    rw [hcons, List.cons_append] at hread ⊢
    rw [valueHead?_number hc, hread]
    rfl

theorem reads_toJson (v : Cell) : ReadsAs (render v.toJson) v.toJson.reread := by
  have hnull : ReadsAs (render .null) .null := by
    refine ⟨⟨'n', rfl, by decide⟩, fun fuel r hfuel _ => ?_⟩
    obtain ⟨fuel, rfl⟩ : ∃ n, fuel = n + 1 := ⟨fuel - 1, by omega⟩
    rfl
  have hboolean (b : Bool) : ReadsAs (render (.boolean b)) (.boolean b) := by
    cases b with
    | true =>
      refine ⟨⟨'t', rfl, by decide⟩, fun fuel r hfuel _ => ?_⟩
      obtain ⟨fuel, rfl⟩ : ∃ n, fuel = n + 1 := ⟨fuel - 1, by omega⟩
      rfl
    | false =>
      refine ⟨⟨'f', rfl, by decide⟩, fun fuel r hfuel _ => ?_⟩
      obtain ⟨fuel, rfl⟩ : ∃ n, fuel = n + 1 := ⟨fuel - 1, by omega⟩
      rfl
  cases v with
  | empty => exact hnull
  | boolean b => exact hboolean b
  | text s => exact reads_string s
  | number x =>
    rw [Cell.toJson, ofFloat]
    split
    · exact reads_number _
    · exact hnull

/-- The number that is read is the float that has been written. -/
theorem reread_ofFloat {x : Float} (hfinite : x.isFinite = true) :
    ∃ y, (ofFloat x).reread = .number y ∧ y.toFinite? = some x := by
  obtain ⟨w, hw, htext, hsame⟩ := exists_layout (Numeral.ofFloat numberStyle.tie x)
  refine ⟨w.numeral, ?_, ?_⟩
  · rw [ofFloat, if_pos hfinite, reread, ← htext, Layout.ofText?_text hw]
    rfl
  · rw [Numeral.toFinite?, Numeral.toFloat_of_sameValue hfinite hsame, if_pos hfinite]

theorem ofJson?_reread {v : Cell} (hfinite : v.IsFinite) :
    Cell.ofJson? v.toJson.reread = some v := by
  cases v with
  | empty | boolean b | text s => rfl
  | number x =>
    obtain ⟨y, hread, hback⟩ := reread_ofFloat (x := x) hfinite
    rw [Cell.toJson, hread, Cell.ofJson?, hback]
    rfl

/-- A whole text is read. -/
theorem ReadsAs.ofText? {t : List Char} {x : Json} (h : ReadsAs t x) :
    Json.ofText? (String.ofList t) = some x := by
  have hskip := h.skipSpace_append []
  have hread := h.valueHead?_eq (2 * t.length + 2) [] (by omega) (by simp)
  rw [List.append_nil] at hskip hread
  rw [Json.ofText?, String.toList_ofList, head?, hskip, hread]
  rfl

end Json

/-- What each item is read as, all are read as. -/
theorem mapM_map_eq_some {α β : Type} {f : α → β} {h : β → Option α} {items : List α}
    (hitems : ∀ v ∈ items, h (f v) = some v) : (items.map f).mapM h = some items := by
  induction items with
  | nil => rfl
  | cons v items ih =>
    have hrest := ih fun w hw => hitems w (List.mem_cons_of_mem v hw)
    rw [List.map_cons, List.mapM_cons, hitems v List.mem_cons_self, hrest]
    rfl

namespace Grid

open Json

/-- **A grid survives its JSON text**: if its numbers are finite, it is read again with the same
cells, each of the same kind. -/
theorem ofJsonText?_jsonText {g : Grid} (hg : g.WellFormed) (hfinite : g.IsFinite) :
    ofJsonText? g.jsonText = some g := by
  have hread : ReadsAs g.toJson.render
      (.array (g.rows.map fun row => .array (row.map fun v => v.toJson.reread))) :=
    reads_array fun row _ => reads_array fun v _ => reads_toJson v
  have hrow (row : List Cell) (hrow : row ∈ g.rows) :
      rowOfJson? (.array (row.map fun v => v.toJson.reread)) = some row :=
    mapM_map_eq_some fun v hv => ofJson?_reread (hfinite row hrow v hv)
  have hrows : rowsOfJson? (.array (g.rows.map fun row => .array (row.map fun v =>
      v.toJson.reread))) = some g.rows := mapM_map_eq_some hrow
  rw [ofJsonText?, jsonText, hread.ofText?, Option.bind_some, Grid.ofJson?, hrows, Option.map_some]
  exact congrArg some (normalized_of_wellFormed hg)

/-- Texts that look like other values, and texts that have to be escaped, stay texts. -/
theorem ofJsonText?_jsonText_texts :
    let g : Grid := ⟨[[.text "1.5", .text "null", .text "\"\\\u0001\n"],
      [.number 1.5, .empty, .boolean true], [.number (-1e300), .number 5e-324, .text "é\u2028😀"]]⟩
    g.WellFormed ∧ g.IsFinite ∧ ofJsonText? g.jsonText = some g := by
  intro g
  have hrectangular : ∀ r ∈ g.rows, r.length = g.colCount := by decide
  have hg : g.WellFormed := ⟨by decide, hrectangular⟩
  have hfinite : ∀ r ∈ g.rows, ∀ v ∈ r, v.IsFinite := by decide +kernel
  exact ⟨hg, hfinite, ofJsonText?_jsonText hg hfinite⟩

end Grid

end GridTalk
