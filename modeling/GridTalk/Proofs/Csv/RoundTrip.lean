import GridTalk.Csv
import GridTalk.Proofs.Grid.Shape

/-!
# Comma-separated values, written and read

What is written for a grid is read back with the same texts in the same places: quotes, commas and
line ends inside a text, rows of which nothing is to be seen, and texts without any character.

* `State.run_writeField`, `State.run_writeRecord`, `State.run_write`: what the reader holds after a
  written field, a written record, and all of them.
* `read_write`: records are read as they were written.
* `exportGrid_of_wellFormed`: a well-formed grid can be written.
* `readRows_exportGrid`: a grid, written and read.
-/

namespace GridTalk.Csv

/-- A character that takes no quotes. -/
def Ordinary (c : Char) : Prop := c ≠ ',' ∧ c ≠ '"' ∧ c ≠ '\n' ∧ c ≠ '\r'

theorem needsQuotes_eq_false_iff {field : List Char} :
    needsQuotes field = false ↔ ∀ c ∈ field, Ordinary c := by
  simp [needsQuotes, Ordinary, and_assoc]

/-- The characters of a field as they stand inside quotes. -/
def doubled (field : List Char) : List Char :=
  field.flatMap fun c => if c = '"' then ['"', '"'] else [c]

theorem writeField_of_needsQuotes {field : List Char} (h : needsQuotes field = true) :
    writeField field = '"' :: (doubled field ++ ['"']) := by
  rw [writeField, if_pos h]
  rfl

theorem writeField_of_not_needsQuotes {field : List Char} (h : needsQuotes field = false) :
    writeField field = field := by
  rw [writeField, h]
  rfl

theorem writeField_eq_nil {field : List Char} : writeField field = [] ↔ field = [] := by
  cases h : needsQuotes field with
  | true =>
    rw [writeField_of_needsQuotes h]
    refine ⟨fun h' => by simp at h', fun h' => ?_⟩
    rw [h'] at h
    cases h
  | false => rw [writeField_of_not_needsQuotes h]

namespace State

/-- The state after the characters of a text. -/
def run (st : State) (s : List Char) : State := s.foldl step st

@[simp] theorem run_nil (st : State) : st.run [] = st := rfl

@[simp] theorem run_cons (st : State) (c : Char) (s : List Char) :
    st.run (c :: s) = (st.step c).run s := rfl

theorem run_append (st : State) (s t : List Char) : st.run (s ++ t) = (st.run s).run t :=
  List.foldl_append

/-! ### Steps of the reader -/

variable {field : List Char} {fields : List (List Char)} {records : List (List (List Char))}
  {place : Place}

/-- Outside quotes an ordinary character belongs to the field. -/
theorem step_of_ordinary {c : Char} (hc : Ordinary c) (hplace : place ≠ .quoted) :
    step ⟨place, field, fields, records⟩ c = ⟨.plain, c :: field, fields, records⟩ := by
  obtain ⟨hcomma, hquote, hline, hreturn⟩ := hc
  cases place <;> simp_all [step, plainStep, push]

/-- Outside quotes a comma ends the field. -/
theorem step_comma (hplace : place ≠ .quoted) :
    step ⟨place, field, fields, records⟩ ','
      = ⟨.fieldStart, [], field.reverse :: fields, records⟩ := by
  cases place <;> simp_all [step, plainStep, endField]

/-- Outside quotes a line end ends the record, if one has begun. -/
theorem step_lineEnd (hplace : place ≠ .quoted) (hstart : place ≠ .recordStart) :
    step ⟨place, field, fields, records⟩ '\n'
      = ⟨.recordStart, [], [], (field.reverse :: fields).reverse :: records⟩ := by
  cases place <;> simp_all [step, plainStep, endRecord, endField]

/-- Before a field a quote opens it. -/
theorem step_quote (hplace : place = .recordStart ∨ place = .fieldStart) :
    step ⟨place, field, fields, records⟩ '"' = ⟨.quoted, field, fields, records⟩ := by
  rcases hplace with rfl | rfl <;> simp [step]

/-! ### Runs of the reader -/

/-- Ordinary characters are read one by one. -/
theorem run_of_ordinary {s : List Char} (hs : ∀ c ∈ s, Ordinary c) (hplace : place ≠ .quoted) :
    run ⟨place, field, fields, records⟩ s
      = ⟨if s = [] then place else .plain, s.reverse ++ field, fields, records⟩ := by
  induction s generalizing place field with
  | nil => rfl
  | cons c s ih =>
    have hc := hs c (List.mem_cons_self ..)
    rw [run_cons, step_of_ordinary hc hplace,
      ih (fun d hd => hs d (List.mem_cons_of_mem c hd)) (by simp)]
    simp

/-- Inside quotes two quotes are one, and every other character is itself. -/
theorem run_doubled (s : List Char) :
    run ⟨.quoted, field, fields, records⟩ (doubled s)
      = ⟨.quoted, s.reverse ++ field, fields, records⟩ := by
  induction s generalizing field with
  | nil => rfl
  | cons c s ih =>
    have hfirst : run ⟨.quoted, field, fields, records⟩ (if c = '"' then ['"', '"'] else [c])
        = ⟨.quoted, c :: field, fields, records⟩ := by
      by_cases hc : c = '"' <;> simp [hc, step, push]
    rw [doubled, List.flatMap_cons, run_append, hfirst, ← doubled, ih]
    simp

/-- A written field is read as the open field.  Nothing but a field without characters leaves the
reader between records. -/
theorem run_writeField (s : List Char) (fields : List (List Char))
    (records : List (List (List Char))) (hplace : place = .recordStart ∨ place = .fieldStart) :
    ∃ place', run ⟨place, [], fields, records⟩ (writeField s)
        = ⟨place', s.reverse, fields, records⟩ ∧
      place' ≠ .quoted ∧ (place' = .recordStart → place = .recordStart ∧ s = []) := by
  cases h : needsQuotes s with
  | true =>
    refine ⟨.quoteSeen, ?_, by simp, by simp⟩
    rw [writeField_of_needsQuotes h, run_cons, step_quote hplace, run_append, run_doubled]
    simp [step]
  | false =>
    have hplace' : place ≠ .quoted := by rcases hplace with rfl | rfl <;> simp
    refine ⟨if s = [] then place else .plain, ?_, ?_, ?_⟩
    · rw [writeField_of_not_needsQuotes h,
        run_of_ordinary (needsQuotes_eq_false_iff.1 h) hplace', List.append_nil]
    · split
      · exact hplace'
      · simp
    · split
      · next hs => exact fun h' => ⟨h', hs⟩
      · simp

/-- The fields of a line and its end are read as a record, unless there is nothing to see in the
line and no field of the record has been read. -/
theorem run_line {line : List (List Char)} (hne : line ≠ [])
    (hplace : place = .recordStart ∨ place = .fieldStart)
    (hseen : place = .recordStart → [','].intercalate (line.map writeField) ≠ []) :
    run ⟨place, [], fields, records⟩ ([','].intercalate (line.map writeField) ++ ['\n'])
      = ⟨.recordStart, [], [], (fields.reverse ++ line) :: records⟩ := by
  induction line generalizing place fields with
  | nil => exact absurd rfl hne
  | cons s rest ih =>
    obtain ⟨place', hrun, hplace', hstart⟩ := run_writeField s fields records hplace
    cases rest with
    | nil =>
      simp only [List.map_cons, List.map_nil, List.intercalate_singleton] at hseen ⊢
      have hbegun : place' ≠ .recordStart := fun h =>
        hseen (hstart h).1 (writeField_eq_nil.2 (hstart h).2)
      rw [run_append, hrun, run_cons, step_lineEnd hplace' hbegun]
      simp
    | cons t rest =>
      have hnext := @ih (s :: fields) .fieldStart (by simp) (.inr rfl) (by simp)
      simp only [List.map_cons] at hnext ⊢
      rw [List.intercalate_cons_cons, List.append_assoc, List.append_assoc, run_append, hrun,
        List.singleton_append, run_cons, step_comma hplace', List.reverse_reverse, hnext]
      simp

/-- A written record is read as this record.  A pair of quotes stands for the record that would be
a blank line. -/
theorem run_writeRecord {line : List (List Char)} (hne : line ≠ []) :
    run ⟨.recordStart, [], [], records⟩ (writeRecord line)
      = ⟨.recordStart, [], [], line :: records⟩ := by
  by_cases hblank : [','].intercalate (line.map writeField) = []
  · -- only a record with one field that is empty shows nothing
    have hline : line = [[]] := by
      match line, hne with
      | [s], _ => simpa [writeField_eq_nil] using hblank
      | s :: t :: rest, _ => simp [List.intercalate_cons_cons] at hblank
    subst hline
    rfl
  · simp only [writeRecord, if_neg hblank]
    exact run_line hne (.inl rfl) fun _ => hblank

/-- Written records are read one after the other. -/
theorem run_write {lines : List (List (List Char))} (hne : ∀ line ∈ lines, line ≠ []) :
    run ⟨.recordStart, [], [], records⟩ (write lines)
      = ⟨.recordStart, [], [], lines.reverse ++ records⟩ := by
  induction lines generalizing records with
  | nil => rfl
  | cons line lines ih =>
    rw [write, List.flatMap_cons, run_append, run_writeRecord (hne line (List.mem_cons_self ..)),
      ← write, ih fun l hl => hne l (List.mem_cons_of_mem line hl)]
    simp

end State

/-! ### The mark in front of a text -/

theorem dropMark_of_head? {s : List Char} (h : s.head? ≠ some '\ufeff') : dropMark s = s := by
  unfold dropMark
  split
  · simp at h
  · rfl

theorem head?_writeField {s : List Char} (h : s.head? ≠ some '\ufeff') :
    (writeField s).head? ≠ some '\ufeff' := by
  cases hq : needsQuotes s with
  | true => simp [writeField_of_needsQuotes hq]
  | false => rwa [writeField_of_not_needsQuotes hq]

/-- A written record begins with its first field, a comma, a quote or a line end. -/
theorem head?_writeRecord {s : List Char} (h : s.head? ≠ some '\ufeff')
    (rest : List (List Char)) : (writeRecord (s :: rest)).head? ≠ some '\ufeff' := by
  have hs := head?_writeField h
  have hline : ([','].intercalate ((s :: rest).map writeField)).head? ≠ some '\ufeff' := by
    cases rest with
    | nil => simpa using hs
    | cons t rest =>
      rw [List.map_cons, List.map_cons, List.intercalate_cons_cons]
      cases hw : writeField s <;> simp_all
  unfold writeRecord
  dsimp only
  split
  · simp
  · rw [List.head?_append]
    cases hl : [','].intercalate ((s :: rest).map writeField) <;> simp_all

/-- **Records are read as they were written**, if each has a field and the first field does not
begin with a mark of the byte order. -/
theorem read_write {lines : List (List (List Char))} (hne : ∀ line ∈ lines, line ≠ [])
    (hmark : ∀ s, (lines.head?.bind List.head?) = some s → s.head? ≠ some '\ufeff') :
    read (write lines) = lines := by
  have hdrop : dropMark (write lines) = write lines := by
    refine dropMark_of_head? ?_
    match lines, hne with
    | [], _ => simp [write]
    | [] :: _, hne => exact absurd rfl (hne [] (List.mem_cons_self ..))
    | (s :: rest) :: lines, _ =>
      have hfirst := head?_writeRecord (hmark s rfl) rest
      rw [write, List.flatMap_cons, List.head?_append]
      cases hw : writeRecord (s :: rest) with
      | nil => simp [writeRecord] at hw
      | cons c t => simpa [hw] using hfirst
  rw [read, hdrop]
  change (State.run _ _).finish = lines
  rw [State.start, State.run_write hne]
  simp [State.finish]

/-! ### Grids -/

variable {g : Grid}

theorem fieldsOf_eq (g : Grid) : fieldsOf g = g.rows.map (·.map fun x => x.asText.toList) := by
  simp [fieldsOf, Grid.textRows]

theorem uneven?_of_forall {lines : List (List (List Char))} {n : Nat}
    (h : ∀ line ∈ lines, line.length = n) : uneven? lines = none := by
  cases lines with
  | nil => rfl
  | cons first rest =>
    have hfirst := h first (List.mem_cons_self ..)
    simp only [uneven?, Option.map_eq_none_iff, List.find?_eq_none]
    intro line hline
    simpa [hfirst] using h line (List.mem_cons_of_mem first hline)

/-- A well-formed grid can be written. -/
theorem exportGrid_of_wellFormed (hg : g.WellFormed) : exportGrid g = .ok (writeGrid g) := by
  have heven : uneven? (fieldsOf g) = none := by
    refine uneven?_of_forall (n := g.colCount) fun line hline => ?_
    rw [fieldsOf_eq] at hline
    obtain ⟨row, hrow, rfl⟩ := List.mem_map.1 hline
    rw [List.length_map]
    exact hg.rectangular row hrow
  rw [exportGrid, heven]

/-- What the text of a cell is read as. -/
theorem cellOf_asText (x : Cell) :
    cellOf x.asText.toList = if x.asText = "" then .empty else .text x.asText := by
  simp [cellOf]

/-- The rows of a grid, all of which have a cell, are read with the same texts. -/
theorem readRows_writeGrid (hne : ∀ row ∈ g.rows, row ≠ [])
    (hmark : (g.get 0 0).asText.toList.head? ≠ some '\ufeff') :
    readRows (writeGrid g)
      = g.rows.map (·.map fun x => if x.asText = "" then .empty else .text x.asText) := by
  have hlines : ∀ line ∈ fieldsOf g, line ≠ [] := by
    intro line hline
    rw [fieldsOf_eq] at hline
    obtain ⟨row, hrow, rfl⟩ := List.mem_map.1 hline
    simpa using hne row hrow
  have hfirst : ∀ s, ((fieldsOf g).head?.bind List.head?) = some s →
      s.head? ≠ some '\ufeff' := by
    intro s hs
    obtain ⟨rows⟩ := g
    rw [fieldsOf_eq] at hs
    match rows, hs with
    | (x :: _) :: _, hs =>
      cases hs
      exact hmark
  rw [readRows, writeGrid, String.toList_ofList, read_write hlines hfirst, fieldsOf_eq]
  simp [cellOf_asText]

/-- **A grid is preserved when it is written and read.**  There are as many rows and columns as
before, a cell that shows a text becomes this text, and a cell that shows nothing becomes empty.
The first text must not begin with a mark of the byte order, which the reader drops. -/
theorem readRows_exportGrid (hg : g.WellFormed) (hcols : 0 < g.colCount)
    (hmark : (g.get 0 0).asText.toList.head? ≠ some '\ufeff') :
    ∃ text, exportGrid g = .ok text ∧
      readRows text
        = g.rows.map (·.map fun x => if x.asText = "" then .empty else .text x.asText) ∧
      (readRows text).length = g.rowCount ∧ ∀ row ∈ readRows text, row.length = g.colCount := by
  have hlen : ∀ row ∈ g.rows, row.length = g.colCount := hg.rectangular
  have hne : ∀ row ∈ g.rows, row ≠ [] := fun row hrow =>
    List.ne_nil_of_length_pos (by rw [hlen row hrow]; exact hcols)
  have hread := readRows_writeGrid hne hmark
  refine ⟨writeGrid g, exportGrid_of_wellFormed hg, hread, ?_, ?_⟩
  · rw [hread, List.length_map, Grid.rowCount]
  · intro row hrow
    rw [hread] at hrow
    obtain ⟨cells, hcells, rfl⟩ := List.mem_map.1 hrow
    rw [List.length_map, hlen cells hcells]

/-- One column, with a row that shows nothing between texts that take quotes. -/
theorem readRows_exportGrid_one_column :
    let g : Grid := ⟨[[.text "n, \"m\""], [.empty], [.text "\r\n"], [.text ""], [.number 12.5]]⟩
    let text := "\"n, \"\"m\"\"\"\n\"\"\n\"\r\n\"\n\"\"\n12.5\n"
    g.WellFormed ∧ 0 < g.colCount ∧ (g.get 0 0).asText.toList.head? ≠ some '\ufeff' ∧
      exportGrid g = .ok text ∧
      readRows text = [[.text "n, \"m\""], [.empty], [.text "\r\n"], [.empty], [.text "12.5"]] := by
  intro g text
  have hg : g.WellFormed := ⟨by decide, by unfold Grid.Rectangular; decide⟩
  have hcols : 0 < g.colCount := by decide
  have hmark : (g.get 0 0).asText.toList.head? ≠ some '\ufeff' := by decide
  obtain ⟨text', hexport, hread, -⟩ := readRows_exportGrid hg hcols hmark
  have htext : exportGrid g = .ok text := by decide +kernel
  rw [htext] at hexport
  cases hexport
  refine ⟨hg, hcols, hmark, htext, hread.trans ?_⟩
  decide +kernel

end GridTalk.Csv
