import UnitConversion.Proofs.ConsoleTurns

/-!
# Lines as grids of single conversions

A line of values and output units is the grid of the conversions of each value to each unit, row by
row. A line of three words is a grid with one conversion, so it does not matter in which of three
ways these words are given.
-/

namespace UnitConversion

open Attempt

namespace Attempt

variable {α β : Type}

/-- What is done with the outcome of an attempt changes nothing else. -/
theorem runFrom_map (attempt : Attempt α) (work : α → β) (memory : Memory) :
    (work <$> attempt).runFrom memory =
      ((attempt.runFrom memory).1.map work, (attempt.runFrom memory).2) := by
  rw [map_eq_pure_bind, runFrom_bind]
  cases attempt.runFrom memory with
  | mk outcome after => cases outcome <;> rfl

/-- What is done with the outcome of a step that needs no memory can be part of the step. -/
theorem check_map (result : Except ConversionError α) (work : α → β) :
    check (result.map work) = work <$> check result := by
  cases result <;> rfl

end Attempt

open Conversion

/-- The conversions are those of each value to each target: a row for each value, one behind the
other, and in each row the conversions of that value alone to the targets in their order. -/
structure IsGrid (conversions : List FinishedConversion) (values : List Float)
    (source : ResolvedUnit) (targets : List ResolvedUnit) : Prop where
  /-- There is a conversion for each value and each target. -/
  length : conversions.length = values.length * targets.length
  /-- The conversion in a row and a column is that of the row's value to the column's target, and
  its result is what the value alone is converted to. -/
  entry : ∀ row column, (hrow : row < values.length) → (hcolumn : column < targets.length) →
    ∃ result, convert values[row] source targets[column] = .ok result ∧
      conversions[row * targets.length + column]? =
        some ⟨values[row], result, source, targets[column]⟩

namespace Request

variable {registry : Registry} {values : List Float} {source : ResolvedUnit}

/-- Where all rows have one width, an entry of a row is found behind the rows before it. -/
theorem getElem?_flatMap {α β : Type} {rows : List α} {entries : α → List β} {width : Nat}
    (hwidth : ∀ row ∈ rows, (entries row).length = width) {index column : Nat} {row : α}
    (hrow : rows[index]? = some row) (hcolumn : column < width) :
    (rows.flatMap entries)[index * width + column]? = (entries row)[column]? := by
  induction rows generalizing index with
  | nil => simp at hrow
  | cons first rows ih =>
    have hfirst := hwidth first List.mem_cons_self
    rw [List.flatMap_cons]
    cases index with
    | zero =>
      obtain rfl : first = row := by simpa using hrow
      rw [Nat.zero_mul, Nat.zero_add, List.getElem?_append_left (by rw [hfirst]; exact hcolumn)]
    | succ index =>
      have hbehind : (index + 1) * width + column - width = index * width + column := by
        rw [Nat.succ_mul]
        omega
      have hpast : width ≤ (index + 1) * width + column := by
        rw [Nat.succ_mul]
        omega
      rw [List.getElem?_append_right (by rw [hfirst]; exact hpast), hfirst, hbehind]
      exact ih (fun row hin => hwidth row (List.mem_cons_of_mem _ hin)) (by simpa using hrow)

/-- What stands in a row and a column of the grid. -/
theorem getElem?_grid {columns : List (ResolvedUnit × List Float)} {row column : Nat}
    {value : Float} {target : ResolvedUnit} {results : List Float}
    (hrow : values[row]? = some value) (hcolumn : columns[column]? = some (target, results)) :
    (grid source values columns)[row * columns.length + column]? =
      some ⟨value, results.getD row value, source, target⟩ := by
  have hnumbered : values.zipIdx[row]? = some (value, row) := by
    rw [List.getElem?_zipIdx, hrow]
    simp
  obtain ⟨hwidth, -⟩ := List.getElem?_eq_some_iff.mp hcolumn
  unfold grid
  rw [getElem?_flatMap (fun _ _ => List.length_map _) hnumbered hwidth, List.getElem?_map, hcolumn]
  rfl

/-- Columns of converted values make a grid. -/
theorem isGrid_grid {columns : List (ResolvedUnit × List Float)}
    (h : ∀ column ∈ columns, convertValues values source column.1 = .ok column.2) :
    IsGrid (grid source values columns) values source (columns.map Prod.fst) where
  length := by rw [length_grid, List.length_map]
  entry := by
    intro row column hrow hcolumn
    have hvalue : values[row]? = some values[row] := List.getElem?_eq_getElem hrow
    have hwidth : column < columns.length := by simpa using hcolumn
    have hmade : columns[column]? = some (columns[column].1, columns[column].2) :=
      List.getElem?_eq_getElem hwidth
    have hin : values[row] ∈ values := List.getElem_mem hrow
    obtain ⟨hfinite, hcompatible, hresults, hmap⟩ :=
      convertValues_eq_ok_iff.mp (h columns[column] (List.getElem_mem hwidth))
    have hentry : columns[column].2.getD row values[row] =
        converted source columns[column].1 values[row] := by
      rw [hmap, List.getD_eq_getElem?_getD, List.getElem?_map, hvalue]
      rfl
    simp only [List.getElem_map, List.length_map]
    refine ⟨converted source columns[column].1 values[row],
      convert_eq_ok_iff.mpr ⟨hfinite _ hin, hcompatible, hresults _ hin, rfl⟩, ?_⟩
    rw [getElem?_grid hvalue hmade, hentry]

/-- A line that is converted is the grid of what its words are resolved to. -/
theorem isGrid_of_convertLine {words : List String} {memory last : Memory}
    {conversions : List FinishedConversion}
    (h : (convertLine registry words).runFrom memory = (.ok conversions, last)) :
    ∃ roles values source targets, split words = .ok roles ∧
      (roles.resolveAll registry).runFrom memory = (.ok (values, source, targets), last) ∧
      values.length = roles.values.length ∧ targets.length = roles.outputs.length ∧
      IsGrid conversions values source targets := by
  obtain ⟨roles, source, values, columns, hroles, hresolved, hgrid, hrows, hwidth, hconvert⟩ :=
    exists_grid_of_convertLine h
  refine ⟨roles, values, source, columns.map Prod.fst, hroles, hresolved, hrows, ?_, ?_⟩
  · rw [List.length_map, hwidth]
  · rw [hgrid]
    exact isGrid_grid hconvert

/-- Three words are converted as far as the result. -/
theorem convertTokens_eq (registry : Registry) (value input output : String) :
    convertTokens registry value input output =
      FinishedConversion.result <$> convert registry value input output := by
  simp [convertTokens, convert]

/-- The grid of one value and one unit. -/
theorem grid_single (source target : ResolvedUnit) (value : Float) (results : List Float) :
    grid source [value] [(target, results)] =
      [⟨value, results.headD value, source, target⟩] := by
  cases results <;> rfl

/-- A line of three words is a grid with one conversion. -/
theorem convertLine_three (registry : Registry) (value input output : String) :
    convertLine registry [value, input, output] =
      (fun conversion => [conversion]) <$> convert registry value input output := by
  -- No word but the first is a value when there are only three, whatever the second looks like.
  have hsplit : check (split [value, input, output]) =
      (pure ⟨[value], input, [output]⟩ : Attempt Split) := rfl
  unfold convertLine convert column
  simp [hsplit, grid_single, Conversion.convert, check_map]

end Request

namespace Session

open Request

/-- What is done with the outcome of a request changes nothing else. -/
theorem perform_map {α β : Type} (session : Session) (attempt : Attempt α) (work : α → β) :
    session.perform (work <$> attempt) =
      ((session.perform attempt).1.map work, (session.perform attempt).2) := by
  unfold perform
  simp only [runOn_eq_runFrom, runFrom_map]

/-- A line that is converted is the grid of the values and the units that its words are resolved to,
each conversion is that of its own value to its own unit, and the line leaves behind what resolving
its words leaves behind. Values that are converted together are converted one by one. -/
theorem converts_whole_grid (session : Session) (words : List String) :
    (∀ conversions, (session.perform (convertLine session.registry words)).1 = .ok conversions →
      ∃ roles values source targets, split words = .ok roles ∧
        session.perform (roles.resolveAll session.registry) =
          (.ok (values, source, targets),
            (session.perform (convertLine session.registry words)).2) ∧
        values.length = roles.values.length ∧ targets.length = roles.outputs.length ∧
        IsGrid conversions values source targets) ∧
      ∀ values source target, ConvertsEach values source target := by
  refine ⟨fun conversions h => ?_, convertsEach⟩
  obtain ⟨roles, values, source, targets, hroles, hresolved, hrows, hwidth, isGrid⟩ :=
    isGrid_of_convertLine (Prod.ext h rfl)
  refine ⟨roles, values, source, targets, hroles, ?_, hrows, hwidth, isGrid⟩
  unfold perform
  rw [runOn_eq_runFrom, hresolved]
  rfl

/-- Two values and two units. -/
theorem converts_whole_grid_metres : ∃ conversions values source targets,
    ((start metreRegistry .simple .standard).perform
      (convertLine metreRegistry ["1", "2", "m", "m", "_km"])).1 = .ok conversions ∧
    conversions.length = 4 ∧ values.length = 2 ∧ targets.length = 2 ∧
    IsGrid conversions values source targets := by
  have hok : ((start metreRegistry .simple .standard).perform
      (convertLine metreRegistry ["1", "2", "m", "m", "_km"])).1.isOk = true := by
    decide +kernel
  cases h : ((start metreRegistry .simple .standard).perform
      (convertLine metreRegistry ["1", "2", "m", "m", "_km"])).1 with
  | error error =>
    rw [h] at hok
    contradiction
  | ok conversions =>
    obtain ⟨roles, values, source, targets, hroles, -, hrows, hwidth, isGrid⟩ :=
      (converts_whole_grid (start metreRegistry .simple .standard)
        ["1", "2", "m", "m", "_km"]).1 conversions h
    have hsplit : split ["1", "2", "m", "m", "_km"] = .ok ⟨["1", "2"], "m", ["m", "_km"]⟩ := by
      decide +kernel
    rw [hsplit] at hroles
    cases hroles
    have hlength := isGrid.length
    rw [hrows, hwidth] at hlength
    exact ⟨conversions, values, source, targets, rfl, hlength, hrows, hwidth, isGrid⟩

/-- Three words do the same in each of three ways: converted as they are, converted and kept with
what they stood for, and converted as a line. All three ways succeed with the same result or fail
with the same failure, all leave the same recalled, and all resolve the same words. -/
theorem three_words_agree (session : Session) (value input output : String) :
    let kept := session.perform (convert session.registry value input output)
    let line := session.perform (convertLine session.registry [value, input, output])
    let tokens := (convertTokens session.registry value input output).runOn session.remembered
    tokens.1 = kept.1.map FinishedConversion.result ∧
      line.1 = kept.1.map (fun conversion => [conversion]) ∧
      line.2 = kept.2 ∧ kept.2.1 = { session with remembered := tokens.2.remembered } ∧
      kept.2.2 = tokens.2.resolutions := by
  intro kept line tokens
  have hline : line = (kept.1.map fun conversion => [conversion], kept.2) := by
    unfold line
    rw [convertLine_three, perform_map]
  have htokens : tokens = (kept.1.map FinishedConversion.result,
      ((convert session.registry value input output).runOn session.remembered).2) := by
    unfold tokens
    rw [convertTokens_eq, runOn_eq_runFrom, runFrom_map]
    rfl
  rw [hline, htokens]
  exact ⟨rfl, rfl, rfl, rfl, rfl⟩

end Session

end UnitConversion
