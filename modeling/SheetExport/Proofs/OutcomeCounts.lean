import Mathlib
import SheetExport.Proofs.ExportPass

/-!
# The counts of a planned sheet

A planned sheet reports how many of its rows overwrite a row of the sheet and how many are
appended below it. The counts are not taken from the planner's matches: the appended writes are
those whose range, read back, names a row past the rows the sheet had. They are right all the same,
because of where the planner puts rows (a matched row goes to a row of the sheet, an unmatched one
past them, `SheetState.targetAt_le_iff`) and because a range reads back as its row whatever the
sheet's name holds (`RowRange.rowOf_render`): `appendedCount_planSheet` counts the unmatched rows,
and `Export.planSource_counts_rows_by_match` gives the outcome of a sheet that reaches planning.
-/

namespace SheetExport

open Calendar Store Export

/-- Counting the images of a mapping over positions counts the items, when the test on an image
says what a test on its item says. -/
private theorem countP_mapIdx {α β : Type} {f : Nat → α → β} {p : β → Bool} {q : α → Bool} :
    ∀ {items : List α}, (∀ position (bound : position < items.length),
      p (f position items[position]) = q items[position]) →
      (items.mapIdx f).countP p = items.countP q
  | [], _ => rfl
  | item :: rest, same => by
      have first : p (f 0 item) = q item := same 0 (by simp)
      rw [List.mapIdx_cons, List.countP_cons, List.countP_cons, first,
        countP_mapIdx (f := fun position => f (position + 1)) fun position bound =>
          same (position + 1) (by simpa using bound)]

namespace SheetState

/-- A matched row goes to a row of the sheet and an unmatched one past them, whether the sheet
reported rows or none. -/
theorem targetAt_le_iff (column : Option (List (List Json))) {rows : List (List Json)}
    {position : Nat} {row : List Json} (atPosition : rows[position]? = some row) :
    (ofColumn column).targetAt rows position row ≤ (column.getD []).length ↔
      (ofColumn column).unmatched row = false := by
  have given : (ofColumn column).targetAt rows position row ≤ (column.getD []).length ↔
      (ofColumn column).find? (keyOf row) ≠ none := by
    cases column with
    | none => exact targetAt_le_length_iff [] atPosition
    | some sheetRows => exact targetAt_le_length_iff sheetRows atPosition
  rw [given, unmatched]
  cases (ofColumn column).find? (keyOf row) <;> simp

/-- Every row is matched or unmatched. -/
theorem countP_matched_add_unmatched (state : SheetState) (rows : List (List Json)) :
    rows.countP (fun row => (state.find? (keyOf row)).isSome) + rows.countP state.unmatched =
      rows.length := by
  induction rows with
  | nil => rfl
  | cons row rest ih =>
      have complement : (state.find? (keyOf row)).isSome = !state.unmatched row := by
        simp [unmatched]
      simp only [List.countP_cons, List.length_cons]
      rw [complement]
      cases state.unmatched row <;> simp <;> omega

/-- A plan that fails refuses a row number too long to write, the sheet and the rows together
reaching that many rows: every target is at least one and at most their count. -/
theorem planSheet_eq_error {sheet : String} {column : Option (List (List Json))}
    {rows : List (List Json)} {refusal : SheetError}
    (refused : planSheet sheet column rows = .error refusal) :
    refusal = .numeral .tooLongToWrite ∧
      RowRange.rowLimit ≤ ((column.getD []).length + rows.length : Int) := by
  constructor
  · rw [planSheet, planAll_eq_mapM, planSteps_eq_mapIdx] at refused
    obtain ⟨step, member, failed⟩ := exists_of_mapM_eq_error refused
    obtain ⟨position, bound, rfl⟩ := List.mem_mapIdx.1 member
    have positive := (targetAt_bounds column (List.getElem?_eq_getElem bound)).1
    simp only [targetAt] at positive
    simp only [plannedStep] at failed
    split_ifs at failed with below long
    · omega
    · simp only [Except.map, Except.error.injEq] at failed
      exact failed.symm
    · simp [Except.map] at failed
  · by_contra short
    obtain ⟨writes, planned⟩ := exists_planSheet_eq_ok sheet column rows (by omega)
    rw [planned] at refused
    cases refused

/-- A plan appends exactly its unmatched rows: counted back from the row numbers of its writes,
the writes past the rows the sheet had are the rows whose key finds no row of the sheet. -/
theorem appendedCount_planSheet {sheet : String} {column : Option (List (List Json))}
    {rows : List (List Json)} {writes : List RowWrite}
    (planned : planSheet sheet column rows = .ok writes) :
    appendedCount (column.getD []).length writes = rows.countP (ofColumn column).unmatched := by
  obtain ⟨writesEq, inRange⟩ := planAll_eq_ok planned
  rw [appendedCount, ← List.countP_eq_length_filter, writesEq]
  apply countP_mapIdx
  intro position bound
  have atPosition := List.getElem?_eq_getElem bound
  obtain ⟨positive, short⟩ := inRange position _ atPosition
  rw [rowNumber_writeAt positive short]
  have side := targetAt_le_iff column atPosition
  cases unmatchedRow : (ofColumn column).unmatched rows[position] with
  | false => simpa using side.2 unmatchedRow
  | true =>
      have past : ¬ (ofColumn column).targetAt rows position rows[position] ≤
          (column.getD []).length := fun inside => by simp [side.1 inside] at unmatchedRow
      simpa using past

end SheetState

namespace Export

/-- The outcome of a sheet that reaches planning. Its rows read and its key column fetched, a
sheet is reported in phase `planned` with no error, one write per row and as many existing rows
as the column has; the rows whose key finds a row of the sheet count as updated and the others as
appended, the two adding up to its rows. This holds although the appended count is read back from
the row numbers of the writes' ranges, and whatever the sheet's name. Planning fails only when
the column and the rows together reach `10^4300` rows, with the refusal of a row number too long
to write. -/
theorem planSource_counts_rows_by_match (client : Client) (db : Database) (source : RowSource)
    (start finish : DateTime) (rows : List (List String)) (column : Option (List String))
    (queried : source.rowsFor db start finish = .ok rows)
    (fetched : (client.fetchKeyColumn source.sheet).1 = .ok column) :
    (∃ outcome writes, (planSource client db source start finish).1 = .ok (outcome, writes) ∧
      outcome.phase = .planned ∧ outcome.error = none ∧
      outcome.rows = rows.length ∧ writes.length = rows.length ∧
      outcome.existingRows = (column.getD []).length ∧
      outcome.updated = (rows.map (·.map Json.str)).countP
        (fun row => ((SheetState.ofColumn (columnRows column)).find? (keyOf row)).isSome) ∧
      outcome.appended = (rows.map (·.map Json.str)).countP
        (fun row => ((SheetState.ofColumn (columnRows column)).find? (keyOf row)).isNone) ∧
      outcome.updated + outcome.appended = outcome.rows) ∨
    ((planSource client db source start finish).1 = .error (.plan (.numeral .tooLongToWrite)) ∧
      RowRange.rowLimit ≤ ((column.getD []).length + rows.length : Int)) := by
  have existing : (column.map List.length).getD 0 = (column.getD []).length := by
    cases column <;> rfl
  rcases fetch : client.fetchKeyColumn source.sheet with ⟨result, trace, next⟩
  rw [fetch] at fetched
  subst fetched
  cases planned : planSheet source.sheet (columnRows column) (rows.map (·.map Json.str)) with
  | error refusal =>
      obtain ⟨rfl, long⟩ := SheetState.planSheet_eq_error planned
      right
      rw [length_columnRows, List.length_map] at long
      exact ⟨by simp only [planSource, queried, fetch, planned], long⟩
  | ok writes =>
      left
      have appended := SheetState.appendedCount_planSheet planned
      rw [length_columnRows] at appended
      have writesLength : writes.length = rows.length := by
        rw [(SheetState.planAll_eq_ok planned).1, List.length_mapIdx, List.length_map]
      have split := SheetState.countP_matched_add_unmatched (SheetState.ofColumn (columnRows column))
        (rows.map (·.map Json.str))
      rw [List.length_map] at split
      refine ⟨⟨source.sheet, .planned, rows.length, (column.map List.length).getD 0,
        writes.length - appendedCount ((column.map List.length).getD 0) writes,
        appendedCount ((column.map List.length).getD 0) writes, none⟩, writes, ?_, rfl, rfl, rfl,
        writesLength, existing, ?_, ?_, ?_⟩
      · simp only [planSource, queried, fetch, planned]
      · dsimp only
        rw [existing, appended, writesLength]
        omega
      · dsimp only
        rw [existing, appended]
        rfl
      · dsimp only
        rw [existing, appended, writesLength]
        omega

/-- A sheet named with a `!`, a `:`, digits and capitals, two of whose rows are read against a
fetched column holding the key of the first: one row is updated and one appended. -/
theorem planSource_counts_named_sheet :
    ∃ outcome writes, (planSource ⟨"sheet-123", .scripted [.answer (.obj [("values",
        .arr [.arr [.str "2"]])])], .whole 5, none, none, .null, FileStore.empty⟩
        Database.empty ⟨"Q1!Sales:2", fun _ _ _ => .ok [["2", "a"], ["3", "b"]]⟩
        ⟨⟨2024, 1, 1⟩, 0, 0, 0, 0, some 0⟩ ⟨⟨2024, 1, 7⟩, 23, 59, 59, 0, some 0⟩).1 =
          .ok (outcome, writes) ∧
      outcome.rows = 2 ∧ outcome.existingRows = 1 ∧ outcome.updated = 1 ∧ outcome.appended = 1 := by
  rcases planSource_counts_rows_by_match ⟨"sheet-123", .scripted [.answer (.obj [("values",
      .arr [.arr [.str "2"]])])], .whole 5, none, none, .null, FileStore.empty⟩ Database.empty
      ⟨"Q1!Sales:2", fun _ _ _ => .ok [["2", "a"], ["3", "b"]]⟩
      ⟨⟨2024, 1, 1⟩, 0, 0, 0, 0, some 0⟩ ⟨⟨2024, 1, 7⟩, 23, 59, 59, 0, some 0⟩
      [["2", "a"], ["3", "b"]] (some ["2"]) rfl rfl with
    ⟨outcome, writes, planned, -, -, rowCount, -, existing, updated, appended, -⟩ | ⟨-, long⟩
  · refine ⟨outcome, writes, planned, rowCount, existing, ?_, ?_⟩
    · rw [updated]
      decide
    · rw [appended]
      decide
  · have large : 3 < 10 ^ NumeralError.digitLimit :=
      lt_of_lt_of_le (by decide : 3 < 10 ^ 1) (Nat.pow_le_pow_right (by decide) (by decide))
    have cast := RowRange.rowLimit_eq_cast
    simp only [Option.getD_some, List.length_cons, List.length_nil] at long
    omega

end Export

end SheetExport
