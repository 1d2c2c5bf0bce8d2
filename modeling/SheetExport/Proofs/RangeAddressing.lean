import Mathlib
import SheetExport.Proofs.ColumnLabels
import SheetExport.Proofs.PlanningClosedForm

/-!
# A range addresses one row

The range of a row write is `sheet!A<row>:<last><row>`. Everything after the sheet's name is
digits, capital letters, one `!` at its start and one `:`, so the last `!` of a range is the one
written after the name, whatever the name holds. Reading the row number back therefore gives the
row (`RowRange.rowOf_render`), and the range gives back the name, the row and the last column:
the name is what stands before the last `!`, and the label is what stands between the `:` and the
row's digits at the end (`render_injective`).

Rows are written from one up to `rowLimit`, `10^4300`, the first number with more than 4300
digits (`RowRange.ofRow_eq`); `ofRow_addresses_one_row` states the whole behaviour and
`ofRow_refuses_row_of_4301_digits` the row at the limit.
-/

namespace SheetExport

namespace RowRange

/-- The text after a `!` that is followed by no other `!` is the text after the last `!`. -/
theorem takeWhile_reverse_append_bang (before after : List Char) (noBang : '!' ∉ after) :
    (before ++ '!' :: after).reverse.takeWhile (· != '!') = after.reverse := by
  have kept : ∀ c ∈ after.reverse, (c != '!') = true := by
    intro c member
    simp only [bne_iff_ne, ne_eq]
    rintro rfl
    exact noBang (List.mem_reverse.mp member)
  rw [List.reverse_append, List.reverse_cons, List.append_assoc,
    List.takeWhile_append_of_pos kept]
  simp

/-- Two texts that each end in a `!` followed by no other `!` split at it alike. -/
theorem append_bang_inj {before before' after after' : List Char} (noBang : '!' ∉ after)
    (noBang' : '!' ∉ after') (same : before ++ '!' :: after = before' ++ '!' :: after') :
    before = before' ∧ after = after' := by
  have afterSame : after = after' := by
    have reversed := congrArg (fun text => text.reverse.takeWhile (· != '!')) same
    simpa only [takeWhile_reverse_append_bang _ _ noBang,
      takeWhile_reverse_append_bang _ _ noBang', List.reverse_inj] using reversed
  subst afterSame
  exact ⟨List.append_cancel_right same, rfl⟩

/-- The characters of a range: the sheet's name, a `!`, and then the cell part of the range. -/
theorem render_toList (sheet : String) (n last : Nat) :
    (render sheet n last).toList =
      sheet.toList ++ '!' :: ('A' :: Nat.toDigits 10 n ++
        ':' :: (Column.label last).toList ++ Nat.toDigits 10 n) := by
  have written : toString (n : Int) = Nat.repr n := rfl
  simp [render, written, Nat.toList_repr]

theorem bang_not_mem_cells (n last : Nat) :
    '!' ∉ 'A' :: Nat.toDigits 10 n ++ ':' :: (Column.label last).toList ++ Nat.toDigits 10 n := by
  have notDigit : '!' ∉ Nat.toDigits 10 n := fun inDigits =>
    absurd (Nat.isDigit_of_mem_toDigits (by decide) (by decide) inDigits) (by decide)
  have notLetter : '!' ∉ (Column.label last).toList := fun inLabel =>
    absurd (isColumnLetter_of_mem_label inLabel) (by decide)
  simp [notDigit, notLetter]

/-- A range written for a row that reads back names one sheet, one row and one last column. -/
theorem render_injective {sheet sheet' : String} {row row' : Int} {last last' : Nat}
    (positive : 1 ≤ row) (short : row < rowLimit) (positive' : 1 ≤ row') (short' : row' < rowLimit)
    (same : render sheet row last = render sheet' row' last') :
    sheet = sheet' ∧ row = row' ∧ last = last' := by
  have sameRow : row = row' := by
    have readBack := rowOf_render sheet last positive short
    rw [same, rowOf_render sheet' last' positive' short'] at readBack
    exact (Except.ok.inj readBack).symm
  subst sameRow
  obtain ⟨n, rfl⟩ : ∃ n : Nat, row = n := ⟨row.toNat, by omega⟩
  have characters := congrArg String.toList same
  rw [render_toList, render_toList] at characters
  obtain ⟨sameSheet, cells⟩ :=
    append_bang_inj (bang_not_mem_cells n last) (bang_not_mem_cells n last') characters
  have labels : (Column.label last).toList = (Column.label last').toList := by
    simpa using cells
  exact ⟨String.toList_inj.mp sameSheet, rfl,
    Column.label_injective (String.toList_inj.mp labels)⟩

/-- The range of a row and its reading. For every sheet name and width, a row from one up to
`rowLimit` has the range `sheet!A<row>:<last><row>`, `last` being the label of the width or of
one, whichever is greater, and a write through that range reads back the row, whatever values it
holds; a range determines the sheet, the row and that column. A row below one is refused whatever
the width, and so is a row of more than 4300 digits, which has no decimal text. -/
theorem ofRow_addresses_one_row :
    (∀ (sheet : String) (row width : Int), 1 ≤ row → row < rowLimit →
      ∃ range last, ofRow sheet row width = .ok range ∧
        Column.labelOf (.int (max width 1)) = .ok last ∧
        range = sheet ++ "!A" ++ toString row ++ ":" ++ last ++ toString row ∧
        ∀ values, (RowWrite.mk sheet range values).rowNumber = .ok row) ∧
    (∀ (sheet sheet' : String) (row row' width width' : Int) (range : String),
      ofRow sheet row width = .ok range → ofRow sheet' row' width' = .ok range →
        sheet = sheet' ∧ row = row' ∧ max width 1 = max width' 1) ∧
    (∀ (sheet : String) (row width : Int), row < 1 → ofRow sheet row width = .error .rowBelowOne) ∧
    (∀ (sheet : String) (row width : Int), rowLimit ≤ row →
      ofRow sheet row width = .error (.numeral .tooLongToWrite)) := by
  refine ⟨?_, ?_, ?_, ?_⟩
  · intro sheet row width positive short
    refine ⟨render sheet row (max width 1).toNat, Column.label (max width 1).toNat, ?_,
      Column.labelOf_int_of_pos (le_max_right width 1), rfl,
      fun values => rowOf_render sheet _ positive short⟩
    rw [ofRow_eq, if_neg (by omega), if_neg (by omega)]
  · intro sheet sheet' row row' width width' range written written'
    have rowBounds : ∀ {sheet row width range}, ofRow sheet row width = .ok range →
        1 ≤ row ∧ row < rowLimit ∧ range = render sheet row (max width 1).toNat := by
      intro sheet row width range written
      rw [ofRow_eq] at written
      split_ifs at written with below long
      exact ⟨by omega, by omega, (Except.ok.inj written).symm⟩
    obtain ⟨positive, short, rfl⟩ := rowBounds written
    obtain ⟨positive', short', same⟩ := rowBounds written'
    obtain ⟨sameSheet, sameRow, sameLast⟩ := render_injective positive short positive' short' same
    exact ⟨sameSheet, sameRow, by omega⟩
  · intro sheet row width below
    exact ofRow_below_one sheet row width below
  · intro sheet row width long
    have limit := SheetState.one_lt_rowLimit
    rw [ofRow_eq, if_neg (by omega), if_pos long]

/-- A sheet whose name holds a `!`, a `:`, digits and capitals: row 12 of a row of 28 values is
written through `Q1!Sales:2!A12:AB12`, which reads back as row 12. -/
theorem ofRow_sheet_with_separators :
    ofRow "Q1!Sales:2" 12 28 = .ok "Q1!Sales:2!A12:AB12" ∧
      (RowWrite.mk "Q1!Sales:2" "Q1!Sales:2!A12:AB12" []).rowNumber = .ok 12 := by
  obtain ⟨written, -, -, -⟩ := ofRow_addresses_one_row
  have limit := SheetState.one_lt_rowLimit
  obtain ⟨range, last, result, labelled, spelled, readBack⟩ :=
    written "Q1!Sales:2" 12 28 (by decide) (by
      have large : 12 < 10 ^ NumeralError.digitLimit :=
        lt_of_lt_of_le (by decide : 12 < 10 ^ 2) (Nat.pow_le_pow_right (by decide) (by decide))
      have := rowLimit_eq_cast
      omega)
  have labelAB : Column.labelOf (.int (max 28 1)) = .ok "AB" := by decide +kernel
  rw [labelAB, Except.ok.injEq] at labelled
  subst labelled
  have text : range = "Q1!Sales:2!A12:AB12" := by
    rw [spelled]
    rfl
  subst text
  exact ⟨result, readBack []⟩

/-- Row `10^4300`, the first with 4301 digits, is above one and still has no range. -/
theorem ofRow_refuses_row_of_4301_digits :
    ¬ (rowLimit < 1) ∧ ofRow "s" rowLimit 1 = .error (.numeral .tooLongToWrite) := by
  have limit := SheetState.one_lt_rowLimit
  refine ⟨by omega, ?_⟩
  rw [ofRow_eq, if_neg (by omega), if_pos le_rfl]

end RowRange

end SheetExport
