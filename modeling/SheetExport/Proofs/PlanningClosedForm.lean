import Mathlib
import SheetExport.Proofs.RowNumbers
import SheetExport.Sheet.Plan
import SheetExport.FailingSteps

/-!
# The planner's fold in closed form

Planning threads the append cursor through the rows of a sheet, one row at a time. This module
gives the outcome of every step without the threading: the `position`-th row of a batch goes to
the row after its first match in the key column, or, when nothing matches, to the cursor moved on
by the number of unmatched rows up to and including it, and the state it leaves has the same keys
and that moved cursor.

Two things stop a step. A target below one is refused, which happens to every unmatched row when
the cursor starts below zero, since a refused row leaves the cursor where it was. A target with
more than 4300 digits has no text either: the cursor then stays at the last row that could be
written. `cursorAfter` is the cursor with both effects, and `SheetState.planSteps_closed_form`
is the main statement.
-/

namespace SheetExport

namespace SheetState

/-- Whether a row's key finds no row of the sheet. -/
def unmatched (state : SheetState) (row : List Json) : Bool :=
  (state.find? (keyOf row)).isNone

/-- The number of unmatched rows among the first `position + 1` rows. -/
def unmatchedThrough (state : SheetState) (rows : List (List Json)) (position : Nat) : Nat :=
  (rows.take (position + 1)).countP state.unmatched

/-- The cursor after `appended` unmatched rows were planned from `cursor`: it does not move from
below zero, and it stops at the last row number that can be written. -/
def cursorAfter (cursor : Int) (appended : Nat) : Int :=
  if cursor < 0 then cursor else min (cursor + appended) (max cursor (RowRange.rowLimit - 1))

/-- The row a row is written to, `appended` being the unmatched rows up to and including it. -/
def plannedTarget (state : SheetState) (appended : Nat) (row : List Json) : Int :=
  match state.find? (keyOf row) with
  | some index => index + 1
  | none => if state.cursor < 0 then state.cursor + 1 else state.cursor + appended

/-- The outcome of planning a row, `appended` being the unmatched rows up to and including it:
its write and the state after it, or the refusal of its target. -/
def plannedStep (state : SheetState) (sheet : String) (appended : Nat) (row : List Json) :
    Except SheetError (SheetState × RowWrite) :=
  let target := state.plannedTarget appended row
  if target < 1 then .error .rowBelowOne
  else if RowRange.rowLimit ≤ target then .error (.numeral .tooLongToWrite)
  else .ok (⟨state.keys, cursorAfter state.cursor appended⟩,
    ⟨sheet, RowRange.render sheet target (max (row.length : Int) 1).toNat, row⟩)

theorem find?_keys (keys : List Json) (cursor other : Int) (key : Json) :
    (SheetState.mk keys cursor).find? key = (SheetState.mk keys other).find? key := rfl

theorem cursorAfter_zero (cursor : Int) : cursorAfter cursor 0 = cursor := by
  unfold cursorAfter
  split <;> omega

theorem one_lt_rowLimit : 1 < RowRange.rowLimit := by
  have large : 1 < 10 ^ NumeralError.digitLimit := Nat.one_lt_pow (by decide) (by decide)
  have cast := RowRange.rowLimit_eq_cast
  omega

theorem unmatchedThrough_cons_zero (state : SheetState) (row : List Json)
    (rest : List (List Json)) :
    state.unmatchedThrough (row :: rest) 0 = if state.unmatched row then 1 else 0 := by
  simp [unmatchedThrough]

theorem unmatchedThrough_cons_succ (state : SheetState) (row : List Json)
    (rest : List (List Json)) (position : Nat) :
    state.unmatchedThrough (row :: rest) (position + 1) =
      (if state.unmatched row then 1 else 0) + state.unmatchedThrough rest position := by
  simp only [unmatchedThrough, List.take_succ_cons, List.countP_cons]
  omega

/-- The closed-form step writes through the range of its target, refused as that range is. -/
theorem plannedStep_eq_map (state : SheetState) (sheet : String) (appended : Nat)
    (row : List Json) :
    state.plannedStep sheet appended row =
      (RowRange.ofRow sheet (state.plannedTarget appended row) row.length).map
        fun range => (⟨state.keys, cursorAfter state.cursor appended⟩, ⟨sheet, range, row⟩) := by
  unfold plannedStep
  rw [RowRange.ofRow_eq]
  by_cases below : state.plannedTarget appended row < 1
  · simp [below, Except.map]
  · by_cases long : RowRange.rowLimit ≤ state.plannedTarget appended row
    · simp [below, long, Except.map]
    · simp [below, long, Except.map]

/-- One step: the row goes to the row after its first match, or after the cursor. -/
theorem planRow_eq (state : SheetState) (sheet : String) (row : List Json) :
    state.planRow sheet row =
      match state.find? (keyOf row) with
      | some index => (RowRange.ofRow sheet (index + 1) row.length).map
          fun range => (state, ⟨sheet, range, row⟩)
      | none => (RowRange.ofRow sheet (state.cursor + 1) row.length).map
          fun range => (state.advance, ⟨sheet, range, row⟩) := by
  unfold planRow target
  cases state.find? (keyOf row) with
  | some index =>
      dsimp only
      cases RowRange.ofRow sheet (index + 1) row.length <;> rfl
  | none =>
      dsimp only
      cases RowRange.ofRow sheet (state.cursor + 1) row.length <;> rfl

/-- A matched row planned from any cursor is the closed-form step. -/
private theorem planRow_matched {keys : List Json} {cursor : Int} {row : List Json}
    {index : Nat} (sheet : String) (appended : Nat)
    (found : (SheetState.mk keys cursor).find? (keyOf row) = some index) :
    (SheetState.mk keys (cursorAfter cursor appended)).planRow sheet row =
      (SheetState.mk keys cursor).plannedStep sheet appended row := by
  have foundAfter : (SheetState.mk keys (cursorAfter cursor appended)).find? (keyOf row) =
      some index := by
    rw [find?_keys keys _ cursor, found]
  rw [planRow_eq, foundAfter, plannedStep_eq_map]
  simp only [plannedTarget, found]

/-- An unmatched row planned from the cursor after `seen` unmatched rows is the closed-form
step that counts it as one more. -/
private theorem planRow_unmatched {keys : List Json} {cursor : Int} {row : List Json}
    (sheet : String) (seen : Nat)
    (absent : (SheetState.mk keys cursor).find? (keyOf row) = none) :
    (SheetState.mk keys (cursorAfter cursor seen)).planRow sheet row =
      (SheetState.mk keys cursor).plannedStep sheet (seen + 1) row := by
  have absentAfter : (SheetState.mk keys (cursorAfter cursor seen)).find? (keyOf row) = none := by
    rw [find?_keys keys _ cursor, absent]
  have limit := one_lt_rowLimit
  rw [planRow_eq, absentAfter, plannedStep_eq_map]
  simp only [plannedTarget, absent, advance]
  by_cases negative : cursor < 0
  · have stuck : cursorAfter cursor seen = cursor := by simp [cursorAfter, negative]
    rw [stuck, if_pos negative, RowRange.ofRow_eq, if_pos (by omega)]
    rfl
  · by_cases fits : cursor + (seen + 1 : Nat) < RowRange.rowLimit
    · have moved : cursorAfter cursor seen = cursor + seen := by
        unfold cursorAfter
        rw [if_neg negative]
        omega
      have movedOn : cursorAfter cursor (seen + 1) = cursor + (seen + 1 : Nat) := by
        unfold cursorAfter
        rw [if_neg negative]
        omega
      have sameTarget : cursor + seen + 1 = cursor + ((seen + 1 : Nat) : Int) := by omega
      rw [moved, movedOn, if_neg negative, sameTarget]
    · have clamped : RowRange.rowLimit ≤ cursorAfter cursor seen + 1 := by
        unfold cursorAfter
        rw [if_neg negative]
        omega
      rw [if_neg negative, RowRange.ofRow_eq, RowRange.ofRow_eq, if_neg (by omega),
        if_pos clamped, if_neg (by omega), if_pos (by omega)]
      rfl

/-- A refused row leaves the cursor where the closed form has it after the row. -/
private theorem cursorAfter_of_refused {keys : List Json} {cursor : Int} {row : List Json}
    {sheet : String} {seen : Nat} {refusal : SheetError}
    (refused : (SheetState.mk keys cursor).plannedStep sheet
      (seen + if (SheetState.mk keys cursor).unmatched row then 1 else 0) row = .error refusal) :
    cursorAfter cursor (seen + if (SheetState.mk keys cursor).unmatched row then 1 else 0) =
      cursorAfter cursor seen := by
  have limit := one_lt_rowLimit
  unfold unmatched at refused ⊢
  cases found : (SheetState.mk keys cursor).find? (keyOf row) with
  | some index => simp
  | none =>
      simp only [found, Option.isNone_none, if_true] at refused ⊢
      unfold cursorAfter
      by_cases negative : cursor < 0
      · simp [negative]
      · have long : RowRange.rowLimit ≤ cursor + (seen + 1 : Nat) := by
          apply Classical.byContradiction
          intro short
          have notBelow : ¬ (cursor + ((seen : Int) + 1) < 1) := by omega
          have fits : ¬ (RowRange.rowLimit ≤ cursor + ((seen : Int) + 1)) := by omega
          simp [plannedStep, plannedTarget, found, negative, notBelow, fits] at refused
        rw [if_neg negative, if_neg negative]
        omega

/-- Planning from the cursor after `seen` unmatched rows gives, at each position, the closed-form
step counting `seen` more unmatched rows. -/
theorem planSteps_after (keys : List Json) (cursor : Int) (sheet : String) :
    ∀ (rows : List (List Json)) (seen : Nat),
      (SheetState.mk keys (cursorAfter cursor seen)).planSteps sheet rows =
        rows.mapIdx fun position row =>
          (SheetState.mk keys cursor).plannedStep sheet
            (seen + (SheetState.mk keys cursor).unmatchedThrough rows position) row := by
  intro rows
  induction rows with
  | nil => intro seen; rfl
  | cons row rest ih =>
      intro seen
      have step : (SheetState.mk keys (cursorAfter cursor seen)).planRow sheet row =
          (SheetState.mk keys cursor).plannedStep sheet
            (seen + if (SheetState.mk keys cursor).unmatched row then 1 else 0) row := by
        unfold unmatched
        cases found : (SheetState.mk keys cursor).find? (keyOf row) with
        | some index => simpa using planRow_matched sheet seen found
        | none => simpa using planRow_unmatched sheet seen found
      have shifted : ∀ position,
          seen + (SheetState.mk keys cursor).unmatchedThrough (row :: rest) (position + 1) =
            (seen + if (SheetState.mk keys cursor).unmatched row then 1 else 0) +
              (SheetState.mk keys cursor).unmatchedThrough rest position := by
        intro position
        rw [unmatchedThrough_cons_succ]
        omega
      rw [planSteps, step, List.mapIdx_cons, unmatchedThrough_cons_zero]
      simp only [shifted]
      cases planned : (SheetState.mk keys cursor).plannedStep sheet
          (seen + if (SheetState.mk keys cursor).unmatched row then 1 else 0) row with
      | ok result =>
          rw [plannedStep_eq_map] at planned
          obtain ⟨range, -, produced⟩ := map_eq_ok.mp planned
          subst produced
          simp [ih]
      | error refusal =>
          have rest := ih (seen + if (SheetState.mk keys cursor).unmatched row then 1 else 0)
          rw [cursorAfter_of_refused planned] at rest
          simp [rest]

/-- Planning a list of rows gives, at each position, the closed-form step of its row. -/
theorem planSteps_eq_mapIdx (state : SheetState) (sheet : String) (rows : List (List Json)) :
    state.planSteps sheet rows =
      rows.mapIdx fun position row =>
        state.plannedStep sheet (state.unmatchedThrough rows position) row := by
  obtain ⟨keys, cursor⟩ := state
  have fromStart := planSteps_after keys cursor sheet rows 0
  simpa only [cursorAfter_zero, Nat.zero_add] using fromStart

/-- Planning a sheet stops at the first refused step of the fold. -/
theorem planAll_eq_mapM (state : SheetState) (sheet : String) (rows : List (List Json)) :
    state.planAll sheet rows = (state.planSteps sheet rows).mapM (·.map Prod.snd) := by
  induction rows generalizing state with
  | nil => rfl
  | cons row rest ih =>
      simp only [planAll, planSteps]
      cases state.planRow sheet row with
      | error refusal => rfl
      | ok result =>
          obtain ⟨next, write⟩ := result
          simp only [List.mapM_cons, ← ih next]
          cases next.planAll sheet rest <;> rfl

/-- Planning a list of rows, step by step, in closed form: the `position`-th step is the
closed-form step of its row, counting the unmatched rows up to and including it; and planning a
sheet is this fold from the state its key column gives, stopped at the first refused row. -/
theorem planSteps_closed_form (state : SheetState) (sheet : String) (rows : List (List Json)) :
    state.planSteps sheet rows =
        rows.mapIdx (fun position row =>
          state.plannedStep sheet (state.unmatchedThrough rows position) row) ∧
      ∀ column : Option (List (List Json)),
        planSheet sheet column rows =
          ((SheetState.ofColumn column).planSteps sheet rows).mapM (·.map Prod.snd) := by
  exact ⟨planSteps_eq_mapIdx state sheet rows,
    fun column => planAll_eq_mapM (SheetState.ofColumn column) sheet rows⟩

/-- An unmatched row is refused although its target is at least one: the cursor is one below a
row number of 4301 digits. -/
theorem planRow_refuses_target_past_limit :
    ¬ (RowRange.rowLimit - 1 + 1 < 1) ∧
      (SheetState.mk [] (RowRange.rowLimit - 1)).planRow "s" [.str "b"] =
        .error (.numeral .tooLongToWrite) := by
  have limit := one_lt_rowLimit
  refine ⟨by omega, ?_⟩
  have absent : (SheetState.mk [] (RowRange.rowLimit - 1)).find? (keyOf [.str "b"]) = none := rfl
  have target : (SheetState.mk [] (RowRange.rowLimit - 1)).cursor + 1 = RowRange.rowLimit := by
    simp
  rw [planRow_eq, absent]
  dsimp only
  rw [target, RowRange.ofRow_eq, if_neg (by omega), if_pos (Int.le_refl _)]
  rfl

end SheetState

end SheetExport
