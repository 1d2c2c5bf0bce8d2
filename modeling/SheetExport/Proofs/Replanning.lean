import Mathlib
import SheetExport.Proofs.CellEquality
import SheetExport.Proofs.PlanningClosedForm

/-!
# Planning again against the written sheet

A batch of row writes is planned against the key column of a sheet, written, and the key column
read again. Planning the same rows against what was read gives the same batch once more: every
row now finds the row it was written to, nothing is appended, and writing the batch again
changes nothing. This holds for rows whose keys are present, each equal to itself and no two
equal, against a sheet whose keys are well-formed documents, and whether the sheet keeps each
key as written or, as a spreadsheet does, as its text, when the keys are texts.

A key column is modelled as the store sees it: a write pads the column with blank rows up to
its row and leaves in that row the cell the store keeps of the write's first value
(`KeyColumn.writeAll`). The argument has three parts. The writes of one batch go to distinct
rows: two matched rows at one sheet row would have keys equal to one sheet key, and so equal
(`Json.WellFormed.looseEq_euclid`), and appended rows come after the sheet, one row each. Then
each row of the written column holds the key last written to it, or its old key, or a blank.
Last, for each row of the batch nothing before its written row can match its key: a row written
by another key holds a key it does not equal, and an old key before it did not match the first
time either.
-/

namespace SheetExport

namespace KeyColumn

/-- The column with a cell put at a row counted from one: padded with blank rows up to that row,
which then holds the cell alone. -/
def put (column : List (List Json)) (row : Nat) (cell : Json) : List (List Json) :=
  (column ++ List.replicate (row - column.length) [Json.str ""]).set (row - 1) [cell]

/-- The column after one write, as a store that keeps `store` of the write's first value sees
it; a row below one cannot be written. -/
def write (store : Json → Json) (column : List (List Json)) (rowWrite : RowWrite) :
    Except SheetError (List (List Json)) := do
  let row ← rowWrite.rowNumber
  if row < 1 then throw .rowBelowOne
  pure (put column row.toNat (store (rowWrite.values.headD (.str ""))))

/-- The column after the writes of a batch, in order. -/
def writeAll (store : Json → Json) (column : List (List Json)) (writes : List RowWrite) :
    Except SheetError (List (List Json)) :=
  writes.foldlM (write store) column

/-- The cell a spreadsheet keeps of a written value: its text. -/
def keptText (value : Json) : Json := .str value.text

theorem getElem?_put (column : List (List Json)) {row : Nat} (cell : Json) (positive : 1 ≤ row)
    (position : Nat) :
    (put column row cell)[position]? =
      if position + 1 = row then some [cell]
      else if position < column.length then column[position]?
      else if position < row then some [Json.str ""] else none := by
  unfold put
  rw [List.getElem?_set]
  by_cases here : row - 1 = position
  · rw [if_pos here, if_pos (by simp; omega), if_pos (by omega)]
  · rw [if_neg here, if_neg (by omega)]
    by_cases inside : position < column.length
    · rw [List.getElem?_append_left inside, if_pos inside]
    · rw [List.getElem?_append_right (by omega), List.getElem?_replicate, if_neg inside]
      by_cases below : position < row
      · rw [if_pos (by omega), if_pos below]
      · rw [if_neg (by omega), if_neg below]

theorem length_put (column : List (List Json)) (row : Nat) (cell : Json) :
    (put column row cell).length = max column.length row := by
  simp only [put, List.length_set, List.length_append, List.length_replicate]
  omega

/-- Putting a row's own cell back leaves the column as it is. -/
theorem put_of_getElem? {column : List (List Json)} {row : Nat} {cell : Json} (positive : 1 ≤ row)
    (holds : column[row - 1]? = some [cell]) : put column row cell = column := by
  have inside : row - 1 < column.length := (List.getElem?_eq_some_iff.1 holds).1
  apply List.ext_getElem?
  intro position
  rw [getElem?_put column cell positive]
  by_cases here : position + 1 = row
  · rw [if_pos here, ← holds]
    congr 1
    omega
  · rw [if_neg here]
    by_cases below : position < column.length
    · rw [if_pos below]
    · rw [if_neg below, if_neg (by omega), List.getElem?_eq_none (by omega)]

theorem write_eq_ok {store : Json → Json} {column : List (List Json)} {rowWrite : RowWrite}
    {result : List (List Json)} :
    write store column rowWrite = .ok result ↔ ∃ row : Int, rowWrite.rowNumber = .ok row ∧
      1 ≤ row ∧ result = put column row.toNat (store (rowWrite.values.headD (.str ""))) := by
  unfold write
  cases rowWrite.rowNumber with
  | error refusal => simp [bind, Except.bind]
  | ok row =>
      by_cases below : row < 1
      · simp [bind, Except.bind, below, throw, throwThe, MonadExceptOf.throw]
      · simp [bind, Except.bind, below, pure, Except.pure, eq_comm]
        omega

theorem writeAll_cons_eq_ok {store : Json → Json} {column : List (List Json)}
    {rowWrite : RowWrite} {writes : List RowWrite} {result : List (List Json)} :
    writeAll store column (rowWrite :: writes) = .ok result ↔
      ∃ next, write store column rowWrite = .ok next ∧ writeAll store next writes = .ok result := by
  simp only [writeAll, List.foldlM_cons]
  exact bind_eq_ok

/-- A row no write of a batch addresses keeps what it held. -/
theorem writeAll_frame {store : Json → Json} {position : Nat} :
    ∀ {column : List (List Json)} {writes : List RowWrite} {result : List (List Json)},
      writeAll store column writes = .ok result →
      (∀ rowWrite ∈ writes, rowWrite.rowNumber ≠ .ok ((position : Int) + 1)) →
      position < column.length → result[position]? = column[position]? := by
  intro column writes
  induction writes generalizing column with
  | nil =>
      intro result written _ _
      simp only [writeAll, List.foldlM_nil, pure, Except.pure, Except.ok.injEq] at written
      rw [written]
  | cons rowWrite rest ih =>
      intro result written untouched inside
      obtain ⟨next, step, later⟩ := writeAll_cons_eq_ok.1 written
      obtain ⟨row, numbered, positive, rfl⟩ := write_eq_ok.1 step
      have elsewhere : position + 1 ≠ row.toNat := by
        intro same
        apply untouched rowWrite List.mem_cons_self
        have value : row = (position : Int) + 1 := by omega
        rw [numbered, value]
      rw [ih later (fun other member => untouched other (List.mem_cons_of_mem _ member))
        (by rw [length_put]; omega), getElem?_put _ _ (by omega), if_neg elsewhere, if_pos inside]

/-- Every row of the written column holds the cell of a write that addressed it, or what it
held before, or a blank. -/
theorem writeAll_provenance {store : Json → Json} {position : Nat} {cells : List Json} :
    ∀ {column : List (List Json)} {writes : List RowWrite} {result : List (List Json)},
      writeAll store column writes = .ok result → result[position]? = some cells →
      (∃ rowWrite ∈ writes, rowWrite.rowNumber = .ok ((position : Int) + 1) ∧
          cells = [store (rowWrite.values.headD (.str ""))]) ∨
        column[position]? = some cells ∨ cells = [.str ""] := by
  intro column writes
  induction writes generalizing column with
  | nil =>
      intro result written held
      simp only [writeAll, List.foldlM_nil, pure, Except.pure, Except.ok.injEq] at written
      subst written
      exact .inr (.inl held)
  | cons rowWrite rest ih =>
      intro result written held
      obtain ⟨next, step, later⟩ := writeAll_cons_eq_ok.1 written
      obtain ⟨row, numbered, positive, rfl⟩ := write_eq_ok.1 step
      rcases ih later held with ⟨other, member, addressed, kept⟩ | before | blank
      · exact .inl ⟨other, List.mem_cons_of_mem _ member, addressed, kept⟩
      · rw [getElem?_put _ _ (by omega)] at before
        by_cases here : position + 1 = row.toNat
        · rw [if_pos here, Option.some.injEq] at before
          have value : row = (position : Int) + 1 := by omega
          exact .inl ⟨rowWrite, List.mem_cons_self, by rw [numbered, value], before.symm⟩
        · rw [if_neg here] at before
          by_cases inside : position < column.length
          · rw [if_pos inside] at before
            exact .inr (.inl before)
          · rw [if_neg inside] at before
            by_cases padded : position < row.toNat
            · rw [if_pos padded, Option.some.injEq] at before
              exact .inr (.inr before.symm)
            · rw [if_neg padded] at before
              cases before
      · exact .inr (.inr blank)

/-- When no two writes of a batch address one row, each row written holds its write's cell. -/
theorem writeAll_written {store : Json → Json} {rowWrite : RowWrite} {row : Int} :
    ∀ {column : List (List Json)} {writes : List RowWrite} {result : List (List Json)},
      writeAll store column writes = .ok result → (writes.map RowWrite.rowNumber).Nodup →
      rowWrite ∈ writes → rowWrite.rowNumber = .ok row →
      result[(row - 1).toNat]? = some [store (rowWrite.values.headD (.str ""))] := by
  intro column writes
  induction writes generalizing column with
  | nil => intro result _ _ member; cases member
  | cons first rest ih =>
      intro result written distinct member numbered
      obtain ⟨next, step, later⟩ := writeAll_cons_eq_ok.1 written
      obtain ⟨firstRow, firstNumbered, positive, rfl⟩ := write_eq_ok.1 step
      rw [List.map_cons, List.nodup_cons] at distinct
      rcases List.mem_cons.1 member with rfl | other
      · have same : firstRow = row := by
          rw [firstNumbered] at numbered
          exact Except.ok.inj numbered
        subst same
        have untouched : ∀ other ∈ rest,
            other.rowNumber ≠ .ok (((firstRow - 1).toNat : Nat) + 1 : Int) := by
          intro other member addressed
          have value : (((firstRow - 1).toNat : Nat) + 1 : Int) = firstRow := by omega
          apply distinct.1
          rw [List.mem_map]
          exact ⟨other, member, by rw [addressed, firstNumbered, value]⟩
        rw [writeAll_frame later untouched (by rw [length_put]; omega),
          getElem?_put _ _ (by omega), if_pos (by omega)]
      · exact ih later distinct.2 other numbered

/-- Writing cells the column already holds leaves it as it is. -/
theorem writeAll_of_held {store : Json → Json} {column : List (List Json)} :
    ∀ {writes : List RowWrite},
      (∀ rowWrite ∈ writes, ∃ row : Int, rowWrite.rowNumber = .ok row ∧ 1 ≤ row ∧
        column[(row - 1).toNat]? = some [store (rowWrite.values.headD (.str ""))]) →
      writeAll store column writes = .ok column := by
  intro writes
  induction writes with
  | nil => intro _; rfl
  | cons rowWrite rest ih =>
      intro held
      obtain ⟨row, numbered, positive, holds⟩ := held rowWrite List.mem_cons_self
      have unchanged : put column row.toNat (store (rowWrite.values.headD (.str ""))) = column :=
        have index : row.toNat - 1 = (row - 1).toNat := by omega
        put_of_getElem? (by omega) (by rw [index, holds])
      apply writeAll_cons_eq_ok.2
      refine ⟨column, write_eq_ok.2 ⟨row, numbered, positive, unchanged.symm⟩, ?_⟩
      exact ih fun other member => held other (List.mem_cons_of_mem _ member)

/-- A batch whose writes all address rows from one on can be written. -/
theorem writeAll_exists {store : Json → Json} :
    ∀ {column : List (List Json)} {writes : List RowWrite},
      (∀ rowWrite ∈ writes, ∃ row : Int, rowWrite.rowNumber = .ok row ∧ 1 ≤ row) →
      ∃ result, writeAll store column writes = .ok result := by
  intro column writes
  induction writes generalizing column with
  | nil => intro _; exact ⟨column, rfl⟩
  | cons rowWrite rest ih =>
      intro addressed
      obtain ⟨row, numbered, positive⟩ := addressed rowWrite List.mem_cons_self
      obtain ⟨result, later⟩ := @ih (put column row.toNat (store (rowWrite.values.headD (.str ""))))
        fun other member => addressed other (List.mem_cons_of_mem _ member)
      exact ⟨result, writeAll_cons_eq_ok.2 ⟨_, write_eq_ok.2 ⟨row, numbered, positive, rfl⟩, later⟩⟩

end KeyColumn

/-- The keys of a batch that can be planned twice: each present, each equal to itself, and no
two equal, compared either way. -/
structure DistinctKeys (rows : List (List Json)) : Prop where
  present : ∀ row ∈ rows, isBlankKey (keyOf row) = false
  reflexive : ∀ row ∈ rows, (keyOf row).looseEq (keyOf row) = true
  distinct : rows.Pairwise fun row other =>
    (keyOf row).looseEq (keyOf other) = false ∧ (keyOf other).looseEq (keyOf row) = false

theorem DistinctKeys.looseEq_eq_false {rows : List (List Json)} (keys : DistinctKeys rows)
    {first second : Nat} {row other : List Json} (atFirst : rows[first]? = some row)
    (atSecond : rows[second]? = some other) (differ : first ≠ second) :
    (keyOf row).looseEq (keyOf other) = false := by
  obtain ⟨firstBound, rfl⟩ := List.getElem?_eq_some_iff.1 atFirst
  obtain ⟨secondBound, rfl⟩ := List.getElem?_eq_some_iff.1 atSecond
  rcases Nat.lt_or_gt_of_ne differ with before | after
  · exact (List.pairwise_iff_getElem.1 keys.distinct first second firstBound secondBound before).1
  · exact (List.pairwise_iff_getElem.1 keys.distinct second first secondBound firstBound after).2

theorem keyOf_ne_null (row : List Json) : keyOf row ≠ .null := by
  unfold keyOf
  split <;> simp_all

theorem keyOf_singleton {key : Json} (notNull : key ≠ .null) : keyOf [key] = key := by
  cases key <;> simp_all [keyOf]

/-- A row with a present key begins with its key. -/
theorem headD_eq_keyOf {row : List Json} (present : isBlankKey (keyOf row) = false) :
    row.headD (.str "") = keyOf row := by
  cases row with
  | nil => simp [keyOf, isBlankKey] at present
  | cons first rest => cases first <;> simp_all [keyOf, isBlankKey]

/-- A mapping over an indexed list that succeeds gives, at each position, the image of the
item there. -/
private theorem mapM_mapIdx_eq_ok {α γ β ε : Type} {f : Nat → α → γ} {g : γ → Except ε β}
    {items : List α} {results : List β} (mapped : (items.mapIdx f).mapM g = .ok results)
    (position : Nat) :
    results[position]?.map Except.ok = items[position]?.map fun item => g (f position item) := by
  induction items generalizing f results position with
  | nil =>
      simp only [List.mapIdx_nil, List.mapM_nil, pure, Except.pure, Except.ok.injEq] at mapped
      simp [← mapped]
  | cons item rest ih =>
      rw [List.mapIdx_cons] at mapped
      obtain ⟨value, others, first, later, rfl⟩ := mapM_cons_eq_ok.mp mapped
      cases position with
      | zero => simp [first]
      | succ position => simpa using ih later position

namespace SheetState

theorem find?_eq_some_iff (state : SheetState) (key : Json) (index : Nat) :
    state.find? key = some index ↔
      (∃ existing, state.keys[index]? = some existing ∧
        (!isBlankKey existing && existing.looseEq key) = true) ∧
      ∀ earlier < index, ∀ existing, state.keys[earlier]? = some existing →
        (!isBlankKey existing && existing.looseEq key) = false := by
  rw [find?, List.findIdx?_eq_some_iff_getElem]
  constructor
  · rintro ⟨bound, matched, before⟩
    refine ⟨⟨_, List.getElem?_eq_getElem bound, matched⟩, ?_⟩
    intro earlier earlierBefore existing atEarlier
    obtain ⟨earlierBound, rfl⟩ := List.getElem?_eq_some_iff.1 atEarlier
    simpa using before earlier earlierBefore
  · rintro ⟨⟨existing, atIndex, matched⟩, before⟩
    obtain ⟨bound, rfl⟩ := List.getElem?_eq_some_iff.1 atIndex
    refine ⟨bound, matched, ?_⟩
    intro earlier earlierBefore
    simpa using before earlier earlierBefore _ (List.getElem?_eq_getElem (by omega))

theorem find?_eq_none_iff (state : SheetState) (key : Json) :
    state.find? key = none ↔
      ∀ existing ∈ state.keys, (!isBlankKey existing && existing.looseEq key) = false := by
  rw [find?, List.findIdx?_eq_none_iff]

/-- The row that the row at `position` of a batch goes to. -/
def targetAt (state : SheetState) (rows : List (List Json)) (position : Nat) (row : List Json) :
    Int :=
  state.plannedTarget (state.unmatchedThrough rows position) row

/-- The write planned for the row at `position` of a batch. -/
def writeAt (state : SheetState) (sheet : String) (rows : List (List Json)) (position : Nat)
    (row : List Json) : RowWrite :=
  ⟨sheet, RowRange.render sheet (state.targetAt rows position row) (max (row.length : Int) 1).toNat,
    row⟩

theorem targetAt_of_found {state : SheetState} {rows : List (List Json)} {position : Nat}
    {row : List Json} {index : Nat} (found : state.find? (keyOf row) = some index) :
    state.targetAt rows position row = index + 1 := by
  simp [targetAt, plannedTarget, found]

theorem targetAt_of_absent {state : SheetState} {rows : List (List Json)} {position : Nat}
    {row : List Json} (absent : state.find? (keyOf row) = none) (nonnegative : 0 ≤ state.cursor) :
    state.targetAt rows position row = state.cursor + state.unmatchedThrough rows position := by
  simp [targetAt, plannedTarget, absent, not_lt.2 nonnegative]

/-- The unmatched rows up to an unmatched row are those before it and the row itself. -/
theorem unmatchedThrough_of_unmatched {state : SheetState} {rows : List (List Json)}
    {position : Nat} {row : List Json} (atPosition : rows[position]? = some row)
    (unmatchedRow : state.unmatched row = true) :
    state.unmatchedThrough rows position = (rows.take position).countP state.unmatched + 1 := by
  rw [unmatchedThrough, List.take_add_one, atPosition, Option.toList_some, List.countP_append,
    List.countP_singleton, if_pos unmatchedRow]

/-- Counting up to an unmatched row counts more than counting up to any row before it. -/
theorem unmatchedThrough_lt {state : SheetState} {rows : List (List Json)} {earlier position : Nat}
    {row : List Json} (before : earlier < position) (atPosition : rows[position]? = some row)
    (unmatchedRow : state.unmatched row = true) :
    state.unmatchedThrough rows earlier < state.unmatchedThrough rows position := by
  rw [unmatchedThrough_of_unmatched atPosition unmatchedRow]
  have shorter : (rows.take (earlier + 1)).countP state.unmatched ≤
      (rows.take position).countP state.unmatched :=
    (List.take_sublist_take_left (by omega)).countP_le
  rw [unmatchedThrough]
  omega

/-- A matched row goes to a row of the sheet, an unmatched one past them. -/
theorem targetAt_le_length_iff (column : List (List Json)) {rows : List (List Json)}
    {position : Nat} {row : List Json} (atPosition : rows[position]? = some row) :
    (ofColumn (some column)).targetAt rows position row ≤ column.length ↔
      (ofColumn (some column)).find? (keyOf row) ≠ none := by
  cases found : (ofColumn (some column)).find? (keyOf row) with
  | some index =>
      obtain ⟨⟨existing, atIndex, -⟩, -⟩ := (find?_eq_some_iff _ _ _).1 found
      have inside : index < column.length := by
        simpa [ofColumn] using (List.getElem?_eq_some_iff.1 atIndex).1
      rw [targetAt_of_found found]
      simp only [ne_eq, reduceCtorEq, not_false_eq_true, iff_true]
      omega
  | none =>
      have counted := unmatchedThrough_of_unmatched atPosition
        (show (ofColumn (some column)).unmatched row = true by simp [unmatched, found])
      have cursor : (ofColumn (some column)).cursor = column.length := rfl
      rw [targetAt_of_absent found (by simp [ofColumn]), cursor]
      simp only [ne_eq, not_true_eq_false, iff_false, not_le]
      omega

/-- No two rows of a batch are planned to one row, when the keys of the sheet are well formed:
two matched rows at one sheet key would have keys equal to it, and so to each other, and the
unmatched rows take one new row each. -/
theorem targetAt_injective {column rows : List (List Json)}
    (sheetKeys : ∀ row ∈ column, (keyOf row).WellFormed) (keys : DistinctKeys rows)
    {first second : Nat} {row other : List Json} (atFirst : rows[first]? = some row)
    (atSecond : rows[second]? = some other)
    (same : (ofColumn (some column)).targetAt rows first row =
      (ofColumn (some column)).targetAt rows second other) : first = second := by
  by_contra differ
  have rowSide := targetAt_le_length_iff column atFirst
  have otherSide := targetAt_le_length_iff column atSecond
  cases foundRow : (ofColumn (some column)).find? (keyOf row) with
  | some index =>
      cases foundOther : (ofColumn (some column)).find? (keyOf other) with
      | some otherIndex =>
          rw [targetAt_of_found foundRow, targetAt_of_found foundOther] at same
          have sameIndex : index = otherIndex := by omega
          subst sameIndex
          obtain ⟨⟨existing, atIndex, matchesRow⟩, -⟩ := (find?_eq_some_iff _ _ _).1 foundRow
          obtain ⟨⟨existing', atIndex', matchesOther⟩, -⟩ := (find?_eq_some_iff _ _ _).1 foundOther
          rw [atIndex, Option.some.injEq] at atIndex'
          subst atIndex'
          have wellFormed : existing.WellFormed := by
            obtain ⟨sheetRow, member, rfl⟩ :=
              List.mem_map.1 (List.mem_of_getElem? (by simpa [ofColumn] using atIndex))
            exact sheetKeys sheetRow member
          simp only [Bool.and_eq_true] at matchesRow matchesOther
          have equal := wellFormed.looseEq_euclid matchesRow.2 matchesOther.2
          rw [keys.looseEq_eq_false atFirst atSecond differ] at equal
          cases equal
      | none =>
          have inside := rowSide.2 (by simp [foundRow])
          have outside := mt otherSide.1 (by simp [foundOther])
          omega
  | none =>
      cases foundOther : (ofColumn (some column)).find? (keyOf other) with
      | some otherIndex =>
          have outside := mt rowSide.1 (by simp [foundRow])
          have inside := otherSide.2 (by simp [foundOther])
          omega
      | none =>
          rw [targetAt_of_absent foundRow (by simp [ofColumn]),
            targetAt_of_absent foundOther (by simp [ofColumn])] at same
          rcases Nat.lt_or_gt_of_ne differ with before | after
          · have := unmatchedThrough_lt before atSecond
              (show (ofColumn (some column)).unmatched other = true by simp [unmatched, foundOther])
            omega
          · have := unmatchedThrough_lt after atFirst
              (show (ofColumn (some column)).unmatched row = true by simp [unmatched, foundRow])
            omega

theorem rowNumber_writeAt {state : SheetState} {sheet : String} {rows : List (List Json)}
    {position : Nat} {row : List Json} (positive : 1 ≤ state.targetAt rows position row)
    (short : state.targetAt rows position row < RowRange.rowLimit) :
    (state.writeAt sheet rows position row).rowNumber = .ok (state.targetAt rows position row) :=
  RowRange.rowOf_render sheet _ positive short

/-- A plan that succeeds writes each row to its target, and every target can be written. -/
theorem planAll_eq_ok {state : SheetState} {sheet : String} {rows : List (List Json)}
    {writes : List RowWrite} (planned : state.planAll sheet rows = .ok writes) :
    writes = rows.mapIdx (state.writeAt sheet rows) ∧
      ∀ position row, rows[position]? = some row →
        1 ≤ state.targetAt rows position row ∧ state.targetAt rows position row < RowRange.rowLimit := by
  rw [planAll_eq_mapM, planSteps_eq_mapIdx] at planned
  have each := mapM_mapIdx_eq_ok planned
  have stepped : ∀ position row write,
      (state.plannedStep sheet (state.unmatchedThrough rows position) row).map Prod.snd =
        .ok write →
      write = state.writeAt sheet rows position row ∧ 1 ≤ state.targetAt rows position row ∧
        state.targetAt rows position row < RowRange.rowLimit := by
    intro position row write succeeded
    simp only [plannedStep] at succeeded
    split_ifs at succeeded with below long
    · simp [Except.map] at succeeded
    · simp [Except.map] at succeeded
    · simp only [Except.map, Except.ok.injEq] at succeeded
      exact ⟨succeeded.symm, by unfold targetAt; omega, by unfold targetAt; omega⟩
  have found : ∀ position row, rows[position]? = some row → ∃ write,
      writes[position]? = some write ∧ write = state.writeAt sheet rows position row ∧
        1 ≤ state.targetAt rows position row ∧
        state.targetAt rows position row < RowRange.rowLimit := by
    intro position row atRow
    have atPosition := each position
    rw [atRow] at atPosition
    cases atWrite : writes[position]? with
    | none => simp [atWrite] at atPosition
    | some write =>
        simp only [atWrite, Option.map_some, Option.some.injEq] at atPosition
        exact ⟨write, rfl, stepped position row write atPosition.symm⟩
  constructor
  · rw [eq_comm, List.mapIdx_eq_iff]
    intro position
    cases atRow : rows[position]? with
    | none =>
        have atPosition := each position
        rw [atRow] at atPosition
        simpa using atPosition
    | some row =>
        obtain ⟨write, atWrite, rfl, -⟩ := found position row atRow
        simp [atWrite]
  · intro position row atRow
    obtain ⟨write, -, -, bounds⟩ := found position row atRow
    exact bounds

/-- No two writes of a plan address one row. -/
theorem rowNumbers_nodup {sheet : String} {column rows : List (List Json)}
    {writes : List RowWrite} (sheetKeys : ∀ row ∈ column, (keyOf row).WellFormed)
    (keys : DistinctKeys rows) (planned : planSheet sheet (some column) rows = .ok writes) :
    (writes.map RowWrite.rowNumber).Nodup := by
  obtain ⟨writesEq, inRange⟩ := planAll_eq_ok planned
  rw [List.nodup_iff_getElem?_ne_getElem?]
  intro first second before bound
  have bound' : second < rows.length := by simpa [writesEq] using bound
  obtain ⟨other, atSecond⟩ : ∃ other, rows[second]? = some other :=
    ⟨_, List.getElem?_eq_getElem bound'⟩
  obtain ⟨row, atFirst⟩ : ∃ row, rows[first]? = some row :=
    ⟨_, List.getElem?_eq_getElem (by omega)⟩
  obtain ⟨positive, short⟩ := inRange first row atFirst
  obtain ⟨positive', short'⟩ := inRange second other atSecond
  rw [writesEq, List.getElem?_map, List.getElem?_map, List.getElem?_mapIdx,
    List.getElem?_mapIdx, atFirst, atSecond]
  simp only [Option.map_some, ne_eq, Option.some.injEq]
  rw [rowNumber_writeAt positive short, rowNumber_writeAt positive' short']
  intro same
  have := targetAt_injective sheetKeys keys atFirst atSecond (Except.ok.inj same)
  omega

/-- Each write of a plan is the planned write of some row of the batch. -/
theorem mem_planned {state : SheetState} {sheet : String} {rows : List (List Json)}
    {writes : List RowWrite} (writesEq : writes = rows.mapIdx (state.writeAt sheet rows))
    {rowWrite : RowWrite} (member : rowWrite ∈ writes) :
    ∃ position row, rows[position]? = some row ∧ rowWrite = state.writeAt sheet rows position row := by
  obtain ⟨position, atPosition⟩ := List.mem_iff_getElem?.1 member
  rw [writesEq, List.getElem?_mapIdx] at atPosition
  obtain ⟨row, atRow, planned⟩ := Option.map_eq_some_iff.1 atPosition
  exact ⟨position, row, atRow, planned.symm⟩

end SheetState

/-- What planning again against the written key column gives: writing the batch to the column
succeeds; planning the rows again gives the same batch, each row finding its row, so that no
step appends or moves the cursor off the end of the written column; and writing the batch once
more leaves the column as it is. -/
def Replans (store : Json → Json) (sheet : String) (column : List (List Json))
    (rows : List (List Json)) (writes : List RowWrite) : Prop :=
  ∃ written, KeyColumn.writeAll store column writes = .ok written ∧
    planSheet sheet (some written) rows = .ok writes ∧
    (∀ row ∈ rows, ((SheetState.ofColumn (some written)).find? (keyOf row)).isSome) ∧
    (∀ step ∈ (SheetState.ofColumn (some written)).planSteps sheet rows,
      ∃ write, step = .ok (SheetState.ofColumn (some written), write)) ∧
    KeyColumn.writeAll store written writes = .ok written

section Replanning

variable {store : Json → Json} {sheet : String} {column rows written : List (List Json)}
  {writes : List RowWrite}

/-- Against the written column, each row of the batch finds the row it was written to: that row
holds its key, and every row before it holds a key it does not equal, a blank, or an old key
that did not match it the first time. -/
theorem find?_written (keys : DistinctKeys rows)
    (keeps : ∀ row ∈ rows, store (keyOf row) = keyOf row)
    (planned : planSheet sheet (some column) rows = .ok writes)
    (stored : KeyColumn.writeAll store column writes = .ok written)
    (distinctRows : (writes.map RowWrite.rowNumber).Nodup) {position : Nat} {row : List Json}
    (atPosition : rows[position]? = some row) :
    (SheetState.ofColumn (some written)).find? (keyOf row) =
      some ((SheetState.ofColumn (some column)).targetAt rows position row - 1).toNat := by
  obtain ⟨writesEq, inRange⟩ := SheetState.planAll_eq_ok planned
  have member : row ∈ rows := List.mem_of_getElem? atPosition
  obtain ⟨positive, short⟩ := inRange position row atPosition
  have writeHere : writes[position]? =
      some ((SheetState.ofColumn (some column)).writeAt sheet rows position row) := by
    rw [writesEq, List.getElem?_mapIdx, atPosition]
    rfl
  have heldHere := KeyColumn.writeAll_written stored distinctRows
    (List.mem_of_getElem? writeHere) (SheetState.rowNumber_writeAt positive short)
  simp only [SheetState.writeAt] at heldHere
  rw [headD_eq_keyOf (keys.present row member), keeps row member] at heldHere
  rw [SheetState.find?_eq_some_iff]
  refine ⟨⟨keyOf row, ?_, ?_⟩, ?_⟩
  · show (written.map keyOf)[_]? = _
    rw [List.getElem?_map, heldHere, Option.map_some, keyOf_singleton (keyOf_ne_null row)]
  · simp [keys.present row member, keys.reflexive row member]
  intro earlier before existing atEarlier
  change (written.map keyOf)[earlier]? = some existing at atEarlier
  rw [List.getElem?_map] at atEarlier
  obtain ⟨cells, atCells, rfl⟩ := Option.map_eq_some_iff.1 atEarlier
  rcases KeyColumn.writeAll_provenance stored atCells with
    ⟨other, otherMember, addressed, rfl⟩ | old | rfl
  · obtain ⟨index, otherRow, atOtherRow, rfl⟩ := SheetState.mem_planned writesEq otherMember
    have otherRowMember : otherRow ∈ rows := List.mem_of_getElem? atOtherRow
    obtain ⟨positiveOther, shortOther⟩ := inRange index otherRow atOtherRow
    rw [SheetState.rowNumber_writeAt positiveOther shortOther] at addressed
    have differ : index ≠ position := by
      rintro rfl
      rw [atPosition, Option.some.injEq] at atOtherRow
      subst atOtherRow
      have := Except.ok.inj addressed
      omega
    simp only [SheetState.writeAt]
    rw [headD_eq_keyOf (keys.present otherRow otherRowMember), keeps otherRow otherRowMember,
      keyOf_singleton (keyOf_ne_null otherRow), keys.looseEq_eq_false atOtherRow atPosition differ,
      Bool.and_false]
  · have oldKey : (SheetState.ofColumn (some column)).keys[earlier]? = some (keyOf cells) := by
      simp [SheetState.ofColumn, old]
    cases found : (SheetState.ofColumn (some column)).find? (keyOf row) with
    | some index =>
        rw [SheetState.targetAt_of_found found] at before
        exact ((SheetState.find?_eq_some_iff _ _ _).1 found).2 earlier (by omega) _ oldKey
    | none =>
        exact (SheetState.find?_eq_none_iff _ _).1 found _ (List.mem_of_getElem? oldKey)
  · simp [keyOf, isBlankKey]

/-- Against the written column every step of the plan is the first plan's write, with the
state left as it was. -/
theorem planSteps_written (sheetKeys : ∀ row ∈ column, (keyOf row).WellFormed)
    (keys : DistinctKeys rows) (keeps : ∀ row ∈ rows, store (keyOf row) = keyOf row)
    (planned : planSheet sheet (some column) rows = .ok writes)
    (stored : KeyColumn.writeAll store column writes = .ok written) :
    (SheetState.ofColumn (some written)).planSteps sheet rows =
      writes.map fun write => .ok (SheetState.ofColumn (some written), write) := by
  obtain ⟨writesEq, inRange⟩ := SheetState.planAll_eq_ok planned
  have distinctRows := SheetState.rowNumbers_nodup sheetKeys keys planned
  have found := fun position row (atPosition : rows[position]? = some row) =>
    find?_written keys keeps planned stored distinctRows atPosition
  have noneUnmatched : ∀ position,
      (SheetState.ofColumn (some written)).unmatchedThrough rows position = 0 := by
    intro position
    rw [SheetState.unmatchedThrough, List.countP_eq_zero]
    intro row member
    obtain ⟨index, atIndex⟩ := List.mem_iff_getElem?.1 (List.mem_of_mem_take member)
    simp [SheetState.unmatched, found index row atIndex]
  rw [SheetState.planSteps_eq_mapIdx, writesEq]
  apply List.ext_getElem?
  intro position
  rw [List.getElem?_mapIdx, List.getElem?_map, List.getElem?_mapIdx]
  cases atRow : rows[position]? with
  | none => rfl
  | some row =>
      obtain ⟨positive, short⟩ := inRange position row atRow
      have target : (SheetState.ofColumn (some written)).plannedTarget 0 row =
          (SheetState.ofColumn (some column)).targetAt rows position row := by
        simp only [SheetState.plannedTarget, found position row atRow]
        omega
      simp only [Option.map_some, SheetState.plannedStep, noneUnmatched, target,
        if_neg (not_lt.2 positive), if_neg (not_le.2 short), SheetState.cursorAfter_zero]
      rfl

private theorem mapM_map_ok {σ ε β : Type} (state : σ) :
    ∀ values : List β,
      (values.map fun value => (Except.ok (state, value) : Except ε (σ × β))).mapM
        (·.map Prod.snd) = .ok values
  | [] => rfl
  | value :: rest => by
      rw [List.map_cons, List.mapM_cons, mapM_map_ok state rest]
      rfl

/-- Planning again against the written column gives the same batch, for a store that keeps the
key of every row of the batch as it is. -/
theorem replans_of_keeps (sheetKeys : ∀ row ∈ column, (keyOf row).WellFormed)
    (keys : DistinctKeys rows) (keeps : ∀ row ∈ rows, store (keyOf row) = keyOf row)
    (planned : planSheet sheet (some column) rows = .ok writes) :
    Replans store sheet column rows writes := by
  obtain ⟨writesEq, inRange⟩ := SheetState.planAll_eq_ok planned
  have numbered : ∀ rowWrite ∈ writes, ∃ row : Int, rowWrite.rowNumber = .ok row ∧ 1 ≤ row := by
    intro rowWrite member
    obtain ⟨position, row, atRow, rfl⟩ := SheetState.mem_planned writesEq member
    obtain ⟨positive, short⟩ := inRange position row atRow
    exact ⟨_, SheetState.rowNumber_writeAt positive short, positive⟩
  obtain ⟨written, stored⟩ := @KeyColumn.writeAll_exists store column writes numbered
  have distinctRows := SheetState.rowNumbers_nodup sheetKeys keys planned
  have steps := planSteps_written sheetKeys keys keeps planned stored
  refine ⟨written, stored, ?_, ?_, ?_, ?_⟩
  · rw [planSheet, SheetState.planAll_eq_mapM, steps]
    exact mapM_map_ok _ writes
  · intro row member
    obtain ⟨position, atRow⟩ := List.mem_iff_getElem?.1 member
    rw [find?_written keys keeps planned stored distinctRows atRow]
    rfl
  · intro step member
    rw [steps] at member
    obtain ⟨rowWrite, -, rfl⟩ := List.mem_map.1 member
    exact ⟨rowWrite, rfl⟩
  · apply KeyColumn.writeAll_of_held
    intro rowWrite member
    obtain ⟨position, row, atRow, rfl⟩ := SheetState.mem_planned writesEq member
    obtain ⟨positive, short⟩ := inRange position row atRow
    exact ⟨_, SheetState.rowNumber_writeAt positive short, positive,
      KeyColumn.writeAll_written stored distinctRows member
        (SheetState.rowNumber_writeAt positive short)⟩

end Replanning

/-- Planning a batch again against the key column it was written to gives the same batch: for
rows whose keys are present, each equal to itself and no two equal, against a sheet whose keys
are well formed (a missing key column read as an empty one), writing the planned batch to the
column succeeds, planning the rows against the written column gives the batch again with every
row matched and the cursor left at the end of the column, and writing the batch again changes
nothing. The same holds when the sheet keeps the text of each key, if the keys are texts. -/
theorem planSheet_again_reproduces_batch (sheet : String) (column : Option (List (List Json)))
    (rows : List (List Json)) (writes : List RowWrite) (keys : DistinctKeys rows)
    (sheetKeys : ∀ row ∈ column.getD [], (keyOf row).WellFormed)
    (planned : planSheet sheet column rows = .ok writes) :
    Replans id sheet (column.getD []) rows writes ∧
      ((∀ row ∈ rows, ∃ text, keyOf row = .str text) →
        Replans KeyColumn.keptText sheet (column.getD []) rows writes) := by
  have fromRead : planSheet sheet (some (column.getD [])) rows = .ok writes := by
    cases column <;> exact planned
  refine ⟨replans_of_keeps sheetKeys keys (fun _ _ => rfl) fromRead, fun texts => ?_⟩
  apply replans_of_keeps sheetKeys keys _ fromRead
  intro row member
  obtain ⟨text, isText⟩ := texts row member
  rw [isText]
  rfl

/-- A rerun: a sheet holding a header, the key `1` and a blank row. The row keyed `1` overwrites
row 2, the others are appended after the blank row, and planning against the written column
gives these writes again. -/
theorem planSheet_again_reproduces_rerun_batch :
    DistinctKeys [[.str "1", .str "a"], [.str "2", .str "b"], [.str "3", .str "c"]] ∧
      (∀ row ∈ [[Json.str "id"], [.str "1"], [.str ""]], (keyOf row).WellFormed) ∧
      planSheet "s" (some [[.str "id"], [.str "1"], [.str ""]])
          [[.str "1", .str "a"], [.str "2", .str "b"], [.str "3", .str "c"]] =
        .ok [⟨"s", RowRange.render "s" 2 2, [.str "1", .str "a"]⟩,
          ⟨"s", RowRange.render "s" 4 2, [.str "2", .str "b"]⟩,
          ⟨"s", RowRange.render "s" 5 2, [.str "3", .str "c"]⟩] ∧
      Replans id "s" [[.str "id"], [.str "1"], [.str ""]]
          [[.str "1", .str "a"], [.str "2", .str "b"], [.str "3", .str "c"]]
          [⟨"s", RowRange.render "s" 2 2, [.str "1", .str "a"]⟩,
            ⟨"s", RowRange.render "s" 4 2, [.str "2", .str "b"]⟩,
            ⟨"s", RowRange.render "s" 5 2, [.str "3", .str "c"]⟩] ∧
      ((∀ row ∈ [[Json.str "1", .str "a"], [.str "2", .str "b"], [.str "3", .str "c"]],
          ∃ text, keyOf row = .str text) →
        Replans KeyColumn.keptText "s" [[.str "id"], [.str "1"], [.str ""]]
          [[.str "1", .str "a"], [.str "2", .str "b"], [.str "3", .str "c"]]
          [⟨"s", RowRange.render "s" 2 2, [.str "1", .str "a"]⟩,
            ⟨"s", RowRange.render "s" 4 2, [.str "2", .str "b"]⟩,
            ⟨"s", RowRange.render "s" 5 2, [.str "3", .str "c"]⟩]) := by
  have keys : DistinctKeys [[.str "1", .str "a"], [.str "2", .str "b"], [.str "3", .str "c"]] :=
    ⟨by decide, by decide, by decide⟩
  have sheetKeys : ∀ row ∈ [[Json.str "id"], [.str "1"], [.str ""]], (keyOf row).WellFormed := by
    intro row member
    simp only [List.mem_cons, List.not_mem_nil, or_false] at member
    rcases member with rfl | rfl | rfl <;> exact .str _
  have planned : planSheet "s" (some [[.str "id"], [.str "1"], [.str ""]])
      [[.str "1", .str "a"], [.str "2", .str "b"], [.str "3", .str "c"]] =
        .ok [⟨"s", RowRange.render "s" 2 2, [.str "1", .str "a"]⟩,
          ⟨"s", RowRange.render "s" 4 2, [.str "2", .str "b"]⟩,
          ⟨"s", RowRange.render "s" 5 2, [.str "3", .str "c"]⟩] := by
    rfl
  exact ⟨keys, sheetKeys, planned,
    planSheet_again_reproduces_batch "s" (some [[.str "id"], [.str "1"], [.str ""]]) _ _ keys
      sheetKeys planned⟩

end SheetExport
