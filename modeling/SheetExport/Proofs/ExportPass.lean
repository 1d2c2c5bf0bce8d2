import Mathlib
import SheetExport.Report.Export
import SheetExport.Proofs.Replanning

/-!
# One export pass, sheet by sheet

A pass keeps the failures of its sheets to themselves. Given a window for its base instant, a
store whose queries fail only as the store fails, and a service whose fetches fail only as the
service fails, a pass gives one outcome per sheet, in order: a failed query is reported in phase
`query` with no rows, a failed fetch in phase `fetch` with the rows that were read, and every
other sheet is planned against the key column its fetch gave, in phase `planned` with no error.
The key column is fetched once for each sheet whose rows were read, in order, each fetch on the
client the one before it left, and never for the others. The operations are the planned sheets'
plans in order, a failed sheet adding none, and they are submitted in one batch unless the pass
is a dry run; a failed submit ends the pass without a report.

A plan can fail only at a row number past the ones that can be written
(`exists_planSheet_eq_ok`), so the pass assumes that each key column and its sheet's rows
together stay below that limit.

The window is not always there: the instants of the last ISO week of 9999 have none, since its
Sunday falls in year 10000, and a pass at one of them ends before any sheet is read
(`exportSheets_refuses_last_iso_week_of_9999`).
-/

namespace SheetExport

open Calendar Store Export

namespace SheetState

theorem ofColumn_keys_length (column : Option (List (List Json))) :
    (ofColumn column).keys.length = (column.getD []).length := by
  cases column <;> simp [ofColumn]

theorem ofColumn_cursor (column : Option (List (List Json))) :
    (ofColumn column).cursor = (column.getD []).length := by
  cases column <;> simp [ofColumn]

/-- A row of a batch goes to a row from one up to the rows of the sheet and the batch
together. -/
theorem targetAt_bounds (column : Option (List (List Json))) {rows : List (List Json)}
    {position : Nat} {row : List Json} (atPosition : rows[position]? = some row) :
    1 ≤ (ofColumn column).targetAt rows position row ∧
      (ofColumn column).targetAt rows position row ≤ (column.getD []).length + rows.length := by
  cases found : (ofColumn column).find? (keyOf row) with
  | some index =>
      obtain ⟨⟨existing, atIndex, -⟩, -⟩ := (find?_eq_some_iff _ _ _).1 found
      have inside : index < (column.getD []).length := by
        rw [← ofColumn_keys_length]
        exact (List.getElem?_eq_some_iff.1 atIndex).1
      rw [targetAt_of_found found]
      omega
  | none =>
      have counted := unmatchedThrough_of_unmatched atPosition
        (show (ofColumn column).unmatched row = true by simp [unmatched, found])
      have atMost : (ofColumn column).unmatchedThrough rows position ≤ rows.length :=
        List.countP_le_length.trans (List.take_sublist _ _).length_le
      rw [targetAt_of_absent found (by simp [ofColumn_cursor]), ofColumn_cursor]
      omega

end SheetState

/-- Planning succeeds when the sheet's key column and the rows together are fewer than the row
numbers that can be written: every target is then a row from one to that count. -/
theorem exists_planSheet_eq_ok (sheet : String) (column : Option (List (List Json)))
    (rows : List (List Json))
    (short : ((column.getD []).length + rows.length : Int) < RowRange.rowLimit) :
    ∃ writes, planSheet sheet column rows = .ok writes := by
  rw [planSheet, SheetState.planAll_eq_mapM, SheetState.planSteps_eq_mapIdx]
  apply exists_mapM_eq_ok
  intro step member
  obtain ⟨position, bound, rfl⟩ := List.mem_mapIdx.1 member
  obtain ⟨positive, atMost⟩ :=
    SheetState.targetAt_bounds column (List.getElem?_eq_getElem bound)
  simp only [SheetState.targetAt] at positive atMost
  simp only [SheetState.plannedStep]
  rw [if_neg (by omega), if_neg (by omega)]
  exact ⟨_, rfl⟩

namespace Client

/-- The client after fetching the key columns of `sheets`, in order. -/
def afterFetches (client : Client) (sheets : List String) : Client :=
  sheets.foldl (fun client sheet => (client.fetchKeyColumn sheet).2.2) client

@[simp] theorem afterFetches_nil (client : Client) : client.afterFetches [] = client := rfl

@[simp] theorem afterFetches_cons (client : Client) (sheet : String) (sheets : List String) :
    client.afterFetches (sheet :: sheets) =
      (client.fetchKeyColumn sheet).2.2.afterFetches sheets := rfl

theorem afterFetches_append (client : Client) (first second : List String) :
    client.afterFetches (first ++ second) = (client.afterFetches first).afterFetches second :=
  List.foldl_append

end Client

namespace Export

/-- The sheets of `sources` whose rows can be read for the window from `start` to `finish`. -/
def queriedSheets (db : Database) (start finish : DateTime) (sources : List RowSource) :
    List String :=
  (sources.filter fun source => (source.rowsFor db start finish).isOk).map (·.sheet)

theorem queriedSheets_append (db : Database) (start finish : DateTime)
    (first second : List RowSource) :
    queriedSheets db start finish (first ++ second) =
      queriedSheets db start finish first ++ queriedSheets db start finish second := by
  simp [queriedSheets, List.filter_append]

/-- The client a pass holds when it reaches the source at `position`: the one that the fetches
for the readable sheets before it left. -/
def clientAt (client : Client) (db : Database) (start finish : DateTime)
    (sources : List RowSource) (position : Nat) : Client :=
  client.afterFetches (queriedSheets db start finish (sources.take position))

@[simp] theorem clientAt_zero (client : Client) (db : Database) (start finish : DateTime)
    (sources : List RowSource) : clientAt client db start finish sources 0 = client := rfl

/-- Past the first source, the pass holds the client that the first source's fetch, if any,
left. -/
theorem clientAt_succ (client : Client) (db : Database) (start finish : DateTime)
    (source : RowSource) (rest : List RowSource) (position : Nat) :
    clientAt client db start finish (source :: rest) (position + 1) =
      clientAt (client.afterFetches (queriedSheets db start finish [source])) db start finish
        rest position := by
  rw [clientAt, clientAt, List.take_succ_cons, ← Client.afterFetches_append,
    ← queriedSheets_append, List.singleton_append]

theorem length_columnRows (column : Option (List String)) :
    ((columnRows column).getD []).length = (column.getD []).length := by
  cases column <;> simp [columnRows]

/-- What the outcome and the writes of one sheet say, its key column being fetched on `client`:
a failed query is reported with no rows, a failed fetch with the rows that were read, both with
the failure's message and no writes, and a sheet whose column came is planned against it and
reported with no error. -/
def SheetReported (db : Database) (start finish : DateTime) (client : Client)
    (source : RowSource) (outcome : SheetOutcome) (writes : List RowWrite) : Prop :=
  outcome.sheet = source.sheet ∧
    match source.rowsFor db start finish with
    | .error error =>
      outcome.phase = .query ∧ outcome.rows = 0 ∧ outcome.error = some error.message ∧ writes = []
    | .ok rows =>
      match (client.fetchKeyColumn source.sheet).1 with
      | .error error =>
        outcome.phase = .fetch ∧ outcome.rows = rows.length ∧
          outcome.error = some error.message ∧ writes = []
      | .ok column =>
        outcome.phase = .planned ∧ outcome.error = none ∧
          planSheet source.sheet (columnRows column) (rows.map (·.map Json.str)) = .ok writes

/-- What a pass over `sources` assumes of the store and of the service, for the window from
`start` to `finish`. -/
structure Assumptions (client : Client) (db : Database) (start finish : DateTime)
    (sources : List RowSource) : Prop where
  /-- A sheet's rows either come or fail as the store fails. -/
  storeFailures : ∀ source ∈ sources, ∀ error,
    source.rowsFor db start finish ≠ .error (.calendar error)
  /-- Each fetch the pass makes either gives a key column or fails as the service fails. -/
  serviceFailures : ∀ position source rows error, sources[position]? = some source →
    source.rowsFor db start finish = .ok rows →
    ((clientAt client db start finish sources position).fetchKeyColumn source.sheet).1 =
      .error error →
    error.isServiceError
  /-- Each fetched key column and its sheet's rows stay below the row numbers that can be
  written. -/
  shortColumns : ∀ position source rows column, sources[position]? = some source →
    source.rowsFor db start finish = .ok rows →
    ((clientAt client db start finish sources position).fetchKeyColumn source.sheet).1 =
      .ok column →
    ((column.getD []).length + rows.length : Int) < RowRange.rowLimit

namespace Assumptions

variable {client : Client} {db : Database} {start finish : DateTime} {source : RowSource}
  {rest : List RowSource}

/-- What the pass assumes past its first source, from the client that source's fetch left. -/
theorem tail (assumed : Assumptions client db start finish (source :: rest)) :
    Assumptions (client.afterFetches (queriedSheets db start finish [source])) db start finish
      rest where
  storeFailures other member := assumed.storeFailures other (List.mem_cons_of_mem source member)
  serviceFailures position other rows error atOther := by
    rw [← clientAt_succ]
    exact assumed.serviceFailures (position + 1) other rows error atOther
  shortColumns position other rows column atOther := by
    rw [← clientAt_succ]
    exact assumed.shortColumns (position + 1) other rows column atOther

end Assumptions

/-- One sheet of a pass: under the pass's assumptions for it, the sheet is reported as
`SheetReported` says, and the client is left as its fetch, if any, left it. -/
theorem planSource_reports {client : Client} {db : Database} {start finish : DateTime}
    {source : RowSource}
    (storeFailure : ∀ error, source.rowsFor db start finish ≠ .error (.calendar error))
    (serviceFailure : ∀ rows error, source.rowsFor db start finish = .ok rows →
      (client.fetchKeyColumn source.sheet).1 = .error error → error.isServiceError)
    (shortColumn : ∀ rows column, source.rowsFor db start finish = .ok rows →
      (client.fetchKeyColumn source.sheet).1 = .ok column →
      ((column.getD []).length + rows.length : Int) < RowRange.rowLimit) :
    ∃ outcome writes, (planSource client db source start finish).1 = .ok (outcome, writes) ∧
      SheetReported db start finish client source outcome writes ∧
      (planSource client db source start finish).2.2 =
        client.afterFetches (queriedSheets db start finish [source]) := by
  cases query : source.rowsFor db start finish with
  | error error =>
      cases error with
      | calendar error => exact absurd query (storeFailure error)
      | store error =>
          refine ⟨⟨source.sheet, .query, 0, 0, 0, 0, some error.message⟩, [], ?_, ?_, ?_⟩
          · simp only [planSource, query]
          · simp [SheetReported, query, SourceError.message]
          · simp [planSource, query, queriedSheets, Except.isOk, Except.toBool]
  | ok rows =>
      rcases fetch : client.fetchKeyColumn source.sheet with ⟨fetched, trace, next⟩
      have after : client.afterFetches (queriedSheets db start finish [source]) = next := by
        simp [queriedSheets, query, Except.isOk, Except.toBool, fetch]
      cases fetched with
      | error error =>
          have service := serviceFailure rows error query (by rw [fetch])
          refine ⟨⟨source.sheet, .fetch, rows.length, 0, 0, 0, some error.message⟩, [], ?_, ?_, ?_⟩
          · simp only [planSource, query, fetch, service, if_true]
          · simp [SheetReported, query, fetch]
          · simp only [planSource, query, fetch, service, if_true, after]
      | ok column =>
          have short := shortColumn rows column query (by rw [fetch])
          rw [← length_columnRows, ← List.length_map (f := List.map Json.str)] at short
          obtain ⟨writes, planned⟩ := exists_planSheet_eq_ok source.sheet _ _ short
          refine ⟨⟨source.sheet, .planned, rows.length, (column.map List.length).getD 0,
            writes.length - appendedCount ((column.map List.length).getD 0) writes,
            appendedCount ((column.map List.length).getD 0) writes, none⟩, writes, ?_, ?_, ?_⟩
          · simp only [planSource, query, fetch, planned]
          · simp [SheetReported, query, fetch, planned]
          · simp only [planSource, query, fetch, planned, after]

/-- Planning the sheets of a pass, under its assumptions: one outcome and one plan per source, in
order, each reported for the client the pass holds at its source, and the client left as the
fetches for the readable sheets, in order, left it. By induction on the sources, the client moving
on by the first source's fetch. -/
theorem planSources_reports {client : Client} {db : Database} {start finish : DateTime}
    {sources : List RowSource} (assumed : Assumptions client db start finish sources) :
    ∃ planned, (planSources db start finish sources client).1 = .ok planned ∧
      (planSources db start finish sources client).2.2 =
        client.afterFetches (queriedSheets db start finish sources) ∧
      planned.length = sources.length ∧
      ∀ position source, sources[position]? = some source → ∃ outcome writes,
        planned[position]? = some (outcome, writes) ∧
        SheetReported db start finish (clientAt client db start finish sources position) source
          outcome writes := by
  induction sources generalizing client with
  | nil => exact ⟨[], rfl, rfl, rfl, by simp⟩
  | cons source rest ih =>
      obtain ⟨outcome, writes, result, reported, after⟩ := @planSource_reports client db start
        finish source (assumed.storeFailures source List.mem_cons_self)
        (fun rows error => assumed.serviceFailures 0 source rows error rfl)
        (fun rows column => assumed.shortColumns 0 source rows column rfl)
      obtain ⟨planned, results, final, length, each⟩ := ih assumed.tail
      rcases step : planSource client db source start finish with ⟨first, records, next⟩
      rw [step] at result after
      subst result after
      rcases later : planSources db start finish rest
          (client.afterFetches (queriedSheets db start finish [source])) with
        ⟨others, more, last⟩
      rw [later] at results final
      subst results final
      refine ⟨(outcome, writes) :: planned, ?_, ?_, by simp [length], ?_⟩
      · simp [planSources, step, later, Except.map]
      · simp only [planSources, step, later]
        rw [← Client.afterFetches_append, ← queriedSheets_append, List.singleton_append]
      · intro position other atOther
        cases position with
        | zero =>
            cases atOther
            exact ⟨outcome, writes, rfl, reported⟩
        | succ position =>
            rw [clientAt_succ]
            exact each position other atOther

end Export

/-- What a pass over `sources` in `window` gives, `fetched` being the client after fetching the
key column of every sheet whose rows were read, in order: one outcome and one plan per source, in
order, each as `SheetReported` says for the client the pass holds when it reaches the source; the
operations are the plans in order. A dry run answers the report and leaves `fetched`; any other
pass submits the operations once from `fetched` and answers the submitted report, or fails with
the submit failure and no report. -/
def ReportsEachSheet (client : Client) (db : Database) (base : DateTime)
    (sources : List RowSource) (dryRun : Bool) (window : Window) : Prop :=
  ∃ (outcomes : List SheetOutcome) (plans : List (List RowWrite)),
    outcomes.length = sources.length ∧ plans.length = sources.length ∧
    (∀ position source, sources[position]? = some source → ∃ outcome writes,
      outcomes[position]? = some outcome ∧ plans[position]? = some writes ∧
      SheetReported db window.start window.finish
        (clientAt client db window.start window.finish sources position) source outcome writes) ∧
    let report : ExportReport :=
      ⟨window.start, window.finish, outcomes, plans.flatten, false, dryRun⟩
    let fetched := client.afterFetches (queriedSheets db window.start window.finish sources)
    let pass := exportSheets client db base sources dryRun
    if dryRun then pass.1 = .ok report ∧ pass.2.2 = fetched
    else
      let submitted := fetched.submitBatch report.operations
      pass.2.2 = submitted.2.2 ∧
        pass.1 = match submitted.1 with
          | .ok _ => .ok { report with submitted := true }
          | .error error => .error (if error.isServiceError then .submit error else .passed error)

/-- An export pass whose base instant has a window, over sources whose queries fail only as the
store fails and fetches only as the service fails, reports every sheet on its own. -/
theorem exportSheets_reports_each_sheet (client : Client) (db : Database) (base : DateTime)
    (sources : List RowSource) (dryRun : Bool) (window : Window)
    (windowed : Window.ofInstant base = .ok window)
    (assumed : Assumptions client db window.start window.finish sources) :
    ReportsEachSheet client db base sources dryRun window := by
  obtain ⟨planned, result, final, length, each⟩ := planSources_reports assumed
  refine ⟨planned.map (·.1), planned.map (·.2), by simp [length], by simp [length], ?_, ?_⟩
  · intro position source atSource
    obtain ⟨outcome, writes, atPlanned, reported⟩ := each position source atSource
    exact ⟨outcome, writes, by simp [atPlanned], by simp [atPlanned], reported⟩
  · rcases pass : planSources db window.start window.finish sources client with
      ⟨results, records, fetched⟩
    rw [pass] at result final
    subst result final
    cases dryRun with
    | true => simp [exportSheets, windowed, pass, assembleBatch]
    | false =>
        cases submit : (client.afterFetches (queriedSheets db window.start window.finish
            sources)).submitBatch (planned.map (·.2)).flatten with
        | mk submitted rest =>
            cases submitted with
            | error error =>
                cases service : error.isServiceError <;>
                  simp [exportSheets, windowed, pass, assembleBatch, submit, service]
            | ok response => simp [exportSheets, windowed, pass, assembleBatch, submit]

/-- A pass over three sheets, on a service that fails the first fetch it is asked for and answers
the second with one key: the first sheet's query fails in the store, the second sheet's fetch
fails, and the third sheet is planned against the column it fetched. -/
theorem exportSheets_reports_three_sheets :
    Window.ofInstant ⟨⟨2024, 1, 3⟩, 0, 0, 0, 0, none⟩ =
        .ok ⟨⟨⟨2024, 1, 1⟩, 0, 0, 0, 0, some 0⟩, ⟨⟨2024, 1, 7⟩, 23, 59, 59, 0, some 0⟩⟩ ∧
      Assumptions
        ⟨"sheet-123", .scripted [.failure (.http 400 "bad"),
          .answer (.obj [("values", .arr [.arr [.str "2"]])])], .whole 5, none, none, .null,
          FileStore.empty⟩
        Database.empty ⟨⟨2024, 1, 1⟩, 0, 0, 0, 0, some 0⟩ ⟨⟨2024, 1, 7⟩, 23, 59, 59, 0, some 0⟩
        [⟨"orders", fun _ _ _ => .error (.store (.noSuchTable "orders"))⟩,
          ⟨"stores", fun _ _ _ => .ok [["1", "a"]]⟩, ⟨"feedback", fun _ _ _ => .ok [["2", "b"]]⟩] ∧
      ReportsEachSheet
        ⟨"sheet-123", .scripted [.failure (.http 400 "bad"),
          .answer (.obj [("values", .arr [.arr [.str "2"]])])], .whole 5, none, none, .null,
          FileStore.empty⟩
        Database.empty ⟨⟨2024, 1, 3⟩, 0, 0, 0, 0, none⟩
        [⟨"orders", fun _ _ _ => .error (.store (.noSuchTable "orders"))⟩,
          ⟨"stores", fun _ _ _ => .ok [["1", "a"]]⟩, ⟨"feedback", fun _ _ _ => .ok [["2", "b"]]⟩]
        true ⟨⟨⟨2024, 1, 1⟩, 0, 0, 0, 0, some 0⟩, ⟨⟨2024, 1, 7⟩, 23, 59, 59, 0, some 0⟩⟩ := by
  have windowed : Window.ofInstant ⟨⟨2024, 1, 3⟩, 0, 0, 0, 0, none⟩ =
      .ok ⟨⟨⟨2024, 1, 1⟩, 0, 0, 0, 0, some 0⟩, ⟨⟨2024, 1, 7⟩, 23, 59, 59, 0, some 0⟩⟩ := by
    decide
  have assumed : Assumptions
      ⟨"sheet-123", .scripted [.failure (.http 400 "bad"),
        .answer (.obj [("values", .arr [.arr [.str "2"]])])], .whole 5, none, none, .null,
        FileStore.empty⟩
      Database.empty ⟨⟨2024, 1, 1⟩, 0, 0, 0, 0, some 0⟩ ⟨⟨2024, 1, 7⟩, 23, 59, 59, 0, some 0⟩
      [⟨"orders", fun _ _ _ => .error (.store (.noSuchTable "orders"))⟩,
        ⟨"stores", fun _ _ _ => .ok [["1", "a"]]⟩, ⟨"feedback", fun _ _ _ => .ok [["2", "b"]]⟩] := by
    refine ⟨?_, ?_, ?_⟩
    · intro source member error
      simp only [List.mem_cons, List.not_mem_nil, or_false] at member
      rcases member with rfl | rfl | rfl <;> simp
    · intro position source rows error atSource query fetched
      rcases position with _ | _ | _ | position
      · cases atSource
        cases query
      · cases atSource
        have failed : (Client.fetchKeyColumn ⟨"sheet-123", .scripted [.failure (.http 400 "bad"),
            .answer (.obj [("values", .arr [.arr [.str "2"]])])], .whole 5, none, none, .null,
            FileStore.empty⟩ "stores").1 =
            .error (.service "values.get" (.http 400 "bad")) := rfl
        rw [clientAt, show queriedSheets _ _ _ _ = [] from rfl, Client.afterFetches_nil,
          failed] at fetched
        cases fetched
        rfl
      · cases atSource
        have answered : (Client.fetchKeyColumn (Client.fetchKeyColumn ⟨"sheet-123",
            .scripted [.failure (.http 400 "bad"),
            .answer (.obj [("values", .arr [.arr [.str "2"]])])], .whole 5, none, none, .null,
            FileStore.empty⟩ "stores").2.2 "feedback").1 = .ok (some ["2"]) := rfl
        rw [clientAt, show queriedSheets _ _ _ _ = ["stores"] from rfl, Client.afterFetches_cons,
          Client.afterFetches_nil, answered] at fetched
        cases fetched
      · cases atSource
    · intro position source rows column atSource query fetched
      rcases position with _ | _ | _ | position
      · cases atSource
        cases query
      · cases atSource
        have failed : (Client.fetchKeyColumn ⟨"sheet-123", .scripted [.failure (.http 400 "bad"),
            .answer (.obj [("values", .arr [.arr [.str "2"]])])], .whole 5, none, none, .null,
            FileStore.empty⟩ "stores").1 =
            .error (.service "values.get" (.http 400 "bad")) := rfl
        rw [clientAt, show queriedSheets _ _ _ _ = [] from rfl, Client.afterFetches_nil,
          failed] at fetched
        cases fetched
      · cases atSource
        cases query
        have answered : (Client.fetchKeyColumn (Client.fetchKeyColumn ⟨"sheet-123",
            .scripted [.failure (.http 400 "bad"),
            .answer (.obj [("values", .arr [.arr [.str "2"]])])], .whole 5, none, none, .null,
            FileStore.empty⟩ "stores").2.2 "feedback").1 = .ok (some ["2"]) := rfl
        rw [clientAt, show queriedSheets _ _ _ _ = ["stores"] from rfl, Client.afterFetches_cons,
          Client.afterFetches_nil, answered] at fetched
        cases fetched
        have large : 10 ≤ 10 ^ NumeralError.digitLimit := Nat.le_self_pow (by decide) 10
        have cast := RowRange.rowLimit_eq_cast
        simp only [Option.getD_some, List.length_singleton]
        omega
      · cases atSource
  exact ⟨windowed, assumed, exportSheets_reports_each_sheet _ _ _ _ _ _ windowed assumed⟩

/-- The instants of the last ISO week of 9999 have no window, its Sunday falling in year 10000:
a dry pass over one sheet at one of them ends before the sheet is read, with no outcome for it. -/
theorem exportSheets_refuses_last_iso_week_of_9999 :
    (exportSheets ⟨"sheet-123", .scripted [], .whole 5, none, none, .null, FileStore.empty⟩
        Database.empty ⟨⟨9999, 12, 31⟩, 0, 0, 0, 0, none⟩ [⟨"stores", fun _ _ _ => .ok []⟩]
        true).1 =
      .error (.window (.yearOutOfRange 10000)) := by
  have noWindow : Window.ofInstant ⟨⟨9999, 12, 31⟩, 0, 0, 0, 0, none⟩ =
      .error (.yearOutOfRange 10000) := by
    decide
  simp [exportSheets, noWindow]

end SheetExport
