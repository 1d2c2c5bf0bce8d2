import SheetExport.Report.Outcome
import SheetExport.Source.Rows
import SheetExport.Client.Session

/-!
# One export pass

A pass reads the window of its base instant, then takes the sheets in order: it queries a sheet's
rows, fetches the sheet's key column once and plans the rows against it. A sheet whose query or
fetch fails is reported and skipped while the others go on. All planned writes are then submitted
in one batch; a failure there ends the pass. A failure that belongs neither to the store nor to the
service is not caught and ends the pass as it is.

A pass has one outcome per sheet, in order, and its operations are the concatenation of the
planned sheets' plans.
-/

namespace SheetExport

open Calendar Store

/-- Why an export pass ends without a report. -/
inductive ExportError where
  /-- The base instant has no window. -/
  | window (error : CalendarError)
  /-- A failure of a sheet's rows that is not the store's. -/
  | source (error : SourceError)
  /-- A failure during a call to the service that is not the service's. -/
  | passed (error : ClientError)
  /-- Planning refused a row. -/
  | plan (error : SheetError)
  /-- The batch could not be submitted. -/
  | submit (error : ClientError)
  deriving DecidableEq, Repr

namespace ExportError

/-- The class name of a failure. -/
def className : ExportError → String
  | .window error => error.className
  | .source error => error.className
  | .passed error => error.className
  | .plan error => error.className
  | .submit _ => "ExportError"

/-- The message of a failure. -/
def message : ExportError → String
  | .window error => error.message
  | .source error => error.message
  | .passed error => error.message
  | .plan error => error.message
  | .submit error => "Batch submit failed: " ++ error.message

end ExportError

/-- Whether a client failure is the service's own, which a pass reports instead of ending. -/
def ClientError.isServiceError : ClientError → Bool
  | .other .. => false
  | _ => true

namespace Export

/-- The number of writes that append below the rows a sheet had. -/
def appendedCount (existingRows : Nat) (writes : List RowWrite) : Nat :=
  (writes.filter fun write =>
    match write.rowNumber with
    | .ok row => (existingRows : Int) < row
    | .error _ => false).length

/-- The warning for keys that repeat within one sheet's rows. -/
def repeatWarning (sheet : String) (keys : List Json) : List LogRecord :=
  if keys.isEmpty then []
  else [.ofReport .warning ("Sheet " ++ sheet ++ ": " ++ toString keys.length ++
    " identity keys repeat within this batch, later rows win: " ++
    ", ".intercalate ((keys.take 10).map Json.text))]

/-- A sheet's key column as rows of one cell. -/
def columnRows (column : Option (List String)) : Option (List (List Json)) :=
  column.map (·.map fun cell => [.str cell])

/-- Queries, fetches and plans one sheet. -/
def planSource (client : Client) (db : Database) (source : RowSource) (start finish : DateTime) :
    Except ExportError (SheetOutcome × List RowWrite) × List LogRecord × Client :=
  let sheet := source.sheet
  match source.rowsFor db start finish with
  | .error (.store error) =>
    (.ok (⟨sheet, .query, 0, 0, 0, 0, some error.message⟩, []),
      [.ofReport .error ("Sheet " ++ sheet ++ ": row query failed: " ++ error.message)], client)
  | .error error => (.error (.source error), [], client)
  | .ok rows =>
    let cells := rows.map (·.map Json.str)
    let warnings := match duplicateKeys cells with
      | .ok keys => repeatWarning sheet keys
      | .error _ => []
    let (fetched, trace, client) := client.fetchKeyColumn sheet
    let records := warnings ++ trace.records
    match fetched with
    | .error error =>
      if error.isServiceError then
        (.ok (⟨sheet, .fetch, rows.length, 0, 0, 0, some error.message⟩, []),
          records ++ [.ofReport .error ("Sheet " ++ sheet ++ ": key column fetch failed, " ++
            toString rows.length ++ " rows not exported: " ++ error.message)], client)
      else (.error (.passed error), records, client)
    | .ok column =>
      let existingRows := (column.map List.length).getD 0
      match planSheet sheet (columnRows column) cells with
      | .error error => (.error (.plan error), records, client)
      | .ok writes =>
        let appended := appendedCount existingRows writes
        let updated := writes.length - appended
        (.ok (⟨sheet, .planned, rows.length, existingRows, updated, appended, none⟩, writes),
          records ++ [.ofReport .info ("Sheet " ++ sheet ++ ": " ++ toString rows.length ++
            " rows planned (" ++ toString updated ++ " updated, " ++ toString appended ++
            " appended, " ++ toString existingRows ++ " existing rows)")], client)

/-- Plans the sheets in order, stopping at the first failure that ends the pass. -/
def planSources (db : Database) (start finish : DateTime) :
    List RowSource → Client →
      Except ExportError (List (SheetOutcome × List RowWrite)) × List LogRecord × Client
  | [], client => (.ok [], [], client)
  | source :: rest, client =>
    match planSource client db source start finish with
    | (.error error, records, client) => (.error error, records, client)
    | (.ok planned, records, client) =>
      let (others, more, client) := planSources db start finish rest client
      (others.map (planned :: ·), records ++ more, client)

end Export

open Export in
/-- Runs one export pass: plans every sheet of `sources` for the window of `base` and, unless it
is a dry run, submits the writes in one batch. -/
def exportSheets (client : Client) (db : Database) (base : DateTime) (sources : List RowSource)
    (dryRun : Bool) : Except ExportError ExportReport × List LogRecord × Client :=
  match Window.ofInstant base with
  | .error error => (.error (.window error), [], client)
  | .ok window =>
    let opening := LogRecord.ofReport .info
      ("Export window " ++ Window.label window.start window.finish)
    match planSources db window.start window.finish sources client with
    | (.error error, records, client) => (.error error, opening :: records, client)
    | (.ok planned, records, client) =>
      let operations := assembleBatch (planned.map (·.2))
      let report : ExportReport :=
        ⟨window.start, window.finish, planned.map (·.1), operations, false, dryRun⟩
      let records := opening :: records
      if dryRun then
        (.ok report, records ++ [.ofReport .info ("Dry run: " ++ toString operations.length ++
          " row writes planned, skipping submit")], client)
      else
        let (submitted, trace, client) := client.submitBatch operations
        let records := records ++ trace.records
        match submitted with
        | .error error =>
          if error.isServiceError then
            (.error (.submit error), records ++ [.ofReport .error ("Batch submit of " ++
              toString operations.length ++ " row writes failed: " ++ error.message)], client)
          else (.error (.passed error), records, client)
        | .ok _ =>
          (.ok { report with submitted := true }, records ++ [.ofReport .info ("Submitted " ++
            toString operations.length ++ " row writes to " ++ client.spreadsheetId)], client)

end SheetExport
