import SheetExport.Sheet.Plan
import SheetExport.Calendar.Week

/-!
# Export reports

An export pass reports, per sheet, how far it got: `planned` when its rows were planned, `query`
when its rows could not be read, and `fetch` when its key column could not be fetched; with the
row counts and the error. The report as a whole also holds the window, every planned write, and
whether the batch was submitted or the pass was a dry run.

A report is good when no sheet failed and its writes were submitted, the pass was a dry run, or
there was nothing to write. Its summary has a line for the window, one per sheet, and one for the
batch.
-/

namespace SheetExport

open Calendar

/-- How far the export of a sheet got. -/
inductive Phase where
  | planned
  | query
  | fetch
  deriving DecidableEq, Repr

/-- The name of a phase. -/
def Phase.name : Phase → String
  | .planned => "planned"
  | .query => "query"
  | .fetch => "fetch"

/-- The outcome of one sheet. -/
structure SheetOutcome where
  sheet : String
  phase : Phase
  rows : Nat
  existingRows : Nat
  updated : Nat
  appended : Nat
  error : Option String
  deriving DecidableEq, Repr

/-- Whether a sheet's export went through. -/
def SheetOutcome.ok (outcome : SheetOutcome) : Bool := outcome.error.isNone

/-- The report of an export pass. -/
structure ExportReport where
  windowStart : DateTime
  windowEnd : DateTime
  outcomes : List SheetOutcome
  operations : List RowWrite
  submitted : Bool
  dryRun : Bool

namespace ExportReport

/-- The sheets that failed, in order. -/
def failedSheets (report : ExportReport) : List String :=
  (report.outcomes.filter (!·.ok)).map (·.sheet)

/-- Whether the pass went through. -/
def ok (report : ExportReport) : Bool :=
  report.failedSheets.isEmpty && (report.submitted || report.dryRun || report.operations.isEmpty)

/-- The summary line of a sheet. -/
def outcomeLine (outcome : SheetOutcome) : String :=
  match outcome.error with
  | none =>
    outcome.sheet ++ ": " ++ toString outcome.rows ++ " rows (" ++ toString outcome.updated ++
      " updated, " ++ toString outcome.appended ++ " appended)"
  | some error => outcome.sheet ++ ": FAILED during " ++ outcome.phase.name ++ ": " ++ error

/-- The summary of a report, one line each. -/
def summary (report : ExportReport) : String :=
  let batch :=
    if report.dryRun then
      "Dry run: " ++ toString report.operations.length ++ " row writes planned, nothing submitted."
    else
      "Submitted " ++ toString (if report.submitted then report.operations.length else 0) ++
        " row writes."
  "\n".intercalate
    (("Window: " ++ Window.label report.windowStart report.windowEnd) ::
      report.outcomes.map outcomeLine ++ [batch])

end ExportReport

end SheetExport
