import SheetExport.Store.Load
import SheetExport.Store.Characters
import SheetExport.Cell.Flag
import SheetExport.Calendar.Week

/-!
# Row sources

Each sheet is filled from one query on the store. The first cell of a row is its key in the sheet:
the entity's id for the three plain tables, and for the two weekly summaries the text
`<dimensions> <window>`, so that exporting the same week again finds and overwrites its rows.

The summaries count the events whose stored time lies between the storage forms of the window's
first and last second, comparing text; they start with the period row of the window. Counts are
grouped by the dimensions and ordered by them, event type first.
-/

namespace SheetExport

open Store Calendar

/-- Why a source cannot give its rows. -/
inductive SourceError where
  | store (error : StoreError)
  | calendar (error : CalendarError)
  deriving DecidableEq, Repr

namespace SourceError

/-- The message of a failure. -/
def message : SourceError → String
  | .store error => error.message
  | .calendar error => error.message

/-- The class of a failure. -/
def className : SourceError → String
  | .store error => error.className
  | .calendar error => error.className

end SourceError

namespace Source

/-- The query of the stores sheet. -/
def storesQuery : String :=
  "SELECT id, store_hash, installed_at, published, uninstalled FROM stores " ++
    "ORDER BY installed_at, id"

/-- The query of the sheet of stores leaving the listing. -/
def unpublishQuery : String :=
  "SELECT id, store_hash, unpublished_at, reason FROM unpublish_events " ++
    "ORDER BY unpublished_at, id"

/-- The query of the feedback sheet. -/
def feedbackQuery : String :=
  "SELECT id, submitted_at, name, email, message FROM general_feedback ORDER BY submitted_at, id"

/-- The query of the weekly charity summary, bound to the texts of the window's ends. -/
def charityQuery : String :=
  "SELECT charity, event_type, count(*) AS count FROM charity_events " ++
    "WHERE created_at >= ? AND created_at <= ? " ++
    "GROUP BY event_type, charity ORDER BY event_type, charity"

/-- The query of the weekly widget summary, bound to the texts of the window's ends. -/
def widgetQuery : String :=
  "SELECT event_type, count(*) AS count FROM widget_events " ++
    "WHERE created_at >= ? AND created_at <= ? GROUP BY event_type ORDER BY event_type"

/-- Checks that the text of a row read by name is UTF-8, failing on the first value that is not. -/
def checkText (names : List String) (values : List Value) : Except StoreError Unit :=
  (names.zip values).forM fun (name, value) =>
    match value with
    | .text bytes =>
      match Text.decodeUtf8 bytes with
      | .ok _ => .ok ()
      | .error _ =>
        .error (.undecodable name (Text.decodeUtf8Lossy (Characters.beforeNul bytes)))
    | _ => .ok ()

/-- The rows of a query as the store gives them, read in order, failures named for the caller. -/
def rowsOf (db : Database) (query : String) (parameters : List Value) :
    Except SourceError (List (List Value)) := do
  let (names, rows) ← (db.query query parameters).mapError .store
  (rows.forM (checkText names)).mapError .store
  pure rows

/-- Stores by install time: id, hash, install time, and the two flags. -/
def storeStatus (db : Database) : Except SourceError (List (List String)) := do
  let rows ← rowsOf db storesQuery []
  pure (rows.map fun
    | [id, hash, installed, published, uninstalled] =>
      [id.cellText, hash.cellText, installed.cellText, Flag.text published.flag,
        Flag.text uninstalled.flag]
    | values => values.map Value.cellText)

/-- Stores leaving the listing by time: id, hash, time and reason. -/
def uninstallFeedback (db : Database) : Except SourceError (List (List String)) := do
  let rows ← rowsOf db unpublishQuery []
  pure (rows.map (·.map Value.cellText))

/-- Feedback by time: id, time, name, email and message. -/
def generalFeedback (db : Database) : Except SourceError (List (List String)) := do
  let rows ← rowsOf db feedbackQuery []
  pure (rows.map (·.map Value.cellText))

/-- The storage texts of a window's first and last second, as the windowed queries bind them. -/
def windowTexts (start finish : DateTime) : Except SourceError (List Value) := do
  let first ← start.stamp.mapError .calendar
  let last ← finish.stamp.mapError .calendar
  pure [Value.ofString first, Value.ofString last]

/-- The summary row of a group of charity events: the key `<charity>:<event type> <window>`, the
charity, the event type and the count. -/
def charityRow (window : String) (values : List Value) : List String :=
  let charity := (values.getD 0 .null).cellText
  let eventType := (values.getD 1 .null).cellText
  let count := (values.getD 2 .null).cellText
  [charity ++ ":" ++ eventType ++ " " ++ window, charity, eventType, count]

/-- The summary row of a group of widget events: the key `<event type> <window>`, the event type
and the count. -/
def widgetRow (window : String) (values : List Value) : List String :=
  let eventType := (values.getD 0 .null).cellText
  let count := (values.getD 1 .null).cellText
  [eventType ++ " " ++ window, eventType, count]

/-- A weekly summary: the period row of the window, then one row per group that the query counts
in the window, built by `row` from the window's label and the group's values. -/
def weeklySummary (query : String) (row : String → List Value → List String) (db : Database)
    (start finish : DateTime) : Except SourceError (List (List String)) := do
  let window := Window.label start finish
  let parameters ← windowTexts start finish
  let rows ← rowsOf db query parameters
  pure ([Window.periodLabel start finish] :: rows.map (row window))

/-- Charity events of a week, counted per event type and charity. -/
def charityEventSummary (db : Database) (start finish : DateTime) :
    Except SourceError (List (List String)) :=
  weeklySummary charityQuery charityRow db start finish

/-- Widget events of a week, counted per event type. -/
def widgetEventSummary (db : Database) (start finish : DateTime) :
    Except SourceError (List (List String)) :=
  weeklySummary widgetQuery widgetRow db start finish

end Source

/-- A sheet and the query that gives its rows for a window. -/
structure RowSource where
  sheet : String
  rowsFor : Database → DateTime → DateTime → Except SourceError (List (List String))

/-- The five sheets, in export order. -/
def rowSources : List RowSource :=
  [⟨"stores", fun db _ _ => Source.storeStatus db⟩,
   ⟨"uninstall-feedback", fun db _ _ => Source.uninstallFeedback db⟩,
   ⟨"general-feedback", fun db _ _ => Source.generalFeedback db⟩,
   ⟨"charity-events", Source.charityEventSummary⟩,
   ⟨"widget-events", Source.widgetEventSummary⟩]

end SheetExport
