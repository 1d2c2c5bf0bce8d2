import SheetExport.Store.Sql.Run

/-!
# The storefront tables

Five tables hold what the export reads: the stores with their install state, the events of a store
leaving the listing, general feedback, and the charity and widget events that the weekly summaries
count. Every table but `stores` numbers its rows itself, never reusing a number.

The tables are made by running their definitions on the store, each only when no table or view of
its name exists, so that a database made earlier keeps its own.
-/

namespace SheetExport.Store

namespace Schema

/-- Stores: a text id that is unique, a unique hash, the install time and two flags. -/
def stores : String :=
  "CREATE TABLE IF NOT EXISTS stores (
        id TEXT PRIMARY KEY,
        store_hash TEXT NOT NULL UNIQUE,
        access_token TEXT NOT NULL DEFAULT '',
        installed_at TEXT NOT NULL,
        published INTEGER NOT NULL DEFAULT 0,
        uninstalled INTEGER NOT NULL DEFAULT 0
    )"

/-- A store leaving the listing, with its reason. -/
def unpublishEvents : String :=
  "CREATE TABLE IF NOT EXISTS unpublish_events (
        id INTEGER PRIMARY KEY AUTOINCREMENT,
        store_hash TEXT NOT NULL,
        unpublished_at TEXT NOT NULL,
        reason TEXT NOT NULL DEFAULT ''
    )"

/-- Feedback sent from the app. -/
def generalFeedback : String :=
  "CREATE TABLE IF NOT EXISTS general_feedback (
        id INTEGER PRIMARY KEY AUTOINCREMENT,
        name TEXT NOT NULL,
        email TEXT NOT NULL,
        message TEXT NOT NULL,
        submitted_at TEXT NOT NULL
    )"

/-- An event about a charity. -/
def charityEvents : String :=
  "CREATE TABLE IF NOT EXISTS charity_events (
        id INTEGER PRIMARY KEY AUTOINCREMENT,
        store_hash TEXT NOT NULL,
        charity TEXT NOT NULL,
        event_type TEXT NOT NULL,
        created_at TEXT NOT NULL
    )"

/-- An event of the storefront widget. -/
def widgetEvents : String :=
  "CREATE TABLE IF NOT EXISTS widget_events (
        id INTEGER PRIMARY KEY AUTOINCREMENT,
        store_hash TEXT NOT NULL,
        event_type TEXT NOT NULL,
        created_at TEXT NOT NULL
    )"

/-- The definitions of the five tables, in the order they are made. -/
def statements : List String :=
  [stores, unpublishEvents, generalFeedback, charityEvents, widgetEvents]

end Schema

/-- Makes each storefront table that does not exist yet; the first autoincrementing table brings
the sequence table. -/
def Database.ensureSchema (db : Database) : Except StoreError Database :=
  Schema.statements.foldlM (fun db statement => db.execute statement []) db

/-- A new database: with the storefront tables when `schema` asks for them, otherwise empty. -/
def Database.fresh (schema : Bool) : Database :=
  if schema then (Database.empty.ensureSchema).toOption.getD Database.empty else Database.empty

end SheetExport.Store
