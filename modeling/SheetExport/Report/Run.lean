import SheetExport.Report.Export
import SheetExport.Settings.Values
import SheetExport.Credentials.ServiceAccount
import SheetExport.Host
import SheetExport.Path

/-!
# Running an export from settings

A run checks its settings first. Without a client it connects from the credential file: the file
must exist and hold a valid service account whose key the signer accepts, and any refusal is a
failure to connect. With a connection given the pass runs on it; otherwise the database must exist
at its path. Only then does the pass run. The credential, token cache and database paths are
expanded for a leading `~` before they are used.
-/

namespace SheetExport

open Calendar Store

/-- Why a run ends without a report. -/
inductive RunError where
  | settings (error : SettingsError)
  /-- The client could not connect; the message says why. -/
  | connect (message : String)
  /-- A failure that is not the run's to report, by class name and message. -/
  | passed (className message : String)
  | databaseMissing (path : String)
  | export (error : ExportError)
  deriving DecidableEq, Repr

namespace RunError

/-- The class name of a failure. -/
def className : RunError → String
  | .settings error => error.className
  | .passed name _ => name
  | .export error => error.className
  | _ => "ExportError"

/-- The message of a failure. -/
def message : RunError → String
  | .settings error => error.message
  | .connect reason => "Could not connect to Google Sheets: " ++ reason
  | .passed _ message => message
  | .databaseMissing path => "Database not found: " ++ path
  | .export error => error.message

end RunError

/-- Where a run finds its database. -/
inductive DatabaseSource where
  /-- A connection handed to the run. -/
  | connected (db : Database)
  /-- The databases kept at paths, read at the settings' path. -/
  | stored (databases : List (String × Database))

/-- The refusal of a signer given a key that is not a private key it can read. -/
def unreadableKey : String := "No key could be detected."

/-- Connects from the credential file at a path, read with room for `nesting` containers. -/
def connectWith (nesting : Nat) (files : FileStore) (path : String) : RunError :=
  match files.read? path with
  | none =>
    if files.pathExists path then .connect ("Could not read JSON file: [Errno 21] Is a directory: " ++
      Text.quote path)
    else .connect ("Credentials file not found: " ++ path)
  | some bytes =>
    match ServiceAccount.read nesting bytes with
    | .error (.decode error) => .passed "UnicodeDecodeError" error.message
    | .error (.numeral error) => .passed "ValueError" error.message
    | .error (.recursion container) => .passed "RecursionError" (JsonError.tooDeep container).message
    | .error error => .connect error.message
    | .ok _ => .connect unreadableKey

/-- A path of the settings expanded for a leading `~`. -/
def expandedPath (host : Host) (path : String) : Except RunError String :=
  (Path.expandUser host.home? path).mapError fun error => .passed error.className error.message

/-- Connects from a credential file: every refusal of the file or of its key. The token cache
path is expanded first, as the connection needs it. -/
def connectFromFiles (nesting : Nat) (host : Host) (files : FileStore) (settings : ExporterSettings) :
    RunError :=
  match expandedPath host settings.credentialPath with
  | .error error => error
  | .ok path =>
    let cache : Except RunError String :=
      if settings.tokenCachePath.isEmpty then .ok "" else expandedPath host settings.tokenCachePath
    match cache with
    | .error error => error
    | .ok _ => connectWith nesting files path

/-- Runs one export pass from settings; a credential file is read with room for `nesting`
containers. -/
def runExport (nesting : Nat) (host : Host) (settings : ExporterSettings) (client : Option Client)
    (files : FileStore) (source : DatabaseSource) (base : DateTime) (dryRun : Bool) :
    Except RunError ExportReport × List LogRecord × Option Client :=
  match settings.validate with
  | .error error => (.error (.settings error), [], client)
  | .ok _ =>
    match client with
    | none => (.error (connectFromFiles nesting host files settings), [], none)
    | some client =>
      let database : Except RunError Database := match source with
        | .connected db => .ok db
        | .stored databases => do
          let path ← expandedPath host settings.databasePath
          match databases.lookup path with
          | some db => .ok db
          | none => .error (.databaseMissing path)
      match database with
      | .error error => (.error error, [], some client)
      | .ok db =>
        let (result, records, client) := exportSheets client db base rowSources dryRun
        (result.mapError .export, records, some client)

end SheetExport
