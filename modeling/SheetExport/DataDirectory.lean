import SheetExport.Host
import SheetExport.Path
import SheetExport.FileStore

/-!
# The data directory

Settings, the token cache, the database and the log live in one data directory per user. It is
the first of these that is set and not empty: `EXPORTER_DATA_DIR` itself; `LOCALAPPDATA` or
`APPDATA` with a folder `SheetsExporter` in it; and last the home directory with a folder
`.sheets-exporter`. Each is expanded for a leading `~` and resolved to an absolute path.

A default path names a file in the data directory without making anything. A data path also
makes the directory that holds the file, with every directory above it.
-/

namespace SheetExport

/-- Why a path in the data directory cannot be had. -/
inductive PlacementError where
  | path (error : Path.PathError)
  | file (error : FileError)
  deriving DecidableEq, Repr

namespace PlacementError

/-- The class of a failure. -/
def className : PlacementError → String
  | .path error => error.className
  | .file error => error.className

/-- The message of a failure. -/
def message : PlacementError → String
  | .path error => error.message
  | .file error => error.message

end PlacementError

namespace DataDirectory

/-- The variable that names the data directory itself. -/
def overrideVariable : String := "EXPORTER_DATA_DIR"

/-- The variables that name a directory for application data, in the order they are tried. -/
def applicationVariables : List String := ["LOCALAPPDATA", "APPDATA"]

/-- The folder of this program in a directory for application data. -/
def applicationFolder : String := "SheetsExporter"

/-- The folder of this program in a home directory. -/
def homeFolder : String := ".sheets-exporter"

/-- A path expanded for a leading `~` and resolved from the working directory. -/
def placed (host : Host) (path : String) : Except Path.PathError String := do
  let expanded ← Path.expandUser host.home? path
  pure (Path.resolve host.workingDirectory expanded)

/-- The data directory of a host. -/
def locate (host : Host) : Except Path.PathError String :=
  match host.setting? overrideVariable with
  | some path => placed host path
  | none =>
    match applicationVariables.findSome? host.setting? with
    | some path => (placed host path).map (Path.join · [applicationFolder])
    | none => (placed host "~").map (Path.join · [homeFolder])

/-- A path in the data directory, made of parts. -/
def defaultPath (host : Host) (parts : List String) : Except Path.PathError String :=
  (locate host).map (Path.join · parts)

/-- A path in the data directory, with the directory that holds it made. -/
def dataPath (host : Host) (files : FileStore) (parts : List String) :
    Except PlacementError (String × FileStore) := do
  let target ← (defaultPath host parts).mapError .path
  let files ← (files.makeDirectories (Path.parent target)).mapError .file
  pure (target, files)

theorem locate_override (host : Host) (path : String)
    (set : host.setting? overrideVariable = some path) : locate host = placed host path := by
  simp [locate, set]

end DataDirectory

end SheetExport
