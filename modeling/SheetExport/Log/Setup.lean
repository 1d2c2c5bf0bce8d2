import SheetExport.Log
import SheetExport.DataDirectory
import SheetExport.Cell.Text
import SheetExport.Calendar.Instant

/-!
# Setting up logging

Logging is set up once per process. The first setup picks the log file, by default `exporter.log`
in the data directory, makes its directory, sets the least level the root logger passes, and
adds two handlers to the root: one that appends to the log file and one that writes to standard
error, both with the same record format. A root that already has a handler appending to that very
file gets no new handlers. The setup remembers the file: every later setup only sets the level and
gives back the remembered file, until the memory is cleared.

A level is a number (a truth value counts as one, and is kept as the truth it was), or the name
of a registered level; anything else is refused.
-/

namespace SheetExport

/-- Where a handler sends records. -/
inductive Destination where
  /-- A file, by its absolute path. -/
  | file (path : String)
  | standardError
  deriving DecidableEq, Repr

/-- A handler on the root logger: where it writes and the format of its records. -/
structure Handler where
  destination : Destination
  format : String
  deriving DecidableEq, Repr

/-- The class of a handler. -/
def Handler.className (handler : Handler) : String :=
  match handler.destination with
  | .file _ => "FileHandler"
  | .standardError => "StreamHandler"

/-- Why a value is no level. -/
inductive LevelError where
  /-- A name that is not registered. -/
  | unknown (name : String)
  /-- A value that is neither a number nor a name. -/
  | notLevel (value : Json)
  deriving Repr

/-- The class of a failure. -/
def LevelError.className : LevelError → String
  | .unknown _ => "ValueError"
  | .notLevel _ => "TypeError"

/-- The message of a failure. -/
def LevelError.message : LevelError → String
  | .unknown name => "Unknown level: " ++ Text.quote name
  | .notLevel value => "Level not an integer or a valid string: " ++ value.literal

/-- The least level the root passes, as it was set: a number, or a truth value, which is kept as
given and counts as the number 0 or 1. -/
inductive RootLevel where
  | number (n : Int)
  | truth (set : Bool)
  deriving DecidableEq, Repr

/-- The number a root level counts as. -/
def RootLevel.value : RootLevel → Int
  | .number n => n
  | .truth set => if set then 1 else 0

/-- The root level of a level given as a number, a truth value or a name; a name counts as its
number. -/
def levelOf : Json → Except LevelError RootLevel
  | .int n => .ok (.number n)
  | .bool set => .ok (.truth set)
  | .str name =>
    match Level.numberOfName? name with
    | some n => .ok (.number n)
    | none => .error (.unknown name)
  | other => .error (.notLevel other)

/-- Why logging cannot be set up. -/
inductive SetupError where
  | placement (error : PlacementError)
  | level (error : LevelError)
  deriving Repr

namespace SetupError

/-- The class of a failure. -/
def className : SetupError → String
  | .placement error => error.className
  | .level error => error.className

/-- The message of a failure. -/
def message : SetupError → String
  | .placement error => error.message
  | .level error => error.message

end SetupError

/-- The logging of a process: the file the first setup picked, the least level the root passes,
the handlers on the root, and the files. -/
structure LogSetup where
  logPath : Option String
  level : RootLevel
  handlers : List Handler
  files : FileStore

namespace LogSetup

/-- The format of every record the handlers write. -/
def recordFormat : String := "%(asctime)s [%(levelname)s] %(name)s: %(message)s"

/-- The time of a record as handlers write it: date, time and milliseconds. -/
def timeText (instant : Calendar.DateTime) : String :=
  instant.storageText ++ "," ++ Calendar.DateTime.paddedNumber 3 (instant.microsecond / 1000)

/-- A record as the handlers write it, at an instant. -/
def render (instant : Calendar.DateTime) (record : LogRecord) : String :=
  timeText instant ++ " [" ++ record.level.name ++ "] " ++ record.logger ++ ": " ++ record.message

/-- The name of the log file in the data directory. -/
def logFileName : String := "exporter.log"

/-- The permission bits of a new log file. -/
def logFileMode : Nat := 0o644

/-- Logging before any setup: no file, the root passing warnings and above, no handlers. -/
def initial (files : FileStore) : LogSetup := ⟨none, .number 30, [], files⟩

/-- Forgets the file of the last setup, so that the next one starts over. -/
def forget (setup : LogSetup) : LogSetup := { setup with logPath := none }

/-- Sets up logging at a level, with the log file at `path` or in the data directory; gives the
log file. -/
def configure (setup : LogSetup) (host : Host) (level : Json) (path : Option String) :
    Except SetupError (String × LogSetup) :=
  match setup.logPath with
  | some remembered => do
    let number ← (levelOf level).mapError .level
    pure (remembered, { setup with level := number })
  | none => do
    let (target, files) ← match path with
      | some given => pure (Path.normalize given, setup.files)
      | none => (DataDirectory.dataPath host setup.files [logFileName]).mapError .placement
    let files ← (files.makeDirectories (Path.parent target)).mapError (.placement ∘ .file)
    let number ← (levelOf level).mapError .level
    let opened := Path.resolve host.workingDirectory target
    let attached := setup.handlers.any (·.destination == .file target)
    if attached then
      pure (target, ⟨some target, number, setup.handlers, files⟩)
    else
      let files ← (files.touch opened logFileMode).mapError (.placement ∘ .file)
      let added := [⟨.file opened, recordFormat⟩, ⟨.standardError, recordFormat⟩]
      pure (target, ⟨some target, number, setup.handlers ++ added, files⟩)

private theorem mapError_ok {ε ε' α : Type} (f : ε → ε') (a : α) :
    (Except.ok a : Except ε α).mapError f = .ok a := rfl

theorem configure_remembered (setup : LogSetup) (host : Host) (level : Json)
    (path : Option String) (remembered : String) (number : RootLevel)
    (configured : setup.logPath = some remembered) (valid : levelOf level = .ok number) :
    setup.configure host level path = .ok (remembered, { setup with level := number }) := by
  simp [configure, configured, valid, mapError_ok, bind, Except.bind, pure, Except.pure]

end LogSetup

end SheetExport
