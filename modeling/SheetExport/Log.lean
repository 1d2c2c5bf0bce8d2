/-!
# Log records

A log record is a level, the name of the part that wrote it, and its message. Records below INFO
are left out of every record list: they carry nothing a run's result depends on.
-/

namespace SheetExport

/-- The level of a log record, from least to most severe. -/
inductive Level where
  | debug
  | info
  | warning
  | error
  | critical
  deriving DecidableEq, Repr

/-- The name of a level. -/
def Level.name : Level → String
  | .debug => "DEBUG"
  | .info => "INFO"
  | .warning => "WARNING"
  | .error => "ERROR"
  | .critical => "CRITICAL"

/-- The number of a registered level name; names are matched exactly. -/
def Level.numberOfName? : String → Option Nat
  | "CRITICAL" | "FATAL" => some 50
  | "ERROR" => some 40
  | "WARNING" | "WARN" => some 30
  | "INFO" => some 20
  | "DEBUG" => some 10
  | "NOTSET" => some 0
  | _ => none

/-- The number of a level. -/
def Level.number : Level → Nat
  | .debug => 10
  | .info => 20
  | .warning => 30
  | .error => 40
  | .critical => 50

/-- A log record. -/
structure LogRecord where
  level : Level
  logger : String
  message : String
  deriving DecidableEq, Repr

namespace LogRecord

/-- The part that talks to the spreadsheet service. -/
def clientLogger : String := "exporter.sheets_client"

/-- The part that runs an export. -/
def reportLogger : String := "exporter.report"

/-- A record of the client. -/
def ofClient (level : Level) (message : String) : LogRecord := ⟨level, clientLogger, message⟩

/-- A record of an export run. -/
def ofReport (level : Level) (message : String) : LogRecord := ⟨level, reportLogger, message⟩

end LogRecord

end SheetExport
