import SheetExport.Cell.Whole
import SheetExport.Text.Blank
import SheetExport.Log
import SheetExport.Text.Utf8
import SheetExport.Json.Reader

/-!
# Exporter settings

The settings of a run: the spreadsheet, the credential file, the token cache, the database, the
log level and the number of attempts of a request. Settings are complete when the spreadsheet id
and the credential path are not blank. The log level is named; an unknown name means INFO. The
number of attempts is clamped to 1 through 5, and a value that is no whole number means 5.
-/

namespace SheetExport

/-- Why settings cannot be used. -/
inductive SettingsError where
  /-- Required settings are blank, by their dotted names. -/
  | missing (names : List String)
  /-- The settings file cannot be read as JSON. -/
  | unreadable (path reason : String)
  /-- The settings file is not UTF-8 text. -/
  | undecodable (error : Text.DecodeError)
  /-- The settings file holds something other than an object. -/
  | notObject (path : String)
  /-- A section that must be an object is not one. -/
  | sections
  /-- The environment writes into a value of this kind, which holds no keys. -/
  | notAssignable (kind : String)
  /-- A value is too large for a whole number. -/
  | whole (error : WholeError)
  /-- The settings file holds an integer too long to convert. -/
  | numeral (error : NumeralError)
  /-- The settings file nests containers deeper than the interpreter's recursion allows. -/
  | recursion (container : Container)
  deriving DecidableEq, Repr

namespace SettingsError

/-- The class name of a failure. -/
def className : SettingsError → String
  | .notAssignable _ => "TypeError"
  | .undecodable _ => "UnicodeDecodeError"
  | .whole error => error.className
  | .numeral _ => "ValueError"
  | .recursion _ => "RecursionError"
  | _ => "SettingsError"

/-- The message of a failure. -/
def message : SettingsError → String
  | .missing names => "Missing configuration: " ++ ", ".intercalate names
  | .unreadable path reason => "Could not read settings file " ++ path ++ ": " ++ reason
  | .notObject path => "Settings file " ++ path ++ " must contain a JSON object"
  | .sections => "'sheets' and 'database' sections must be objects"
  | .notAssignable kind => "'" ++ kind ++ "' object does not support item assignment"
  | .undecodable error => error.message
  | .whole error => error.message
  | .numeral error => error.message
  | .recursion container => (JsonError.tooDeep container).message

end SettingsError

/-- The settings of a run. -/
structure ExporterSettings where
  spreadsheetId : String
  credentialPath : String
  tokenCachePath : String
  databasePath : String
  logLevel : String
  maxAttempts : Int
  deriving DecidableEq, Repr

namespace ExporterSettings

/-- The default log level. -/
def defaultLogLevel : String := "INFO"

/-- The default number of attempts. -/
def defaultAttempts : Int := 5

/-- Checks that the spreadsheet id and the credential path are not blank. -/
def validate (settings : ExporterSettings) : Except SettingsError ExporterSettings :=
  let missing :=
    (if Text.isBlankText settings.spreadsheetId then ["sheets.spreadsheet_id"] else []) ++
      (if Text.isBlankText settings.credentialPath then ["sheets.credential_path"] else [])
  if missing.isEmpty then .ok settings else .error (.missing missing)

/-- Upper case as names of levels take it: ASCII letters, and the dotless `ı` and the long `ſ`,
whose upper cases are ASCII. -/
def upperChar (c : Char) : Char :=
  if c == 'ı' then 'I' else if c == 'ſ' then 'S' else c.toUpper

/-- The number of a level name. -/
def levelNumber? (name : String) : Option Nat :=
  Level.numberOfName? (String.ofList (name.toList.map upperChar))

/-- The number of the log level; an unknown name means INFO. -/
def loggingLevel (settings : ExporterSettings) : Nat := (levelNumber? settings.logLevel).getD 20

end ExporterSettings

/-- The number of attempts a value asks for, clamped to 1 through 5; a value that is no whole
number asks for 5, and one too large to be whole is refused. -/
def coerceAttempts (value : Json) : Except SettingsError Int :=
  match value.whole with
  | .ok n => .ok (max 1 (min 5 n))
  | .error .infinite => .error (.whole .infinite)
  | .error _ => .ok ExporterSettings.defaultAttempts

end SheetExport
