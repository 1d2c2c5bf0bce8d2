import SheetExport.Cli.Arguments
import SheetExport.Report.Run
import SheetExport.Settings.Load
import SheetExport.DataDirectory
import SheetExport.Calendar.Week
import SheetExport.Log.Setup

/-!
# The commands of the exporter

The command line has two commands. `window` prints the reporting window of a day, by default of
the current instant. `run` loads the settings, from a given file or from `settings.json` in the
data directory, and runs one export pass for the week of a day, by default the current week;
`--dry-run` plans the writes without submitting them.

A run prints its summary and ends with status 0, or 2 when a sheet failed. A run stopped by its
settings or by the export is reported on standard error as `Error: <message>` with status 1. Any
other failure is not the command line's to report: it ends the run as it is.
-/

namespace SheetExport.Cli

open Calendar

/-- The name of the program. -/
def programName : String := "sheets-exporter"

/-- The version of the program. -/
def versionNumber : String := "0.3.0"

/-- The help option every parser has. -/
def helpOption : OptionSpec := ⟨["-h", "--help"], "help", .help⟩

/-- The usage of the main parser. -/
def mainUsage : String := "usage: sheets-exporter [-h] [--version] {run,window} ...\n"

/-- The main parser. -/
def mainParser : Parser :=
  ⟨programName, mainUsage,
    mainUsage ++ "\nExport storefront data to Google Sheets\n\npositional arguments:\n" ++
      "  \x7brun,window\x7d\n    run         Run one export pass\n" ++
      "    window      Display the reporting window\n\noptions:\n" ++
      "  -h, --help    show this help message and exit\n" ++
      "  --version     show program's version number and exit\n",
    [helpOption, ⟨["--version"], "version", .version (programName ++ " " ++ versionNumber)⟩]⟩

/-- The usage of `run`. -/
def runUsage : String :=
  "usage: sheets-exporter run [-h] [--settings SETTINGS] [--date DATE]\n" ++
    "                           [--dry-run]\n"

/-- The parser of `run`. -/
def runParser : Parser :=
  ⟨programName ++ " run", runUsage,
    runUsage ++ "\noptions:\n  -h, --help           show this help message and exit\n" ++
      "  --settings SETTINGS  Path to the settings JSON file\n" ++
      "  --date DATE          Any day of the reporting week (YYYY-MM-DD). Defaults to\n" ++
      "                       today.\n" ++
      "  --dry-run            Plan the row writes without submitting them\n",
    [helpOption, ⟨["--settings"], "settings", .value .text⟩, ⟨["--date"], "date", .value .day⟩,
      ⟨["--dry-run"], "dry_run", .flag⟩]⟩

/-- The usage of `window`. -/
def windowUsage : String := "usage: sheets-exporter window [-h] [--date DATE]\n"

/-- The parser of `window`. -/
def windowParser : Parser :=
  ⟨programName ++ " window", windowUsage,
    windowUsage ++ "\noptions:\n  -h, --help   show this help message and exit\n" ++
      "  --date DATE  Any day of the week (YYYY-MM-DD)\n",
    [helpOption, ⟨["--date"], "date", .value .day⟩]⟩

/-- The command line of the exporter. -/
def commandLine : CommandLine :=
  ⟨mainParser, "command", [("run", runParser), ("window", windowParser)]⟩

/-- A command of the exporter. -/
inductive Command where
  /-- One export pass, with a settings file, a day of the week to export, and whether to only
  plan the writes. -/
  | run (settingsPath : Option String) (day : Option Date) (dryRun : Bool)
  /-- The reporting window of a day. -/
  | window (day : Option Date)
  deriving DecidableEq, Repr

namespace Command

/-- The text an option set last. -/
def textOf (values : List (String × Value)) (dest : String) : Option String :=
  values.findSome? fun
    | (name, .text text) => if name == dest then some text else none
    | _ => none

/-- The day an option set last. -/
def dayOf (values : List (String × Value)) (dest : String) : Option Date :=
  values.findSome? fun
    | (name, .day date) => if name == dest then some date else none
    | _ => none

/-- Whether a flag was given. -/
def flagOf (values : List (String × Value)) (dest : String) : Bool :=
  values.any fun (name, value) => name == dest && value == .set

/-- The command a request names. -/
def ofRequest (request : Request) : Command :=
  if request.command == "run" then
    .run (textOf request.values "settings") (dayOf request.values "date")
      (flagOf request.values "dry_run")
  else .window (dayOf request.values "date")

/-- Reads the command of a command line, or how reading it ended. -/
def parse (args : List String) : Except Outcome Command :=
  match commandLine.read args with
  | .ok request => .ok (ofRequest request)
  | .error stop => .error stop.outcome

end Command

/-- What a command sees: the host, the files, the databases by path and the current instant, with
the containers a JSON file it reads may nest, one inside the other, before the interpreter's
recursion is used up. -/
structure Context where
  host : Host
  files : FileStore
  databases : List (String × Database)
  now : DateTime
  nesting : Nat

/-- A failure the command line does not report itself, by class name and message. -/
structure Uncaught where
  className : String
  message : String
  deriving DecidableEq, Repr

/-- What a command writes, with the records it logs. -/
inductive Line where
  | out (text : String)
  | err (text : String)
  /-- A record written through the handlers that setting up logging added. -/
  | log (record : LogRecord)
  /-- A record logged before logging is set up: its message alone goes to standard error. -/
  | unhandled (record : LogRecord)
  deriving DecidableEq, Repr

/-- How a command ends: its status, and what it wrote and logged, in order. -/
structure Finish where
  status : Nat
  lines : List Line
  deriving DecidableEq, Repr

namespace Finish

/-- The finish of a command-line run that stopped while reading its arguments. -/
def ofOutcome (outcome : Outcome) : Finish :=
  ⟨outcome.status, outcome.output.map (fun
    | .out text => .out text
    | .err text => .err text)⟩

/-- All that a command wrote to standard output. -/
def standardOutput (finish : Finish) : String :=
  String.join (finish.lines.filterMap fun | .out text => some text | _ => none)

/-- All that a command wrote to standard error itself, records apart. -/
def standardError (finish : Finish) : String :=
  String.join (finish.lines.filterMap fun | .err text => some text | _ => none)

end Finish

namespace Command

/-- The name of the command line's own logger. -/
def logger : String := "export_cli"

/-- The instant a day stands for: its midnight in UTC. -/
def instantOf (context : Context) : Option Date → DateTime
  | some day => Window.atUtc day 0 0 0
  | none => context.now

/-- Prints the reporting window of a day. -/
def showWindow (context : Context) (day : Option Date) : Except Uncaught Finish :=
  match Window.ofInstant (instantOf context day) with
  | .error error => .error ⟨error.className, error.message⟩
  | .ok span =>
    .ok ⟨0, [.out ("Start : " ++ span.start.isoText ++ "\n"),
      .out ("End   : " ++ span.finish.isoText ++ "\n"),
      .out ("Label : " ++ Window.periodLabel span.start span.finish ++ "\n")]⟩

/-- Whether a failure of a run is one the command line reports. -/
def reported (className : String) : Bool :=
  className == "SettingsError" || className == "ExportError"

/-- The record of a run stopped by a failure it reports. -/
def abortRecord (message : String) : LogRecord := ⟨.error, logger, "Export run aborted: " ++ message⟩

/-- The line that reports a stopped run. -/
def abortLine (message : String) : Line := .err ("Error: " ++ message ++ "\n")

/-- The path of the settings file: the given one, or `settings.json` in the data directory when
none or an empty one is given. -/
def settingsFile (dataDirectory : String) : Option String → String
  | some given => if given.isEmpty then Path.join dataDirectory ["settings.json"] else Path.normalize given
  | none => Path.join dataDirectory ["settings.json"]

/-- Runs one export pass. Logging is set up once the settings are loaded, at their level; a
record before that is left to standard error when it is a warning or worse. -/
def exportPass (context : Context) (settingsPath : Option String) (day : Option Date)
    (dryRun : Bool) : Except Uncaught Finish :=
  match DataDirectory.locate context.host with
  | .error error => .error ⟨error.className, error.message⟩
  | .ok dataDirectory =>
    let environment := context.host.environment.map fun (name, value) => (name, Json.str value)
    match Settings.load context.nesting context.files dataDirectory
        (settingsFile dataDirectory settingsPath) environment with
    | .error error =>
      if reported error.className then
        .ok ⟨1, [.unhandled (abortRecord error.message), abortLine error.message]⟩
      else .error ⟨error.className, error.message⟩
    | .ok settings =>
      let logged (records : List LogRecord) : List Line :=
        (records.filter fun record => settings.loggingLevel ≤ record.level.number).map .log
      match runExport context.nesting context.host settings none context.files
          (.stored context.databases) (instantOf context day) dryRun with
      | (.error error, _, _) =>
        if reported error.className then
          .ok ⟨1, logged [abortRecord error.message] ++ [abortLine error.message]⟩
        else .error ⟨error.className, error.message⟩
      | (.ok report, records, _) =>
        let summary := Line.out (report.summary ++ "\n")
        if report.ok then .ok ⟨0, logged records ++ [summary]⟩
        else
          let failed : LogRecord :=
            ⟨.warning, logger, "Export finished with failed sheets: " ++
              ", ".intercalate report.failedSheets⟩
          .ok ⟨2, logged records ++ [summary] ++ logged [failed]⟩

/-- Runs a command. -/
def execute (context : Context) : Command → Except Uncaught Finish
  | .run settingsPath day dryRun => exportPass context settingsPath day dryRun
  | .window day => showWindow context day

end Command

/-- Runs the command line: reads the command and runs it. -/
def runLine (context : Context) (args : List String) : Except Uncaught Finish :=
  match Command.parse args with
  | .error outcome => .ok (Finish.ofOutcome outcome)
  | .ok command => command.execute context

end SheetExport.Cli
