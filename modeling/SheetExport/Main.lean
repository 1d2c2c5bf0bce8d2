import SheetExport.Cli.Command
import Std.Time.DateTime.Timestamp

/-!
# The exporter's command line

The program reads its arguments, the environment variables the exporter looks at, its working
directory as the shell gives it in `PWD`, and the clock. It runs the command line on them and
writes what the command wrote, in order: standard output, standard error, and each record that
logging handles, stamped with the time. A failure the command line does not report ends the
program with status 1, its class and message on standard error.

The program sees no files: its file store holds the root directory alone.
-/

namespace SheetExport.Cli

/-- The environment variables the exporter reads. -/
def watchedVariables : List String :=
  DataDirectory.overrideVariable :: DataDirectory.applicationVariables ++ ["HOME"] ++
    Settings.environmentKeys.map (·.1)

/-- The microseconds from the start of day 1 to the Unix epoch, January 1 of 1970. -/
def unixEpochMicros : Int := (Calendar.Date.toOrdinal ⟨1970, 1, 1⟩ - 1) * Calendar.microsPerDay

/-- The instant, in UTC, of a count of nanoseconds since the Unix epoch. -/
def instantOfUnixNanos (nanos : Int) : Calendar.DateTime :=
  Calendar.DateTime.ofLocalMicros (unixEpochMicros + nanos / 1000) (some 0)

/-- The containers a JSON file the exporter reads may nest: the interpreter's recursion limit of
1000 less the calls under way at its readers. -/
def readerNesting : Nat := 990

/-- What the program writes for one line of a command. -/
def emit (now : Calendar.DateTime) (stdout stderr : IO.FS.Stream) : Line → IO Unit
  | .out text => stdout.putStr text
  | .err text => stderr.putStr text
  | .log record => stderr.putStrLn (LogSetup.render now record)
  | .unhandled record => stderr.putStrLn record.message

end SheetExport.Cli

open SheetExport SheetExport.Cli

def main (args : List String) : IO UInt32 := do
  let mut environment : List (String × String) := []
  for name in watchedVariables do
    if let some value ← IO.getEnv name then
      environment := environment ++ [(name, value)]
  let workingDirectory := (← IO.getEnv "PWD").getD "/"
  let now := instantOfUnixNanos (← Std.Time.Timestamp.now).toNanosecondsSinceUnixEpoch.val
  let host : Host := ⟨environment, workingDirectory, none, []⟩
  let stdout ← IO.getStdout
  let stderr ← IO.getStderr
  let status ← match runLine ⟨host, FileStore.empty, [], now, readerNesting⟩ args with
    | .ok finish => do
      for line in finish.lines do
        emit now stdout stderr line
      pure finish.status.toUInt32
    | .error failure => do
      stderr.putStrLn (failure.className ++ ": " ++ failure.message)
      pure 1
  stdout.flush
  stderr.flush
  pure status
