import SheetExport.Client.SpreadsheetId
import SheetExport.Remote.Service
import SheetExport.Credentials.TokenCache
import SheetExport.Log

/-!
# The spreadsheet client

The client needs two requests for a run: reading the key column of each sheet (`A1:A`), and one
batch write of every planned row. A request that fails with a passing HTTP status is tried again
after a pause of 1, 2, 4, 8 and then 16 seconds, until the count of failed attempts reaches the
client's limit; any other HTTP failure, and failures of the credentials, the transport or the
operating system, end the request as a failure of the service. Other failures pass through
unchanged.

The limit is the larger of one and the number the client is given, which may be a binary64
number: the count of attempts is compared with it exactly, and the warning before another attempt
shows its integer part. A limit of another kind is refused when the client is made.

After each request that succeeds, the client writes its access token to the cache when the token
counts as true and differs from the last one it stored. A write that the operating system refuses
is reported as a warning and tried again after the next request; a path the system cannot be
given fails the call.

With retries, the service is asked `k = min(f, limit)` times, where `f` is the position of the
first reply that is not a passing HTTP failure, and the client pauses `k - 1` times.
-/

namespace SheetExport

open Calendar

/-- Why a client call fails. -/
inductive ClientError where
  /-- The spreadsheet id is empty once read. -/
  | invalidId
  /-- The service failed a request; the description names the request. -/
  | service (description : String) (failure : Failure)
  /-- A failure that is not the service's, by class name and message. -/
  | other (className message : String)
  deriving DecidableEq, Repr

namespace ClientError

/-- The message of a failure. -/
def message : ClientError → String
  | .invalidId => "A valid spreadsheet ID is required."
  | .service description (.http status text) =>
    "Sheets API " ++ description ++ " failed (" ++ toString status ++ "): " ++ text
  | .service description failure => "Sheets API " ++ description ++ " failed: " ++ failure.text
  | .other _ message => message

/-- The class name of a failure. -/
def className : ClientError → String
  | .invalidId => "SheetsClientError"
  | .service .. => "SheetsApiResponseError"
  | .other name _ => name

/-- The class name of the failure that caused this one, when there is one. -/
def cause? : ClientError → Option String
  | .service _ failure => some failure.className
  | _ => none

end ClientError

/-- The credentials a client holds: an access token and its expiry. -/
structure Credentials where
  token : Json
  expiry : Option DateTime
  deriving Inhabited, Repr

/-- What a call leaves besides its result: the pauses, the log records and the requests made. -/
structure Trace where
  pauses : List Nat
  records : List LogRecord
  requests : List Request
  deriving Inhabited, Repr

namespace Trace

/-- The trace of nothing. -/
def none : Trace := ⟨[], [], []⟩

/-- One trace after another. -/
def append (first second : Trace) : Trace :=
  ⟨first.pauses ++ second.pauses, first.records ++ second.records,
    first.requests ++ second.requests⟩

instance : Append Trace := ⟨append⟩

end Trace

/-- The limit on the attempts of a request: a whole number, or a binary64 number above one. -/
inductive AttemptLimit where
  | whole (count : Int)
  | binary (value : Binary64)
  deriving Repr

namespace AttemptLimit

/-- The limit of a given value: the larger of one and the value, one when they compare equal or
the value is NaN. Only numbers and booleans compare with one. -/
def ofJson (value : Json) : Except ClientError AttemptLimit :=
  match value with
  | .int count => .ok (.whole (max 1 count))
  | .bool _ => .ok (.whole 1)
  | .float x => .ok (if x.compareInt 1 == some .gt then .binary x else .whole 1)
  | other => .error (.other "TypeError"
      ("'>' not supported between instances of '" ++ other.kindName ++ "' and 'int'"))

/-- Whether a count of failed attempts has reached the limit. -/
def reached (limit : AttemptLimit) (failures : Nat) : Bool :=
  match limit with
  | .whole count => count ≤ failures
  | .binary x => x.compareInt failures != some .gt

/-- The limit as the warning before another attempt shows it: its integer part, which an infinite
limit does not have. -/
def shown (limit : AttemptLimit) : Except ClientError String :=
  match limit with
  | .whole count => .ok (toString count)
  | .binary x =>
    match x.truncate? with
    | some count => .ok (toString count)
    | none => .error (.other "OverflowError" "cannot convert float infinity to integer")

end AttemptLimit

/-- A client of one spreadsheet. -/
structure Client where
  spreadsheetId : String
  service : Service
  /-- The limit on the attempts of a request. -/
  limit : AttemptLimit
  credentials : Option Credentials
  cachePath : Option String
  /-- The last token written to the cache. -/
  storedToken : Json
  files : FileStore

namespace Client

/-- The pauses between attempts, in seconds; the last one repeats. -/
def backoff (attempt : Nat) : Nat := [1, 2, 4, 8, 16].getD (min (attempt - 1) 4) 16

/-- The warning before another attempt. -/
def retryWarning (description : String) (status : Int) (delay attempt : Nat) (limit : String) :
    LogRecord :=
  .ofClient .warning ("Sheets API " ++ description ++ " error (" ++ toString status ++
    "). Retrying in " ++ toString delay ++ "s (" ++ toString attempt ++ "/" ++ limit ++ ")")

/-- The failure that ends a request. -/
def settle (description : String) (failure : Failure) : ClientError :=
  if failure.isServiceFailure then .service description failure
  else .other failure.className failure.text

/-- Executes a request on attempt `attempt`, pausing before each further attempt. Each further
attempt follows a failure the service held, so `fuel` above the number of failures it holds is
never used up. -/
def retrying (description : String) (limit : AttemptLimit) (request : Request) (attempt : Nat) :
    Nat → Service → (Except ClientError Json × List Nat × List LogRecord) × Service
  | 0, service =>
    match service.execute request with
    | (.ok response, service) => ((.ok response, [], []), service)
    | (.error failure, service) => ((.error (settle description failure), [], []), service)
  | fuel + 1, service =>
    match service.execute request with
    | (.ok response, service) => ((.ok response, [], []), service)
    | (.error failure, service) =>
      match failure with
      | .http status _ =>
        if failure.isRetriable && !limit.reached attempt then
          match limit.shown with
          | .error e => ((.error e, [], []), service)
          | .ok shown =>
            let delay := backoff attempt
            let ((result, pauses, records), service) :=
              retrying description limit request (attempt + 1) fuel service
            ((result, delay :: pauses, retryWarning description status delay attempt shown :: records),
              service)
        else ((.error (settle description failure), [], []), service)
      | _ => ((.error (settle description failure), [], []), service)

/-- Executes a request with retries. -/
def call (client : Client) (description : String) (request : Request) :
    Except ClientError Json × Trace × Client :=
  let ((result, pauses, records), service) :=
    retrying description client.limit request 1 client.service.failureCount client.service
  (result, ⟨pauses, records, [request]⟩, { client with service := service })

/-- Writes the access token to the cache when it counts as true and differs from the last one
stored. A write that fails with an error of the operating system is warned of and leaves the
stored token; a write that fails otherwise fails persisting. The files keep what the write made. -/
def persistToken (client : Client) : Except ClientError (List LogRecord) × Client :=
  match client.credentials with
  | none => (.ok [], client)
  | some credentials =>
    if !credentials.token.truthy || credentials.token.looseEq client.storedToken then (.ok [], client)
    else
      match TokenCache.store client.files client.cachePath credentials.token credentials.expiry with
      | (none, files) => (.ok [], { client with files := files, storedToken := credentials.token })
      | (some failure, files) =>
        if failure.isOSError then
          (.ok [.ofClient .warning ("Could not write token cache " ++ client.cachePath.getD "None")],
            { client with files := files })
        else (.error (.other failure.className failure.message), { client with files := files })

/-- The rows of a response's values, as iterating them gives them. -/
def rowsOf (values : Json) : Except ClientError (List Json) :=
  match values with
  | .arr items => .ok items
  | .str text => .ok (text.toList.map fun c => .str (String.singleton c))
  | .obj members => .ok (members.map fun (name, _) => .str name)
  | other => .error (.other "TypeError" ("'" ++ other.kindName ++ "' object is not iterable"))

/-- The key cell of a row as text: the text of its first item, empty for a row that counts as
false. -/
def keyText (row : Json) : Except ClientError String :=
  if !row.truthy then .ok ""
  else
    match row with
    | .arr (first :: _) => .ok first.text
    | .str text => .ok (String.ofList (text.toList.take 1))
    | .obj _ => .error (.other "KeyError" "0")
    | other =>
      .error (.other "TypeError" ("'" ++ other.kindName ++ "' object is not subscriptable"))

/-- The key column a read answered: nothing when the response is not an object or holds no
values. -/
def keyColumnOf (response : Json) : Except ClientError (Option (List String)) :=
  match response with
  | .obj members =>
    match members.lookup "values" with
    | none | some .null => .ok none
    | some values => do
      let rows ← rowsOf values
      let cells ← rows.mapM keyText
      pure (some cells)
  | _ => .ok none

/-- The range of a sheet's key column. -/
def keyRange (sheet : String) : String := sheet ++ "!A1:A"

/-- Reads the key column of a sheet: one text per row, nothing when the sheet has no values. -/
def fetchKeyColumn (client : Client) (sheet : String) :
    Except ClientError (Option (List String)) × Trace × Client :=
  let (result, trace, client) := client.call "values.get" (.read (keyRange sheet))
  match result with
  | .error e => (.error e, trace, client)
  | .ok response =>
    match client.persistToken with
    | (.error e, client) => (.error e, trace, client)
    | (.ok warnings, client) => (keyColumnOf response, trace ++ ⟨[], warnings, []⟩, client)

/-- The body of a batch write. -/
def batchBody (writes : List RowWrite) : Json :=
  .obj [("valueInputOption", .str "USER_ENTERED"), ("includeValuesInResponse", .bool false),
    ("data", .arr (writes.map RowWrite.valueRange))]

/-- Writes every row write in one batch; an empty batch makes no request. -/
def submitBatch (client : Client) (writes : List RowWrite) : Except ClientError Json × Trace × Client :=
  if writes.isEmpty then (.ok (.obj []), ⟨[], [.ofClient .info "No row updates to submit"], []⟩, client)
  else
    let (result, trace, client) := client.call "values.batchUpdate" (.write (batchBody writes))
    match result with
    | .error e => (.error e, trace, client)
    | .ok response =>
      match client.persistToken with
      | (.error e, client) => (.error e, trace, client)
      | (.ok warnings, client) =>
        match response with
        | .obj members =>
          let rows := (members.lookup "totalUpdatedRows").getD (.int writes.length)
          let sheets := (members.lookup "totalUpdatedSheets").getD (.str "?")
          let accepted := LogRecord.ofClient .info
            ("Sheets accepted " ++ rows.text ++ " updated rows across " ++ sheets.text ++ " sheets")
          (.ok response, trace ++ ⟨[], warnings ++ [accepted], []⟩, client)
        | _ => (.ok (.obj []), trace ++ ⟨[], warnings, []⟩, client)

/-- A client of the spreadsheet a text names, with a limit on attempts; an empty id is refused,
then a limit that does not compare with one. -/
def create (spreadsheet : String) (service : Service) (attempts : Json)
    (credentials : Option Credentials) (cachePath : Option String) (files : FileStore) :
    Except ClientError Client := do
  let id := SpreadsheetId.parse spreadsheet
  if id.isEmpty then throw .invalidId
  let limit ← AttemptLimit.ofJson attempts
  pure ⟨id, service, limit, credentials, cachePath, .null, files⟩

end Client

/-- A request as it is recorded: its method, the spreadsheet and its range or body. -/
def Request.toJson (spreadsheetId : String) : Request → Json
  | .read range =>
    .obj [("method", .str "get"), ("spreadsheetId", .str spreadsheetId), ("range", .str range)]
  | .write body =>
    .obj [("method", .str "batchUpdate"), ("spreadsheetId", .str spreadsheetId), ("body", body)]

end SheetExport
