import SheetExport.Text.Quoted

/-!
# Failures of the spreadsheet service

A request to the service either answers or fails. An HTTP failure carries its status and its text
as the client library shows it; the statuses 429, 500, 502, 503 and 504 are passing conditions
worth another attempt. The other failures are named by their kind: failures of the credentials, of the
transport and of the operating system end the request at once and are reported as failures of the
service, while any other failure is not the service's and passes through unchanged.
-/

namespace SheetExport

/-- The kinds of failure other than an HTTP status. -/
inductive FailureKind where
  | refresh
  | transport
  | serverNotFound
  | httpLibrary
  | connectionReset
  | system
  | value
  | key
  /-- A position outside a list. -/
  | index
  /-- A value of the wrong kind. -/
  | type
  /-- A value without the member asked for. -/
  | attribute
  /-- A number outside the range of a conversion. -/
  | overflow
  deriving DecidableEq, Repr

namespace FailureKind

/-- The class name of a kind. -/
def className : FailureKind → String
  | .refresh => "RefreshError"
  | .transport => "TransportError"
  | .serverNotFound => "ServerNotFoundError"
  | .httpLibrary => "HttpLib2Error"
  | .connectionReset => "ConnectionResetError"
  | .system => "OSError"
  | .value => "ValueError"
  | .key => "KeyError"
  | .index => "IndexError"
  | .type => "TypeError"
  | .attribute => "AttributeError"
  | .overflow => "OverflowError"

/-- The kind named by a class name. -/
def ofName? (name : String) : Option FailureKind :=
  [FailureKind.refresh, .transport, .serverNotFound, .httpLibrary, .connectionReset, .system, .value,
    .key].find? (·.className == name)

/-- Whether a failure of this kind is a failure of the service: credentials, transport or the
operating system. -/
def isServiceFailure : FailureKind → Bool
  | .value | .key | .index | .type | .attribute | .overflow => false
  | _ => true

end FailureKind

/-- A failed request. -/
inductive Failure where
  /-- An HTTP failure, with its status and its text as the client library shows it. -/
  | http (status : Int) (text : String)
  | raised (kind : FailureKind) (message : String)
  deriving DecidableEq, Repr

namespace Failure

/-- The statuses worth another attempt. -/
def retriableStatuses : List Int := [429, 500, 502, 503, 504]

/-- The class name of a failure. -/
def className : Failure → String
  | .http .. => "HttpError"
  | .raised kind _ => kind.className

/-- The text of a failure; a missing key is shown quoted. -/
def text : Failure → String
  | .http _ text => text
  | .raised .key message => Text.quote message
  | .raised _ message => message

/-- Whether another attempt may succeed. -/
def isRetriable : Failure → Bool
  | .http status _ => retriableStatuses.contains status
  | .raised .. => false

/-- Whether the failure is the service's, to be reported as such. -/
def isServiceFailure : Failure → Bool
  | .http .. => true
  | .raised kind _ => kind.isServiceFailure

end Failure

end SheetExport
