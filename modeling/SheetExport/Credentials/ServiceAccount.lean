import SheetExport.FileStore
import SheetExport.Json.Reader
import SheetExport.Text.Blank
import SheetExport.Cell.Text

/-!
# Service account files

A service account file is a JSON object read as UTF-8 text, a leading byte order mark allowed. It
must not be blank, must parse, and must be an object whose required fields are non-blank texts, its
`type` being `service_account`. A refusal lists the missing fields sorted and without repeats.

The private key is made uniform: `\r\n` and `\r` become line feeds, so does the two-character
escape `\n`, and the key ends with a line feed.
-/

namespace SheetExport

/-- Why a service account file is refused. -/
inductive CredentialsError where
  | empty
  | parse (reason : String)
  | notObject
  | missing (fields : List String)
  /-- The file is not UTF-8; this failure is not the file's content and passes through. -/
  | decode (error : Text.DecodeError)
  /-- The file holds an integer too long to convert; this failure passes through too. -/
  | numeral (error : NumeralError)
  /-- The file nests containers deeper than the interpreter's recursion allows; this failure
  passes through as well. -/
  | recursion (container : Container)
  deriving DecidableEq, Repr

namespace CredentialsError

/-- The class name of a refusal. -/
def className : CredentialsError → String
  | .decode _ => "UnicodeDecodeError"
  | .numeral _ => "ValueError"
  | .recursion _ => "RecursionError"
  | _ => "CredentialsFileInvalidError"

/-- The message of a refusal. -/
def message : CredentialsError → String
  | .empty => "Service account JSON is empty."
  | .parse reason => "JSON parse error: " ++ reason
  | .notObject => "Service account JSON must be an object."
  | .missing fields => "JSON missing fields: " ++ ", ".intercalate fields
  | .decode error => error.message
  | .numeral error => error.message
  | .recursion container => (JsonError.tooDeep container).message

end CredentialsError

namespace ServiceAccount

/-- The fields a service account must have. -/
def requiredFields : List String :=
  ["type", "project_id", "private_key_id", "private_key", "client_email", "client_id", "token_uri"]

/-- Replaces the two-character escape `\n` by a line feed. -/
def unescapeNewlines : List Char → List Char
  | '\\' :: 'n' :: rest => '\n' :: unescapeNewlines rest
  | c :: rest => c :: unescapeNewlines rest
  | [] => []

/-- Makes a private key's line ends uniform and ends it with a line feed. -/
def normaliseKey (key : String) : String :=
  let chars := unescapeNewlines (Text.uniformLineEnds key.toList)
  String.ofList (if chars.getLast? == some '\n' then chars else chars ++ ['\n'])

/-- Inserts a name into a sorted list without repeats. -/
def insertSorted (name : String) : List String → List String
  | [] => [name]
  | first :: rest =>
    if name == first then first :: rest
    else if name < first then name :: first :: rest
    else first :: insertSorted name rest

/-- The required fields a payload lacks, sorted and without repeats. -/
def missingFields (members : List (String × Json)) : List String :=
  let blank := requiredFields.filter fun field =>
    match members.lookup field with
    | some (.str value) => Text.isBlankText value
    | _ => true
  let wrongType := match members.lookup "type" with
    | some (.str "service_account") => []
    | _ => ["type"]
  (blank ++ wrongType).foldr insertSorted []

/-- Checks a payload and makes its private key uniform. -/
def validate (members : List (String × Json)) : Except CredentialsError (List (String × Json)) :=
  match missingFields members with
  | [] =>
    let key := ((members.lookup "private_key").map Json.text).getD ""
    .ok (Json.setMember "private_key" (.str (normaliseKey key)) members)
  | missing => .error (.missing missing)

/-- Reads a service account file's bytes, with room for `nesting` containers. -/
def read (nesting : Nat) (bytes : List UInt8) : Except CredentialsError (List (String × Json)) := do
  let text ← (Text.decodeUtf8Signed bytes).mapError .decode
  let chars := (Text.uniformLineEnds text.toList).dropWhile (· == '﻿')
  let payload := String.ofList (Text.trimChars chars)
  if payload.isEmpty then throw .empty
  match Json.parse nesting payload with
  | .error (.tooLong count) => throw (.numeral (.tooLong count))
  | .error (.tooDeep container) => throw (.recursion container)
  | .error e => throw (.parse e.reason)
  | .ok (.obj members) => validate members
  | .ok _ => throw .notObject

end ServiceAccount

end SheetExport
