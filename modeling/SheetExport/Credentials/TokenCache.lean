import SheetExport.FileStore
import SheetExport.Json.Reader
import SheetExport.Json.Writer
import SheetExport.Cell.Equality
import SheetExport.Cell.Text
import SheetExport.Calendar.IsoText

/-!
# The access-token cache

An access token is kept in a small JSON file between runs, with its expiry in ISO form, so that
the next run can skip the token exchange. Storing needs a path, a token that counts as true and an
expiry; it makes the file's directory, writes the record two spaces deep with every character
outside ASCII escaped, and leaves the file readable by its owner only.

Loading gives the token and its expiry as a naive UTC value while the expiry is later than now. A
missing file gives nothing; a file that cannot be read, is not JSON, lacks a field or holds a bad
expiry gives nothing and a warning. A file whose document nests deeper than the interpreter's
recursion allows fails loading. Comparing with now moves both to UTC, which can fail at the edges
of the calendar; a naive now is local time, UTC on the hosts modelled here.

A store that fails keeps the directories it made before writing the file failed.
-/

namespace SheetExport

open Calendar

namespace TokenCache

/-- The permission bits of the cache file: read and write for its owner. -/
def fileMode : Nat := 0o600

/-- The text of the cache record. -/
def recordText (token : Json) (expiry : DateTime) : String :=
  Json.render JsonStyle.indented (.obj [("token", token), ("expiry", .str expiry.isoText)])

/-- Stores a token with its expiry: the failure that stopped storing, if one did, and the files
afterwards. Nothing is written without a path, a token that counts as true, or an expiry. -/
def store (files : FileStore) (path : Option String) (token : Json) (expiry : Option DateTime) :
    Option FileError × FileStore :=
  match path, expiry with
  | some path, some expiry =>
    if !token.truthy then (none, files)
    else
      match files.makeDirectories (Path.parent path) with
      | .error failure => (some failure, files)
      | .ok made =>
        match made.write path (Text.encodeUtf8 (recordText token expiry)) fileMode with
        | .error failure => (some failure, made)
        | .ok written => (none, written.setMode path fileMode)
  | _, _ => (none, files)

/-- The warning for a cache that cannot be used. -/
def unreadable (path : String) : String := "Ignoring unreadable token cache at " ++ path

/-- The token and the expiry a cache document holds, or nothing when it is not such a record. -/
def recordOf (document : Json) : Option (Json × DateTime) := do
  let members ← match document with
    | .obj members => some members
    | _ => none
  let token ← members.lookup "token"
  let expiry ← members.lookup "expiry"
  let expiryText ← expiry.str?
  let expiry ← (DateTime.ofIsoText expiryText).toOption
  pure (token, expiry)

/-- The record of a cache file's bytes, read with room for `nesting` containers: nothing when they
cannot be read as one, and the container that opened too deep when the interpreter's recursion
was used up. -/
def readRecord (nesting : Nat) (bytes : List UInt8) : Except Container (Option (Json × DateTime)) :=
  match Text.decodeUtf8 bytes with
  | .error _ => .ok none
  | .ok text =>
    match Json.parse nesting (String.ofList (Text.uniformLineEnds text.toList)) with
    | .error (.tooDeep container) => .error container
    | .error _ => .ok none
    | .ok document => .ok (recordOf document)

/-- Why loading a cache fails rather than giving a token or nothing. -/
inductive LoadError where
  /-- The file's document nests deeper than the interpreter's recursion allows. -/
  | recursion (container : Container)
  /-- Moving the expiry or now to UTC failed. -/
  | calendar (error : CalendarError)
  deriving DecidableEq, Repr

namespace LoadError

/-- The class name of a failure. -/
def className : LoadError → String
  | .recursion _ => "RecursionError"
  | .calendar error => error.className

/-- The message of a failure. -/
def message : LoadError → String
  | .recursion container => (JsonError.tooDeep container).message
  | .calendar error => error.message

end LoadError

/-- The token and expiry of a record as a naive UTC value, while the expiry is later than now. -/
def ofRecord (token : Json) (expiry now : DateTime) :
    Except CalendarError (Option (String × DateTime)) := do
  let expiry ← expiry.toNaiveUtc
  let current ← now.localToNaiveUtc
  if !token.truthy || expiry.utcMicros ≤ current.utcMicros then pure none
  else pure (some (token.text, expiry))

/-- The token of a cache and its expiry as a naive UTC value, while the expiry is later than now;
with the warnings given on the way. The file is read with room for `nesting` containers. -/
def load (nesting : Nat) (files : FileStore) (path : Option String) (now : DateTime) :
    Except LoadError (Option (String × DateTime)) × List String :=
  match path with
  | none => (.ok none, [])
  | some path =>
    if !files.pathExists path then (.ok none, [])
    else
      match files.read? path with
      | none => (.ok none, [unreadable path])
      | some bytes =>
        match readRecord nesting bytes with
        | .error container => (.error (.recursion container), [])
        | .ok none => (.ok none, [unreadable path])
        | .ok (some (token, expiry)) => ((ofRecord token expiry now).mapError .calendar, [])
/-! ## What storing leaves

A store that succeeds leaves the record in the file at the path (`read?_store`). One that fails
keeps what it made, and storing again from there fails the same way and changes nothing
(`store_of_store_failed`): the directories are there, and the write fails as it did.
-/

/-- A store that succeeds with a token that counts as true leaves its record in the file. -/
theorem read?_store {files stored : FileStore} {path : String} {token : Json} {expiry : DateTime}
    (truthy : token.truthy = true)
    (wrote : store files (some path) token (some expiry) = (none, stored)) :
    stored.read? path = some (Text.encodeUtf8 (recordText token expiry)) := by
  unfold store at wrote
  simp only [truthy, Bool.not_true, Bool.false_eq_true, if_false] at wrote
  cases made : files.makeDirectories (Path.parent path) with
  | error failure => simp [made] at wrote
  | ok made' =>
      cases written : made'.write path (Text.encodeUtf8 (recordText token expiry)) fileMode with
      | error failure => simp [made, written] at wrote
      | ok written' =>
          simp only [made, written, Prod.mk.injEq, true_and] at wrote
          rw [← wrote, FileStore.read?_setMode, FileStore.read?_write written]

/-- A store that failed fails again from the files it left, and leaves them. -/
theorem store_of_store_failed {files left : FileStore} {path : Option String} {token : Json}
    {expiry : Option DateTime} {failure : FileError}
    (failed : store files path token expiry = (some failure, left)) :
    store left path token expiry = (some failure, left) := by
  unfold store at failed ⊢
  match path, expiry with
  | some path, some expiry =>
      simp only at failed ⊢
      cases truthy : token.truthy
      · simp [truthy] at failed
      · simp only [truthy, Bool.not_true, Bool.false_eq_true, if_false] at failed ⊢
        cases made : files.makeDirectories (Path.parent path) with
        | error stopped =>
            simp only [made, Prod.mk.injEq, Option.some.injEq] at failed
            obtain ⟨rfl, rfl⟩ := failed
            rw [made]
        | ok made' =>
            cases written : made'.write path (Text.encodeUtf8 (recordText token expiry)) fileMode with
            | error stopped =>
                simp only [made, written, Prod.mk.injEq, Option.some.injEq] at failed
                obtain ⟨rfl, rfl⟩ := failed
                simp only [FileStore.makeDirectories_of_makeDirectories made, written]
            | ok written' => simp [made, written] at failed
  | some _, none => simp at failed
  | none, _ => simp at failed

end TokenCache

end SheetExport
