import Mathlib
import SheetExport.Client.Session

/-!
# Persisting the access token

After each request that succeeds, the client writes its access token to the cache when the token
counts as true and differs from the last one it stored; a write that the system refuses is reported
as a warning and leaves the stored token, so it is made again after the next request that
succeeds.

The cache write a client would make is `Client.cacheWrite`, the token with what storing it gives.
Reading a key column and writing a non-empty batch each make one request and persist after it only
when it succeeds (`Client.PersistsAfter`); an empty batch makes no request. Over a session of such
calls, with the credentials renewed in between, a token equal to the stored one is never written
again (`Client.SameCache`), and a write that failed stays pending as it was
(`Client.SamePending`): the directories it made are there, so it fails again the same way after
every request that succeeds until the token is renewed. A write that succeeds leaves the record of
the token in the file at the cache path.
-/

namespace SheetExport

namespace Client

open Calendar

/-- The cache write that persisting makes, with the token it stores: none when the client holds no
credentials, or its token counts as false or equals the last token stored; otherwise storing the
token with its expiry at the cache path, which gives the failure that stopped it, if one did, and
the files after it. -/
def cacheWrite (client : Client) : Option (Json × (Option FileError × FileStore)) :=
  match client.credentials with
  | none => none
  | some credentials =>
    if credentials.token.truthy && !credentials.token.looseEq client.storedToken then
      some (credentials.token,
        TokenCache.store client.files client.cachePath credentials.token credentials.expiry)
    else none

/-- The warning for a cache write that the system refuses. -/
def cacheWarning (client : Client) : LogRecord :=
  .ofClient .warning ("Could not write token cache " ++ client.cachePath.getD "None")

/-- A cache write is made exactly for credentials whose token counts as true and differs from the
last token stored, and it stores that token with its expiry at the cache path. -/
theorem cacheWrite_eq_some {client : Client} {token : Json}
    {result : Option FileError × FileStore} :
    client.cacheWrite = some (token, result) ↔
      ∃ credentials, client.credentials = some credentials ∧ credentials.token = token ∧
        token.truthy = true ∧ token.looseEq client.storedToken = false ∧
        result = TokenCache.store client.files client.cachePath token credentials.expiry := by
  unfold cacheWrite
  cases client.credentials with
  | none => simp
  | some credentials =>
      by_cases wanted : credentials.token.truthy && !credentials.token.looseEq client.storedToken
      · simp only [wanted, if_true, Option.some.injEq, Prod.mk.injEq]
        simp only [Bool.and_eq_true, Bool.not_eq_true'] at wanted
        constructor
        · rintro ⟨rfl, rfl⟩
          exact ⟨credentials, rfl, rfl, wanted.1, wanted.2, rfl⟩
        · rintro ⟨_, ⟨⟩, rfl, -, -, rfl⟩
          exact ⟨rfl, rfl⟩
      · simp only [wanted, Bool.false_eq_true, if_false, reduceCtorEq, false_iff]
        rintro ⟨_, ⟨⟩, rfl, truthy, differs, -⟩
        simp [truthy, differs] at wanted

/-- A cache write that failed, made again from the files it left, fails the same way. -/
theorem cacheWrite_of_failed {client : Client} {token : Json} {failure : FileError}
    {left : FileStore} (failed : client.cacheWrite = some (token, (some failure, left))) :
    { client with files := left }.cacheWrite = some (token, (some failure, left)) := by
  obtain ⟨credentials, held, same, truthy, differs, stored⟩ := cacheWrite_eq_some.1 failed
  exact cacheWrite_eq_some.2 ⟨credentials, held, same, truthy, differs,
    (TokenCache.store_of_store_failed stored.symm).symm⟩

/-- Persisting makes the client's cache write: nothing changes without one; a write that succeeds
sets the files and the stored token; one that fails keeps the stored token and what the write made
in the files, and is warned of when the system refused it, failing persisting otherwise. -/
theorem persistToken_eq (client : Client) :
    client.persistToken = match client.cacheWrite with
      | none => (.ok [], client)
      | some (token, (none, files)) => (.ok [], { client with files := files, storedToken := token })
      | some (_, (some failure, files)) =>
        if failure.isOSError then (.ok [client.cacheWarning], { client with files := files })
        else (.error (.other failure.className failure.message), { client with files := files }) := by
  obtain ⟨spreadsheetId, service, limit, credentials, cachePath, storedToken, files⟩ := client
  unfold persistToken cacheWrite
  cases credentials with
  | none => rfl
  | some credentials =>
      dsimp only
      cases truthy : credentials.token.truthy
      · rfl
      · cases same : credentials.token.looseEq storedToken
        · rcases TokenCache.store files cachePath credentials.token credentials.expiry with
            ⟨_ | failure, written⟩ <;> rfl
        · rfl

/-- Two clients that agree on all that persisting reads and writes: the credentials, the cache
path, the last token stored and the files. -/
structure SameCache (client other : Client) : Prop where
  credentials : client.credentials = other.credentials
  cachePath : client.cachePath = other.cachePath
  storedToken : client.storedToken = other.storedToken
  files : client.files = other.files

/-- Two clients with the same pending cache write: they agree on the credentials, the cache path
and the last token stored, and the write each would make is the same. -/
structure SamePending (client other : Client) : Prop where
  credentials : client.credentials = other.credentials
  cachePath : client.cachePath = other.cachePath
  storedToken : client.storedToken = other.storedToken
  cacheWrite : client.cacheWrite = other.cacheWrite

namespace SameCache

theorem refl (client : Client) : SameCache client client := ⟨rfl, rfl, rfl, rfl⟩

theorem trans {client middle other : Client} (first : SameCache client middle)
    (second : SameCache middle other) : SameCache client other :=
  ⟨first.1.trans second.1, first.2.trans second.2, first.3.trans second.3, first.4.trans second.4⟩

theorem cacheWrite_eq {client other : Client} (same : SameCache client other) :
    client.cacheWrite = other.cacheWrite := by
  simp only [cacheWrite, same.credentials, same.cachePath, same.storedToken, same.files]

theorem samePending {client other : Client} (same : SameCache client other) :
    SamePending client other :=
  ⟨same.credentials, same.cachePath, same.storedToken, same.cacheWrite_eq⟩

end SameCache

namespace SamePending

theorem refl (client : Client) : SamePending client client := ⟨rfl, rfl, rfl, rfl⟩

theorem trans {client middle other : Client} (first : SamePending client middle)
    (second : SamePending middle other) : SamePending client other :=
  ⟨first.1.trans second.1, first.2.trans second.2, first.3.trans second.3, first.4.trans second.4⟩

theorem cacheWarning_eq {client other : Client} (same : SamePending client other) :
    client.cacheWarning = other.cacheWarning := by
  simp only [cacheWarning, same.cachePath]

end SamePending

/-- A request changes the client's service only. -/
theorem sameCache_call (client : Client) (description : String) (request : Request) :
    SameCache (client.call description request).2.2 client := by
  unfold call
  split
  exact ⟨rfl, rfl, rfl, rfl⟩

/-- Persisting without a cache write leaves the client. -/
theorem persistToken_of_cacheWrite_none {client : Client} (none : client.cacheWrite = none) :
    client.persistToken = (.ok [], client) := by
  rw [persistToken_eq, none]

/-- Persisting with a cache write that fails keeps the write pending as it was. -/
theorem samePending_persistToken {client : Client}
    (noSuccess : ∀ token files, client.cacheWrite ≠ some (token, (none, files))) :
    SamePending client.persistToken.2 client := by
  rw [persistToken_eq]
  cases written : client.cacheWrite with
  | none => exact SamePending.refl _
  | some write =>
      obtain ⟨token, _ | failure, left⟩ := write
      · exact absurd written (noSuccess token left)
      · have again := cacheWrite_of_failed written
        have kept : SamePending { client with files := left } client :=
          ⟨rfl, rfl, rfl, again.trans written.symm⟩
        by_cases system : failure.isOSError <;> simpa [system] using kept

@[simp] theorem Trace.records_append (first second : Trace) :
    (first ++ second).records = first.records ++ second.records := rfl

/-- An operation that makes one request and persists the token after it only when it succeeds.
After a failure it ends with the request's failure, trace and client. After a success it ends with
the client as persisting leaves it: when persisting fails, with that failure and the request's
trace; otherwise with the response finished by `finish`, and the request's records followed by
persisting's warnings. -/
structure PersistsAfter {α : Type} (finish : Json → Except ClientError α)
    (request : Except ClientError Json × Trace × Client)
    (outcome : Except ClientError α × Trace × Client) : Prop where
  failed : ∀ e, request.1 = .error e → outcome = (.error e, request.2)
  persisted : ∀ response, request.1 = .ok response → outcome.2.2 = request.2.2.persistToken.2
  refused : ∀ response e, request.1 = .ok response → request.2.2.persistToken.1 = .error e →
    outcome.1 = .error e ∧ outcome.2.1 = request.2.1
  finished : ∀ response warnings, request.1 = .ok response →
    request.2.2.persistToken.1 = .ok warnings →
    outcome.1 = finish response ∧
      ∃ later, outcome.2.1.records = request.2.1.records ++ warnings ++ later

/-- Reading a key column persists after its request, and reads the column from the response. -/
theorem fetchKeyColumn_persistsAfter (client : Client) (sheet : String) :
    PersistsAfter keyColumnOf (client.call "values.get" (.read (keyRange sheet)))
      (client.fetchKeyColumn sheet) := by
  unfold fetchKeyColumn
  rcases client.call "values.get" (.read (keyRange sheet)) with ⟨result, trace, after⟩
  cases result with
  | error e => exact ⟨by simp, by simp, by simp, by simp⟩
  | ok response =>
      rcases persisted : after.persistToken with ⟨_ | warnings, later⟩
      all_goals exact ⟨by simp, by simp [persisted], by simp [persisted], by simp [persisted]⟩

/-- The answer of a batch write: the response when it is an object, an empty object otherwise. -/
def acceptance (response : Json) : Except ClientError Json :=
  match response with
  | .obj _ => .ok response
  | _ => .ok (.obj [])

/-- Writing a non-empty batch persists after its request, and never fails once both succeeded. -/
theorem submitBatch_persistsAfter (client : Client) (write : RowWrite) (writes : List RowWrite) :
    PersistsAfter acceptance
      (client.call "values.batchUpdate" (.write (batchBody (write :: writes))))
      (client.submitBatch (write :: writes)) := by
  unfold submitBatch
  rcases client.call "values.batchUpdate" (.write (batchBody (write :: writes))) with
    ⟨result, trace, after⟩
  cases result with
  | error e => exact ⟨by simp, by simp, by simp, by simp⟩
  | ok response =>
      rcases persisted : after.persistToken with ⟨_ | warnings, later⟩
      · exact ⟨by simp, by simp [persisted], by simp [persisted], by simp [persisted]⟩
      · refine ⟨by simp, ?_, by simp [persisted], fun _ _ answered warned => ?_⟩
        · cases response <;> simp [persisted]
        · simp only [persisted, Except.ok.injEq] at answered warned
          subst answered warned
          cases response
          case obj members =>
            exact ⟨by simp [persisted, acceptance], _, by simp [persisted]; rfl⟩
          all_goals exact ⟨by simp [persisted, acceptance], [], by simp [persisted]⟩

/-- One event of a session with the spreadsheet: reading a sheet's key column, writing a batch of
rows, or the credentials taking a new token and expiry. -/
inductive SessionEvent where
  | fetch (sheet : String)
  | submit (writes : List RowWrite)
  | renew (token : Json) (expiry : Option DateTime)

namespace SessionEvent

def isRenewal : SessionEvent → Bool
  | .renew _ _ => true
  | _ => false

/-- The request an event makes, with its description: none for a renewal or an empty batch. -/
def request? : SessionEvent → Option (String × Request)
  | .fetch sheet => some ("values.get", .read (keyRange sheet))
  | .submit [] => none
  | .submit writes => some ("values.batchUpdate", .write (batchBody writes))
  | .renew _ _ => none

end SessionEvent

/-- The log records of an event and the client after it. -/
def perform (client : Client) : SessionEvent → List LogRecord × Client
  | .fetch sheet => ((client.fetchKeyColumn sheet).2.1.records, (client.fetchKeyColumn sheet).2.2)
  | .submit writes => ((client.submitBatch writes).2.1.records, (client.submitBatch writes).2.2)
  | .renew token expiry => ([], { client with credentials := some ⟨token, expiry⟩ })

/-- The log records of a session's events, in order, and the client after them. -/
def session (client : Client) : List SessionEvent → List LogRecord × Client
  | [] => ([], client)
  | event :: events =>
    ((client.perform event).1 ++ ((client.perform event).2.session events).1,
      ((client.perform event).2.session events).2)

/-- Every event that makes a request is an operation that persists after it. -/
theorem exists_persistsAfter {client : Client} {event : SessionEvent} {description : String}
    {request : Request} (requested : event.request? = some (description, request)) :
    ∃ (α : Type) (finish : Json → Except ClientError α)
      (outcome : Except ClientError α × Trace × Client),
      PersistsAfter finish (client.call description request) outcome ∧
        client.perform event = (outcome.2.1.records, outcome.2.2) := by
  cases event with
  | fetch sheet =>
      simp only [SessionEvent.request?, Option.some.injEq, Prod.mk.injEq] at requested
      obtain ⟨rfl, rfl⟩ := requested
      exact ⟨_, _, _, fetchKeyColumn_persistsAfter client sheet, rfl⟩
  | submit writes =>
      cases writes with
      | nil => simp [SessionEvent.request?] at requested
      | cons write writes =>
          simp only [SessionEvent.request?, Option.some.injEq, Prod.mk.injEq] at requested
          obtain ⟨rfl, rfl⟩ := requested
          exact ⟨_, _, _, submitBatch_persistsAfter client write writes, rfl⟩
  | renew token expiry => simp [SessionEvent.request?] at requested

/-- An event that renews nothing ends with the client itself when it makes no request, and
otherwise with the client its request left, or with that client as persisting leaves it. -/
theorem perform_client {client : Client} {event : SessionEvent} (kept : event.isRenewal = false) :
    (client.perform event).2 = client ∨ ∃ description request,
      (client.perform event).2 = (client.call description request).2.2 ∨
        (client.perform event).2 = (client.call description request).2.2.persistToken.2 := by
  cases requested : event.request? with
  | none =>
      left
      cases event with
      | fetch sheet => simp [SessionEvent.request?] at requested
      | submit writes =>
          cases writes with
          | nil => rfl
          | cons write writes => simp [SessionEvent.request?] at requested
      | renew token expiry => simp [SessionEvent.isRenewal] at kept
  | some pair =>
      obtain ⟨description, request⟩ := pair
      obtain ⟨α, finish, outcome, persists, performed⟩ := exists_persistsAfter requested
      right
      refine ⟨description, request, ?_⟩
      rw [performed]
      cases answered : (client.call description request).1 with
      | error e => exact .inl (by rw [persists.failed e answered])
      | ok response => exact .inr (persists.persisted response answered)

/-- An event that renews nothing, at a client without a cache write, keeps the cache. -/
theorem sameCache_perform {client : Client} {event : SessionEvent}
    (kept : event.isRenewal = false) (none : client.cacheWrite = none) :
    SameCache (client.perform event).2 client := by
  rcases perform_client kept with same | ⟨description, request, called | persisted⟩
  · rw [same]
    exact SameCache.refl _
  · rw [called]
    exact sameCache_call client description request
  · have called := sameCache_call client description request
    rw [persisted, persistToken_of_cacheWrite_none (called.cacheWrite_eq.trans none)]
    exact called

/-- An event that renews nothing, at a client whose cache write would not succeed, keeps the write
pending as it was. -/
theorem samePending_perform {client : Client} {event : SessionEvent}
    (kept : event.isRenewal = false)
    (noSuccess : ∀ token files, client.cacheWrite ≠ some (token, (none, files))) :
    SamePending (client.perform event).2 client := by
  rcases perform_client kept with same | ⟨description, request, called | persisted⟩
  · rw [same]
    exact SamePending.refl _
  · rw [called]
    exact (sameCache_call client description request).samePending
  · have called := sameCache_call client description request
    rw [persisted]
    refine (samePending_persistToken fun token files => ?_).trans called.samePending
    rw [called.cacheWrite_eq]
    exact noSuccess token files

/-- What every event that renews nothing keeps, a session without renewals keeps: a relation of
the clients a session passes through to the client it started from, kept by each step. -/
theorem session_keeps {keeps : Client → Client → Prop} {client start : Client}
    {events : List SessionEvent} (trans : ∀ {first middle last}, keeps first middle →
      keeps middle last → keeps first last)
    (step : ∀ {current : Client} (event : SessionEvent), keeps current client →
      event.isRenewal = false → keeps (current.perform event).2 current)
    (noRenewal : ∀ event ∈ events, event.isRenewal = false) (started : keeps start client) :
    keeps (start.session events).2 client := by
  induction events generalizing start with
  | nil => exact started
  | cons event events ih =>
      have first := step event started (noRenewal event List.mem_cons_self)
      exact ih (fun later member => noRenewal later (List.mem_cons_of_mem _ member))
        (trans first started)

/-- A request that succeeds, at a client whose cache write the system refuses, is followed by a
warning and leaves the stored token. -/
theorem cacheWarning_mem_of_persistsAfter {α : Type} {finish : Json → Except ClientError α}
    {client : Client} {description : String} {request : Request}
    {outcome : Except ClientError α × Trace × Client} {response token : Json}
    {failure : FileError} {left : FileStore}
    (persists : PersistsAfter finish (client.call description request) outcome)
    (answered : (client.call description request).1 = .ok response)
    (failing : client.cacheWrite = some (token, (some failure, left)))
    (system : failure.isOSError = true) :
    client.cacheWarning ∈ outcome.2.1.records ∧ outcome.2.2.storedToken = client.storedToken := by
  have called := sameCache_call client description request
  have persisted : (client.call description request).2.2.persistToken =
      (.ok [client.cacheWarning], { (client.call description request).2.2 with files := left }) := by
    rw [persistToken_eq, called.cacheWrite_eq, failing]
    simp [system, cacheWarning, called.cachePath]
  obtain ⟨-, later, records⟩ := persists.finished response _ answered (by rw [persisted])
  refine ⟨by simp [records], ?_⟩
  rw [persists.persisted response answered, persisted]
  exact called.storedToken

/-- After a request that succeeds and a cache write that succeeds with a path and an expiry, the
file at the path holds the record of the token, and the token is the one stored. -/
theorem read?_of_persistsAfter {α : Type} {finish : Json → Except ClientError α}
    {client : Client} {description : String} {request : Request}
    {outcome : Except ClientError α × Trace × Client} {response : Json} {path : String}
    {credentials : Credentials} {expiry : DateTime} {files : FileStore}
    (persists : PersistsAfter finish (client.call description request) outcome)
    (answered : (client.call description request).1 = .ok response)
    (cached : client.cachePath = some path) (held : client.credentials = some credentials)
    (expiring : credentials.expiry = some expiry)
    (written : client.cacheWrite = some (credentials.token, (none, files))) :
    outcome.2.2.files.read? path =
        some (Text.encodeUtf8 (TokenCache.recordText credentials.token expiry)) ∧
      outcome.2.2.storedToken = credentials.token := by
  have called := sameCache_call client description request
  have persisted : outcome.2.2 = { (client.call description request).2.2 with
      files := files, storedToken := credentials.token } := by
    rw [persists.persisted response answered, persistToken_eq, called.cacheWrite_eq, written]
  obtain ⟨_, same, -, truthy, -, stored⟩ := cacheWrite_eq_some.1 written
  rw [held, Option.some.injEq] at same
  subst same
  rw [cached, expiring] at stored
  rw [persisted]
  exact ⟨TokenCache.read?_store truthy stored.symm, rfl⟩

/-- The token cache over any session of requests. Reading a key column and writing a non-empty
batch each make one request and persist the token after it only when it succeeds; an empty batch
makes no request and leaves the client. Persisting makes the client's cache write, which is made
exactly when the client holds credentials whose token counts as true and differs from the last
token stored: a write that succeeds sets the files and the stored token; one that fails keeps the
stored token and is warned of when the system refused it. Hence, between renewals of the
credentials, a token equal to the stored one is never written; a write that the system refused is
made again, warned of and leaves the stored token, at every later request that succeeds; and
after a request whose write succeeds with a cache path and an expiry, the cache file holds the
record of the current token, which is then the one stored. -/
theorem token_cached_after_successful_requests (client : Client) :
    (∀ sheet, PersistsAfter keyColumnOf (client.call "values.get" (.read (keyRange sheet)))
      (client.fetchKeyColumn sheet)) ∧
    (∀ write writes, PersistsAfter acceptance
      (client.call "values.batchUpdate" (.write (batchBody (write :: writes))))
      (client.submitBatch (write :: writes))) ∧
    client.submitBatch [] =
      (.ok (.obj []), ⟨[], [.ofClient .info "No row updates to submit"], []⟩, client) ∧
    (client.cacheWrite.isSome ↔ ∃ credentials, client.credentials = some credentials ∧
      credentials.token.truthy = true ∧ credentials.token.looseEq client.storedToken = false) ∧
    client.persistToken = (match client.cacheWrite with
      | none => (.ok [], client)
      | some (token, (none, files)) => (.ok [], { client with files := files, storedToken := token })
      | some (_, (some failure, files)) =>
        if failure.isOSError then (.ok [client.cacheWarning], { client with files := files })
        else (.error (.other failure.className failure.message), { client with files := files })) ∧
    (∀ credentials events, client.credentials = some credentials →
      credentials.token.looseEq client.storedToken = true →
      (∀ event ∈ events, event.isRenewal = false) → SameCache (client.session events).2 client) ∧
    (∀ token failure left before event description request response,
      client.cacheWrite = some (token, (some failure, left)) → failure.isOSError = true →
      (∀ earlier ∈ before, earlier.isRenewal = false) →
      event.request? = some (description, request) →
      ((client.session before).2.call description request).1 = .ok response →
      client.cacheWarning ∈ ((client.session before).2.perform event).1 ∧
        ((client.session before).2.perform event).2.storedToken = client.storedToken) ∧
    ∀ path credentials expiry files event description request response,
      client.cachePath = some path → client.credentials = some credentials →
      credentials.expiry = some expiry →
      client.cacheWrite = some (credentials.token, (none, files)) →
      event.request? = some (description, request) →
      (client.call description request).1 = .ok response →
      (client.perform event).2.files.read? path =
          some (Text.encodeUtf8 (TokenCache.recordText credentials.token expiry)) ∧
        (client.perform event).2.storedToken = credentials.token := by
  refine ⟨fetchKeyColumn_persistsAfter client, submitBatch_persistsAfter client, rfl, ?made,
    persistToken_eq client, ?unchanged, ?retried, ?held⟩
  case made =>
    constructor
    · intro isSome
      obtain ⟨⟨token, result⟩, written⟩ := Option.isSome_iff_exists.1 isSome
      obtain ⟨credentials, held, rfl, truthy, differs, -⟩ := cacheWrite_eq_some.1 written
      exact ⟨credentials, held, truthy, differs⟩
    · rintro ⟨credentials, held, truthy, differs⟩
      exact Option.isSome_iff_exists.2 ⟨_, cacheWrite_eq_some.2 ⟨credentials, held, rfl, truthy,
        differs, rfl⟩⟩
  case unchanged =>
    intro credentials events held same noRenewal
    have none : client.cacheWrite = none := by
      cases written : client.cacheWrite with
      | none => rfl
      | some write =>
          obtain ⟨token, result⟩ := write
          obtain ⟨_, held', rfl, -, differs, -⟩ := cacheWrite_eq_some.1 written
          rw [held, Option.some.injEq] at held'
          subst held'
          simp [same] at differs
    exact session_keeps SameCache.trans
      (fun event same kept => sameCache_perform kept (same.cacheWrite_eq.trans none))
      noRenewal (SameCache.refl client)
  case retried =>
    intro token failure left before event description request response failing system noRenewal
      requested answered
    have kept : SamePending (client.session before).2 client :=
      session_keeps SamePending.trans
        (fun event same renews => samePending_perform renews fun token files written => by
          rw [same.cacheWrite, failing] at written
          simp at written)
        noRenewal (SamePending.refl client)
    obtain ⟨α, finish, outcome, persists, performed⟩ := exists_persistsAfter requested
    rw [performed, ← kept.cacheWarning_eq, ← kept.storedToken]
    exact cacheWarning_mem_of_persistsAfter persists answered (kept.cacheWrite.trans failing) system
  case held =>
    intro path credentials expiry files event description request response cached held expiring
      written requested answered
    obtain ⟨α, finish, outcome, persists, performed⟩ := exists_persistsAfter requested
    rw [performed]
    exact read?_of_persistsAfter persists answered cached held expiring written

/-- A client of a service that answers every request with an empty object, holding the token
`tok` until 2030, with its cache at `/cache/token.json` in the given files. -/
def answeringClient (files : FileStore) : Client :=
  ⟨"sheet", .scripted [], .whole 5, some ⟨.str "tok", some ⟨⟨2030, 1, 1⟩, 0, 0, 0, 0, none⟩⟩,
    some "/cache/token.json", .null, files⟩

/-- Files with a plain file at `/cache`, where the cache's directory would go. -/
def blockedCache : FileStore := FileStore.empty.put "/cache" (.file [] 0o644)

/-- Two sessions of key-column reads. Where a file stands in the way of the cache's directory,
the system refuses the write; after a second read it is made again and warned of, and nothing is
stored. In an empty store the write succeeds, and after one read the cache file holds the token's
record. -/
theorem token_cached_after_blocked_and_fresh_reads :
    (answeringClient blockedCache).cacheWrite =
        some (.str "tok", (some (.exists "/cache"), blockedCache)) ∧
      (answeringClient blockedCache).cacheWarning ∈
        (((answeringClient blockedCache).session [.fetch "Sheet1"]).2.perform (.fetch "Sheet1")).1 ∧
      (((answeringClient blockedCache).session [.fetch "Sheet1"]).2.perform
        (.fetch "Sheet1")).2.storedToken = .null ∧
    ((answeringClient .empty).perform (.fetch "Sheet1")).2.files.read? "/cache/token.json" =
        some (Text.encodeUtf8 (TokenCache.recordText (.str "tok") ⟨⟨2030, 1, 1⟩, 0, 0, 0, 0, none⟩)) ∧
      ((answeringClient .empty).perform (.fetch "Sheet1")).2.storedToken = .str "tok" := by
  have failing : (answeringClient blockedCache).cacheWrite =
      some (.str "tok", (some (.exists "/cache"), blockedCache)) := by
    with_unfolding_all rfl
  obtain ⟨-, -, -, -, -, -, retrying, -⟩ :=
    token_cached_after_successful_requests (answeringClient blockedCache)
  obtain ⟨-, -, -, -, -, -, -, holding⟩ :=
    token_cached_after_successful_requests (answeringClient .empty)
  have retried := retrying (.str "tok") (.exists "/cache") blockedCache [.fetch "Sheet1"]
    (.fetch "Sheet1") "values.get" (.read (keyRange "Sheet1")) (.obj []) failing rfl
    (by simp [SessionEvent.isRenewal]) rfl (by with_unfolding_all rfl)
  have held := holding "/cache/token.json" ⟨.str "tok", some ⟨⟨2030, 1, 1⟩, 0, 0, 0, 0, none⟩⟩
    ⟨⟨2030, 1, 1⟩, 0, 0, 0, 0, none⟩
    (TokenCache.store .empty (some "/cache/token.json") (.str "tok")
      (some ⟨⟨2030, 1, 1⟩, 0, 0, 0, 0, none⟩)).2
    (.fetch "Sheet1") "values.get" (.read (keyRange "Sheet1")) (.obj []) rfl rfl rfl
    (by with_unfolding_all rfl) rfl rfl
  exact ⟨failing, retried.1, retried.2, held⟩

end Client

end SheetExport
