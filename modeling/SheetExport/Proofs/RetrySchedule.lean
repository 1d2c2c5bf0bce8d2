import Mathlib
import SheetExport.Client.Session

/-!
# Retries with backoff

A request to the service is executed until it is answered, fails in a way that is not worth
another attempt, or has failed as many times as the client's limit allows. Against a service that
answers from a script of replies, this says: with a limit of `m' = max 1 m` attempts and `f` the
position of the first reply that is not an HTTP failure with a passing status (429, 500, 502, 503
or 504), the request is executed `k = min f m'` times, consuming the first `k` replies, and the
client pauses `k - 1` times, for 1, 2, 4, 8 and then 16 seconds. The `k`-th reply decides the
end: an answer is returned, an HTTP failure is reported with its status as a failure of the
service, failures of the credentials, the transport or the system are reported without one, and
any other failure passes through unchanged. The replies after the `k`-th are never read, so the
script stands for every sequence of outcomes with the same first `m'` replies.

Reading a key column and writing a non-empty batch make one such request each, and inherit its
attempts, its pauses and its failure.
-/

namespace SheetExport

namespace Reply

/-- Whether a reply is worth another attempt: an HTTP failure with a passing status. -/
def isPassing : Reply → Bool
  | .failure reason => reason.isRetriable
  | .answer _ => false

/-- The status of a reply that failed over HTTP; zero for any other reply. -/
def status : Reply → Int
  | .failure (.http status _) => status
  | _ => 0

/-- How a request ends on a reply it does not try again: an answer is returned; an HTTP failure
is a failure of the service that names its status; a failure of the credentials, the transport
or the system is a failure of the service without one; any other failure is raised unchanged,
by its own class name and text. In each case the failure of the service keeps the failure that
caused it. -/
def ending (description : String) : Reply → Except ClientError Json
  | .answer response => .ok response
  | .failure (.http status message) => .error (.service description (.http status message))
  | .failure (.raised kind message) =>
    if kind.isServiceFailure then .error (.service description (.raised kind message))
    else .error (.other kind.className (Failure.raised kind message).text)

end Reply

/-- The reply a scripted service gives to its `n`-th execution from now, counted from zero: an
empty object once the script has run out. -/
def replyAt (replies : List Reply) (n : Nat) : Reply := replies.getD n (.answer (.obj []))

/-- The position, counted from one, of the first reply that is not worth another attempt. -/
def firstSettled (replies : List Reply) : Nat := (replies.takeWhile Reply.isPassing).length + 1

/-- Every reply before the first settled one is worth another attempt, and that one is not. -/
theorem firstSettled_spec (replies : List Reply) :
    (∀ i, i + 1 < firstSettled replies → (replyAt replies i).isPassing) ∧
      (replyAt replies (firstSettled replies - 1)).isPassing = false := by
  induction replies with
  | nil => exact ⟨fun i before => by simp [firstSettled] at before, by decide⟩
  | cons reply rest ih =>
      cases passing : reply.isPassing with
      | false =>
          refine ⟨fun i before => ?_, ?_⟩
          · simp [firstSettled, passing] at before
          · simp [firstSettled, passing, replyAt]
      | true =>
          obtain ⟨before, settled⟩ := ih
          have shift : firstSettled (reply :: rest) = firstSettled rest + 1 := by
            simp [firstSettled, passing]
          refine ⟨fun i earlier => ?_, ?_⟩
          · cases i with
            | zero => simpa [replyAt] using passing
            | succ i => exact before i (by omega)
          · have positive : 1 ≤ firstSettled rest := by simp [firstSettled]
            rw [shift, show firstSettled rest + 1 - 1 = (firstSettled rest - 1) + 1 by omega]
            simpa [replyAt] using settled

namespace Client

/-- The pauses of the schedule double from one second up to sixteen, and stay there. -/
theorem backoff_succ (attempt : Nat) : backoff (attempt + 1) = 2 ^ min attempt 4 := by
  unfold backoff
  rcases Nat.lt_or_ge attempt 4 with small | large
  · interval_cases attempt <;> rfl
  · rw [show attempt + 1 - 1 = attempt by omega, Nat.min_eq_right large]
    rfl

/-- Settling a failure is the ending of the reply that carries it. -/
theorem settle_eq_ending (description : String) (failure : Failure) :
    Except.error (settle description failure) = (Reply.failure failure).ending description := by
  cases failure with
  | http status message => rfl
  | raised kind message =>
      unfold settle Reply.ending
      cases service : kind.isServiceFailure <;>
        simp [Failure.isServiceFailure, Failure.className, service]

theorem firstSettled_cons_of_passing {reply : Reply} (passing : reply.isPassing = true)
    (rest : List Reply) : firstSettled (reply :: rest) = firstSettled rest + 1 := by
  simp [firstSettled, passing]

theorem firstSettled_cons_of_settled {reply : Reply} (settled : reply.isPassing = false)
    (rest : List Reply) : firstSettled (reply :: rest) = 1 := by
  simp [firstSettled, settled]

/-- A reply that is not worth another attempt at this one, or comes at the limit, ends the loop. -/
theorem retrying_scripted_settles (description : String) (limit : Int) (request : Request)
    {reply : Reply} (rest : List Reply) {attempt : Nat}
    (settles : reply.isPassing = true → limit ≤ attempt) (fuel : Nat) :
    retrying description (.whole limit) request attempt fuel (.scripted (reply :: rest)) =
      ((reply.ending description, [], []), .scripted rest) := by
  cases reply with
  | answer response => cases fuel <;> rfl
  | failure reason =>
      cases fuel with
      | zero => simp [retrying, Service.execute, settle_eq_ending]
      | succ fuel =>
          cases reason with
          | raised kind message => simp [retrying, Service.execute, settle_eq_ending]
          | http status message =>
              have stop : ((Failure.http status message).isRetriable &&
                  !(AttemptLimit.whole limit).reached attempt) = false := by
                cases retriable : (Failure.http status message).isRetriable
                · rfl
                · simpa [AttemptLimit.reached, Reply.isPassing, retriable] using settles
              simp only [retrying, Service.execute, stop, Bool.false_eq_true, if_false]
              simp [settle_eq_ending]

/-- An HTTP failure worth another attempt below the limit is waited out and warned of, and the
loop goes on from the next attempt with the rest of the script. -/
theorem retrying_scripted_again (description : String) (limit : Int) (request : Request)
    {status : Int} {message : String} (rest : List Reply) {attempt : Nat}
    (retriable : (Failure.http status message).isRetriable = true) (below : ¬ limit ≤ attempt)
    (fuel : Nat) :
    retrying description (.whole limit) request attempt (fuel + 1)
        (.scripted (.failure (.http status message) :: rest)) =
      let ((result, pauses, records), service) :=
        retrying description (.whole limit) request (attempt + 1) fuel (.scripted rest)
      ((result, backoff attempt :: pauses,
        retryWarning description status (backoff attempt) attempt (toString limit) :: records),
        service) := by
  simp only [retrying, Service.execute, retriable, AttemptLimit.reached, AttemptLimit.shown,
    below, decide_false, Bool.not_false, Bool.and_true, if_true]

/-- The retry loop against a scripted service, from attempt `attempt` up to a whole limit at or
above it, with fuel for every reply of the script. It executes the request `k` times, `k` being
the first settled reply or the attempts left, whichever comes first; pauses and warns before each
further attempt; and ends on the `k`-th reply. -/
theorem retrying_scripted (description : String) (limit : Int) (request : Request) :
    ∀ (replies : List Reply) (attempt : Nat), 1 ≤ attempt → (attempt : Int) ≤ limit →
      let k := min (firstSettled replies) (limit + 1 - attempt).toNat
      retrying description (.whole limit) request attempt replies.length (.scripted replies) =
        (((replyAt replies (k - 1)).ending description,
          (List.range (k - 1)).map (fun i => backoff (attempt + i)),
          (List.range (k - 1)).map (fun i => retryWarning description (replyAt replies i).status
            (backoff (attempt + i)) (attempt + i) (toString limit))),
          .scripted (replies.drop k))
  | [], attempt, _, within => by
      have one : min (firstSettled []) (limit + 1 - attempt).toNat = 1 := by
        simp [firstSettled]
        omega
      simp only [one]
      rfl
  | reply :: rest, attempt, positive, within => by
      by_cases again : reply.isPassing = true ∧ ¬ limit ≤ attempt
      · obtain ⟨passing, below⟩ := again
        obtain ⟨status, message, rfl⟩ : ∃ status message,
            reply = .failure (.http status message) := by
          cases reply with
          | answer response => simp [Reply.isPassing] at passing
          | failure reason =>
              cases reason with
              | http status message => exact ⟨status, message, rfl⟩
              | raised kind message => simp [Reply.isPassing, Failure.isRetriable] at passing
        have later := retrying_scripted description limit request rest (attempt + 1)
          (by omega) (by omega)
        obtain ⟨left, counted⟩ : ∃ left,
            min (firstSettled rest) (limit + 1 - (attempt + 1 : Nat)).toNat = left + 1 :=
          ⟨_, (Nat.succ_pred_eq_of_pos (by simp only [firstSettled]; omega)).symm⟩
        have shift : min (firstSettled (.failure (.http status message) :: rest))
            (limit + 1 - attempt).toNat = left + 2 := by
          rw [firstSettled_cons_of_passing passing]
          omega
        simp only [shift, counted] at later ⊢
        rw [List.length_cons, retrying_scripted_again description limit request rest passing below,
          later]
        simp [List.range_succ_eq_map, replyAt, Function.comp_def, Reply.status, Nat.add_assoc,
          Nat.add_comm 1]
      · have settles : reply.isPassing = true → limit ≤ attempt := fun passing => by
          simpa [passing] using again
        have one : min (firstSettled (reply :: rest)) (limit + 1 - attempt).toNat = 1 := by
          cases passing : reply.isPassing
          · rw [firstSettled_cons_of_settled passing]
            omega
          · have reached := settles passing
            simp only [firstSettled]
            omega
        simp only [one]
        rw [List.length_cons, retrying_scripted_settles description limit request rest settles]
        simp [replyAt]

/-- A call against a scripted service with a whole limit of at least one attempt. -/
theorem call_scripted (client : Client) (limit : Int) (positive : 1 ≤ limit) (replies : List Reply)
    (description : String) (request : Request) :
    let k := min (firstSettled replies) limit.toNat
    { client with service := .scripted replies, limit := .whole limit }.call description request =
      ((replyAt replies (k - 1)).ending description,
        ⟨(List.range (k - 1)).map (fun i => 2 ^ min i 4),
          (List.range (k - 1)).map (fun i => retryWarning description (replyAt replies i).status
            (2 ^ min i 4) (i + 1) (toString limit)),
          [request]⟩,
        { client with service := .scripted (replies.drop k), limit := .whole limit }) := by
  have loop := retrying_scripted description limit request replies 1 le_rfl (by omega)
  simp only [Nat.cast_one, add_sub_cancel_right] at loop
  simp only [call, Service.failureCount, loop, Nat.add_comm 1, backoff_succ]

/-- Persisting the token changes the files and the stored token only. -/
theorem persistToken_snd (client : Client) :
    client.persistToken.2 =
      { client with
        files := client.persistToken.2.files
        storedToken := client.persistToken.2.storedToken } := by
  unfold persistToken
  split
  · rfl
  · split
    · rfl
    · split
      · rfl
      · split <;> rfl

@[simp] theorem persistToken_service (client : Client) :
    client.persistToken.2.service = client.service :=
  (congrArg Client.service (persistToken_snd client) :)

@[simp] theorem persistToken_limit (client : Client) :
    client.persistToken.2.limit = client.limit :=
  (congrArg Client.limit (persistToken_snd client) :)

@[simp] theorem Trace.pauses_append (first second : Trace) :
    (first ++ second).pauses = first.pauses ++ second.pauses := rfl

/-- What a public call keeps of the request it makes: the pauses, the service it leaves, and the
failure the request ended in. -/
def KeepsRequest {α : Type} (request : Except ClientError Json × Trace × Client)
    (outcome : Except ClientError α × Trace × Client) : Prop :=
  outcome.2.1.pauses = request.2.1.pauses ∧ outcome.2.2.service = request.2.2.service ∧
    ∀ e, request.1 = .error e → outcome.1 = .error e

/-- Reading a key column is one request, `values.get` of the column's range. -/
theorem fetchKeyColumn_keeps_request (client : Client) (sheet : String) :
    KeepsRequest (client.call "values.get" (.read (keyRange sheet))) (client.fetchKeyColumn sheet) := by
  unfold fetchKeyColumn
  rcases client.call "values.get" (.read (keyRange sheet)) with ⟨result, trace, after⟩
  cases result with
  | error e => simp [KeepsRequest]
  | ok response =>
      rcases persisted : after.persistToken with ⟨outcome, later⟩
      have kept : later.service = after.service := by
        simpa [persisted] using persistToken_service after
      cases outcome <;> simp [KeepsRequest, persisted, kept]

/-- Writing a non-empty batch is one request, `values.batchUpdate` of its body. -/
theorem submitBatch_keeps_request (client : Client) (write : RowWrite) (writes : List RowWrite) :
    KeepsRequest (client.call "values.batchUpdate" (.write (batchBody (write :: writes))))
      (client.submitBatch (write :: writes)) := by
  unfold submitBatch
  rcases client.call "values.batchUpdate" (.write (batchBody (write :: writes))) with
    ⟨result, trace, after⟩
  cases result with
  | error e => simp [KeepsRequest]
  | ok response =>
      rcases persisted : after.persistToken with ⟨outcome, later⟩
      have kept : later.service = after.service := by
        simpa [persisted] using persistToken_service after
      cases outcome with
      | error e => simp [KeepsRequest, persisted, kept]
      | ok warnings => cases response <;> simp [KeepsRequest, persisted, kept]

/-- Every request against a script of replies, with the attempts limited to `max 1 m` for a whole
number `m`. With `k` the first reply not worth another attempt or the limit, whichever comes
first, a request executes `k` times, consuming `k` replies; it pauses `k - 1` times, for
`2 ^ min i 4` seconds before attempt `i + 2`, warning each time; and it ends as the `k`-th reply
says. Reading a key column and writing a non-empty batch are such requests and keep their
pauses, the replies they consumed and their failure. -/
theorem requests_retry_passing_failures (client : Client) (m : Int) (replies : List Reply) :
    let limited := { client with service := .scripted replies, limit := .whole (max 1 m) }
    let k := min (firstSettled replies) (max 1 m).toNat
    AttemptLimit.ofJson (.int m) = .ok (.whole (max 1 m)) ∧
    ((∀ i, i + 1 < firstSettled replies → (replyAt replies i).isPassing) ∧
      (replyAt replies (firstSettled replies - 1)).isPassing = false) ∧
    (∀ description request, limited.call description request =
      ((replyAt replies (k - 1)).ending description,
        ⟨(List.range (k - 1)).map (fun i => 2 ^ min i 4),
          (List.range (k - 1)).map (fun i => retryWarning description (replyAt replies i).status
            (2 ^ min i 4) (i + 1) (toString (max 1 m))),
          [request]⟩,
        { limited with service := .scripted (replies.drop k) })) ∧
    (∀ sheet, KeepsRequest (limited.call "values.get" (.read (keyRange sheet)))
      (limited.fetchKeyColumn sheet)) ∧
    ∀ write writes, KeepsRequest
      (limited.call "values.batchUpdate" (.write (batchBody (write :: writes))))
      (limited.submitBatch (write :: writes)) :=
  ⟨rfl, firstSettled_spec replies,
    fun description request =>
      call_scripted client (max 1 m) (le_max_left 1 m) replies description request,
    fun sheet => fetchKeyColumn_keeps_request _ sheet,
    fun write writes => submitBatch_keeps_request _ write writes⟩

/-- Two busy replies are waited out for one and two seconds before the third answers. -/
example :
    let called := Client.call ⟨"sheet-123", .scripted [.failure (.http 503 "busy"),
      .failure (.http 429 "slow"), .answer (.int 7)], .whole 5, none, none, .null, FileStore.empty⟩
      "values.get" (.read "stores!A1:A")
    called.1 = .ok (.int 7) ∧ called.2.1.pauses = [1, 2] :=
  ⟨rfl, rfl⟩

end Client

end SheetExport
