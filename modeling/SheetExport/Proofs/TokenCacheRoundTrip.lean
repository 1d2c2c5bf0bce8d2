import Mathlib
import SheetExport.Main
import SheetExport.Proofs.JsonTextRecords
import SheetExport.Proofs.IsoTextRoundTrip

/-!
# Loading a stored token back

The token cache is written as an indented JSON record of the token and the ISO text of its
expiry. `readRecord_recordText` reads such a record back from its bytes: the text is ASCII, the
record parses to itself with room for one container, and the ISO text gives back the expiry, with
an offset of a fraction of a second read as UTC. `load_store` follows a store with a load.

Whatever a file holds, loading gives nothing, or a token whose expiry is later than now
(`load_later_than_now`), or fails (`load_fails_iff`): when the file's document nests deeper than
the reader has room for, or when moving the expiry or now to UTC fails. That happens after the
record is read: a value in the first or last hours of the calendar can move out of it, and a naive
now on the first day of the calendar is read as local time, which looks back into year 0.
-/

namespace SheetExport

open Calendar Text

namespace Calendar.DateTime

/-- Moving a value to UTC fails only by leaving the calendar. -/
theorem toNaiveUtc_eq_error {value : DateTime} {error : CalendarError}
    (failed : value.toNaiveUtc = .error error) : error = .outOfRange := by
  unfold toNaiveUtc toUtc at failed
  split at failed
  · cases failed
  · simp only at failed
    split_ifs at failed
    · simp only [bind, Except.bind, Except.error.injEq] at failed
      exact failed.symm
    · cases failed

/-- A naive value moves to UTC as it is. -/
theorem toNaiveUtc_of_naive {value : DateTime} (naive : value.offset = none) :
    value.toNaiveUtc = .ok value := by
  obtain ⟨date, hour, minute, second, micro, offset⟩ := value
  subst naive
  rfl

/-- Reading a value as local time fails for an aware value that leaves the calendar, and for a
naive value on the first day of the calendar, whose day before lies in year 0. -/
theorem localToNaiveUtc_eq_error_iff {value : DateTime} {error : CalendarError} :
    value.localToNaiveUtc = .error error ↔
      (value.offset.isSome ∧ value.toNaiveUtc = .error .outOfRange ∧ error = .outOfRange) ∨
        (value.offset = none ∧ value.date = ⟨1, 1, 1⟩ ∧ error = .yearOutOfRange 0) := by
  unfold localToNaiveUtc
  cases offset : value.offset with
  | none =>
      by_cases first : value.date = ⟨1, 1, 1⟩
      · simp [first, eq_comm]
      · simp [first]
  | some shift =>
      constructor
      · intro failed
        obtain rfl := toNaiveUtc_eq_error failed
        exact .inl ⟨rfl, failed, rfl⟩
      · rintro (⟨-, failed, rfl⟩ | ⟨⟨⟩, -, -⟩)
        exact failed

end Calendar.DateTime

namespace TokenCache

/-- The record of a token and an expiry, read back from its bytes: the token as it was, and the
expiry as its ISO form reads back. -/
theorem readRecord_recordText {token : String} {expiry : DateTime} (nesting : Nat)
    (unpaired : Json.Unpaired token.toList) (checked : expiry.check = .ok expiry)
    (offsetSmall : ∀ offset ∈ expiry.offset, offset.natAbs < 86400000000) :
    readRecord (nesting + 1) (encodeUtf8 (recordText (.str token) expiry)) =
      .ok (some (.str token, { expiry with offset := expiry.offset.map DateTime.readOffset })) := by
  obtain ⟨valid, early, late⟩ := DateTime.valid_of_check checked
  have record : recordText (.str token) expiry = Json.render JsonStyle.indented
      (Json.textRecord [("token", token), ("expiry", expiry.isoText)]) := rfl
  have untouched := Json.untouched_render_textRecord [("token", token), ("expiry", expiry.isoText)]
  rw [← record] at untouched
  have ascii : IsAscii (recordText (.str token) expiry).toList := fun c inside =>
    (untouched c inside).1
  have noReturn : '\r' ∉ (recordText (.str token) expiry).toList := fun inside =>
    (untouched '\r' inside).2 rfl
  have namesAscii : IsAscii "token".toList ∧ IsAscii "expiry".toList := by
    simp [IsAscii]
  have isoUnpaired := Json.unpaired_of_isAscii (DateTime.isAscii_isoText valid early late offsetSmall)
  have parsed : Json.parse (nesting + 1) (recordText (.str token) expiry) =
      .ok (Json.textRecord [("token", token), ("expiry", expiry.isoText)]) := by
    rw [record]
    refine Json.parse_render_textRecord nesting (by simp) ?_
    intro member inside
    simp only [List.mem_cons, List.not_mem_nil, or_false] at inside
    rcases inside with rfl | rfl
    · exact ⟨Json.unpaired_of_isAscii namesAscii.1, unpaired⟩
    · exact ⟨Json.unpaired_of_isAscii namesAscii.2, isoUnpaired⟩
  have expiryFound : [("token", Json.str token), ("expiry", Json.str expiry.isoText)].lookup
      "expiry" = some (.str expiry.isoText) := rfl
  unfold readRecord
  rw [decodeUtf8_encodeUtf8 ascii]
  simp only
  rw [uniformLineEnds_of_not_mem noReturn, String.ofList_toList, parsed]
  simp [recordOf, Json.textRecord, expiryFound, Json.str?,
    DateTime.ofIsoText_isoText checked offsetSmall, Except.toOption]

/-- Making a record's token and expiry fails exactly when moving the expiry, or then now read as
local time, to UTC fails. -/
theorem ofRecord_eq_error_iff {token : Json} {expiry now : DateTime} {error : CalendarError} :
    ofRecord token expiry now = .error error ↔
      expiry.toNaiveUtc = .error error ∨
        (∃ moved, expiry.toNaiveUtc = .ok moved) ∧ now.localToNaiveUtc = .error error := by
  unfold ofRecord
  cases utcExpiry : expiry.toNaiveUtc with
  | error failure => simp [bind, Except.bind]
  | ok moved =>
      cases utcNow : now.localToNaiveUtc with
      | error failure => simp [bind, Except.bind]
      | ok current =>
          simp only [bind, Except.bind, reduceCtorEq, false_or]
          split_ifs <;> simp [pure, Except.pure]

/-- Making a record's token and expiry fails, as a failure of loading, when moving the expiry to
UTC leaves the calendar, or then moving now: an aware now that leaves the calendar, or a naive now
on the first day of the calendar. -/
theorem ofRecord_mapError_eq_error_iff {token : Json} {expiry now : DateTime} {error : LoadError} :
    (ofRecord token expiry now).mapError .calendar = .error error ↔
      (expiry.toNaiveUtc = .error .outOfRange ∧ error = .calendar .outOfRange) ∨
        (∃ moved, expiry.toNaiveUtc = .ok moved) ∧
          ((now.offset.isSome ∧ now.toNaiveUtc = .error .outOfRange ∧
              error = .calendar .outOfRange) ∨
            (now.offset = none ∧ now.date = ⟨1, 1, 1⟩ ∧ error = .calendar (.yearOutOfRange 0))) := by
  constructor
  · intro failed
    cases made : ofRecord token expiry now with
    | ok given => simp [made, Except.mapError] at failed
    | error failure =>
        simp only [made, Except.mapError, Except.error.injEq] at failed
        subst failed
        rcases ofRecord_eq_error_iff.1 made with utcExpiry | ⟨moved, utcNow⟩
        · obtain rfl := DateTime.toNaiveUtc_eq_error utcExpiry
          exact .inl ⟨utcExpiry, rfl⟩
        · rcases DateTime.localToNaiveUtc_eq_error_iff.1 utcNow with
            ⟨aware, leaves, rfl⟩ | ⟨naive, first, rfl⟩
          · exact .inr ⟨moved, .inl ⟨aware, leaves, rfl⟩⟩
          · exact .inr ⟨moved, .inr ⟨naive, first, rfl⟩⟩
  · have made : ∀ {failure}, ofRecord token expiry now = .error failure →
        (ofRecord token expiry now).mapError LoadError.calendar = .error (.calendar failure) :=
      fun made => by simp [made, Except.mapError]
    rintro (⟨utcExpiry, rfl⟩ | ⟨moved, ⟨aware, leaves, rfl⟩ | ⟨naive, first, rfl⟩⟩)
    · exact made (ofRecord_eq_error_iff.2 (.inl utcExpiry))
    · exact made (ofRecord_eq_error_iff.2 (.inr ⟨moved,
        DateTime.localToNaiveUtc_eq_error_iff.2 (.inl ⟨aware, leaves, rfl⟩)⟩))
    · exact made (ofRecord_eq_error_iff.2 (.inr ⟨moved,
        DateTime.localToNaiveUtc_eq_error_iff.2 (.inr ⟨naive, first, rfl⟩)⟩))

/-- A token that a record gives comes with an expiry later than now, both in UTC. -/
theorem ofRecord_later_than_now {token : Json} {expiry now moved : DateTime} {text : String}
    (made : ofRecord token expiry now = .ok (some (text, moved))) :
    ∃ current, now.localToNaiveUtc = .ok current ∧ current.utcMicros < moved.utcMicros := by
  unfold ofRecord at made
  obtain ⟨utcExpiry, -, made⟩ := bind_eq_ok.mp made
  obtain ⟨current, utcNow, made⟩ := bind_eq_ok.mp made
  refine ⟨current, utcNow, ?_⟩
  split_ifs at made with stale
  · cases made
  · simp only [pure, Except.pure, Except.ok.injEq, Option.some.injEq, Prod.mk.injEq] at made
    obtain ⟨-, rfl⟩ := made
    simp only [Bool.or_eq_true, Bool.not_eq_true', decide_eq_true_eq, not_or, not_le] at stale
    exact stale.2

/-- What loading gives is decided by the record the file holds: nothing without one, the
container that opened too deep when the reader ran out of room, else what the record makes. -/
theorem load_fst_eq (nesting : Nat) (files : FileStore) (path : String) (now : DateTime) :
    (load nesting files (some path) now).1 =
      match files.read? path with
      | none => .ok none
      | some bytes =>
        match readRecord nesting bytes with
        | .error container => .error (.recursion container)
        | .ok none => .ok none
        | .ok (some (token, expiry)) => (ofRecord token expiry now).mapError .calendar := by
  unfold load
  dsimp only
  cases present : files.pathExists path
  · rw [FileStore.read?_of_not_pathExists present]
    rfl
  · simp only [Bool.not_true, Bool.false_eq_true, if_false]
    cases files.read? path with
    | none => rfl
    | some bytes =>
        dsimp only
        cases readRecord nesting bytes with
        | error container => rfl
        | ok record =>
            rcases record with _ | ⟨token, expiry⟩ <;> rfl

/-- A token just stored is loaded back, with its expiry as read back and moved to UTC, while that
is later than now. -/
theorem load_store {files stored : FileStore} {path token : String}
    {expiry now utcExpiry current : DateTime} (nesting : Nat) (named : token ≠ "")
    (unpaired : Json.Unpaired token.toList) (checked : expiry.check = .ok expiry)
    (offsetSmall : ∀ offset ∈ expiry.offset, offset.natAbs < 86400000000)
    (wrote : store files (some path) (.str token) (some expiry) = (none, stored))
    (expiryUtc : { expiry with offset := expiry.offset.map DateTime.readOffset }.toNaiveUtc =
      .ok utcExpiry)
    (nowUtc : now.localToNaiveUtc = .ok current) :
    load (nesting + 1) stored (some path) now =
      (.ok (if current.utcMicros < utcExpiry.utcMicros then some (token, utcExpiry) else none),
        []) := by
  have truthy : (Json.str token).truthy = true := by simpa [Json.truthy] using named
  have bytes := read?_store truthy wrote
  simp [load, FileStore.pathExists_of_read? bytes, bytes,
    readRecord_recordText nesting unpaired checked offsetSmall, ofRecord, expiryUtc, nowUtc, truthy,
    Json.text]
  by_cases later : current.utcMicros < utcExpiry.utcMicros
  · simp [later, not_le.mpr later, bind, Except.bind, pure, Except.pure, Except.mapError]
  · simp [later, le_of_not_gt later, bind, Except.bind, pure, Except.pure, Except.mapError]

/-- A token that loading gives comes with an expiry later than now, both in UTC. -/
theorem load_later_than_now {nesting : Nat} {files : FileStore} {path : String} {now : DateTime}
    {token : String} {expiry : DateTime}
    (loaded : (load nesting files (some path) now).1 = .ok (some (token, expiry))) :
    ∃ current, now.localToNaiveUtc = .ok current ∧ current.utcMicros < expiry.utcMicros := by
  rw [load_fst_eq] at loaded
  cases found : files.read? path with
  | none => simp [found] at loaded
  | some bytes =>
      rw [found] at loaded
      cases record : readRecord nesting bytes with
      | error container => simp [record] at loaded
      | ok found =>
          rcases found with _ | ⟨stored, storedExpiry⟩
          · simp [record] at loaded
          · simp only [record] at loaded
            cases made : ofRecord stored storedExpiry now with
            | error failure => simp [made, Except.mapError] at loaded
            | ok given =>
                simp only [made, Except.mapError, Except.ok.injEq] at loaded
                subst loaded
                exact ofRecord_later_than_now made

/-- Loading fails exactly when the file's document nests deeper than the reader has room for, or
when the file holds a record and moving its expiry to UTC leaves the calendar, or then moving now:
an aware now that leaves the calendar, or a naive now on its first day. -/
theorem load_fails_iff {nesting : Nat} {files : FileStore} {path : String} {now : DateTime}
    {error : LoadError} :
    (load nesting files (some path) now).1 = .error error ↔
      ∃ bytes, files.read? path = some bytes ∧
        ((∃ container, readRecord nesting bytes = .error container ∧
            error = .recursion container) ∨
          ∃ token expiry, readRecord nesting bytes = .ok (some (token, expiry)) ∧
            ((expiry.toNaiveUtc = .error .outOfRange ∧ error = .calendar .outOfRange) ∨
              (∃ moved, expiry.toNaiveUtc = .ok moved) ∧
                ((now.offset.isSome ∧ now.toNaiveUtc = .error .outOfRange ∧
                    error = .calendar .outOfRange) ∨
                  (now.offset = none ∧ now.date = ⟨1, 1, 1⟩ ∧
                    error = .calendar (.yearOutOfRange 0))))) := by
  rw [load_fst_eq]
  cases found : files.read? path with
  | none => simp
  | some bytes =>
      simp only [Option.some.injEq, exists_eq_left']
      cases record : readRecord nesting bytes with
      | error container =>
          simp only [Except.error.injEq, reduceCtorEq, false_and, exists_false, or_false,
            exists_eq_left']
          exact eq_comm
      | ok found =>
          rcases found with _ | ⟨stored, storedExpiry⟩
          · simp
          · simp only [reduceCtorEq, false_and, exists_false, Except.ok.injEq, Option.some.injEq,
              Prod.mk.injEq, false_or]
            rw [ofRecord_mapError_eq_error_iff]
            constructor
            · intro failed
              exact ⟨stored, storedExpiry, ⟨rfl, rfl⟩, failed⟩
            · rintro ⟨_, _, ⟨rfl, rfl⟩, failed⟩
              exact failed

/-- An offset of whole seconds reads back as itself. -/
theorem readBack_of_whole {expiry : DateTime}
    (whole : ∀ offset ∈ expiry.offset, offset = 0 ∨ 1000000 ≤ offset.natAbs) :
    { expiry with offset := expiry.offset.map DateTime.readOffset } = expiry := by
  obtain ⟨date, hour, minute, second, micro, offset⟩ := expiry
  cases offset with
  | none => rfl
  | some offset =>
      have kept : DateTime.readOffset offset = offset := by
        unfold DateTime.readOffset
        rcases whole offset rfl with zero | large
        · simp [zero]
        · rw [if_neg (by omega)]
      simp [kept]

/-- For a store, a path, a current time and a reader with room for `nesting` containers: a token
stored there with an expiry whose offset is a whole number of seconds is loaded back, by a reader
with room for one container at least, with its expiry in UTC while that is later than now, when
both move to UTC. Whatever the file holds, a token that loading gives has an expiry later than
now; and loading fails exactly when the file's document nests deeper than the reader has room
for, or when the file holds a record and moving its expiry to UTC leaves the calendar, or then
moving now does: an aware now that leaves the calendar, or a naive now on its first day. -/
theorem load_round_trip_and_outcomes (nesting : Nat) (files : FileStore) (path : String)
    (now : DateTime) :
    (∀ (stored : FileStore) (token : String) (expiry utcExpiry current : DateTime),
      token ≠ "" → Json.Unpaired token.toList → expiry.check = .ok expiry →
      (∀ offset ∈ expiry.offset, offset.natAbs < 86400000000 ∧
        (offset = 0 ∨ 1000000 ≤ offset.natAbs)) →
      store files (some path) (.str token) (some expiry) = (none, stored) →
      expiry.toNaiveUtc = .ok utcExpiry → now.localToNaiveUtc = .ok current →
      load (nesting + 1) stored (some path) now =
        (.ok (if current.utcMicros < utcExpiry.utcMicros then some (token, utcExpiry) else none),
          [])) ∧
    (∀ token expiry, (load nesting files (some path) now).1 = .ok (some (token, expiry)) →
      ∃ current, now.localToNaiveUtc = .ok current ∧ current.utcMicros < expiry.utcMicros) ∧
    ∀ error, (load nesting files (some path) now).1 = .error error ↔
      ∃ bytes, files.read? path = some bytes ∧
        ((∃ container, readRecord nesting bytes = .error container ∧
            error = .recursion container) ∨
          ∃ token expiry, readRecord nesting bytes = .ok (some (token, expiry)) ∧
            ((expiry.toNaiveUtc = .error .outOfRange ∧ error = .calendar .outOfRange) ∨
              (∃ moved, expiry.toNaiveUtc = .ok moved) ∧
                ((now.offset.isSome ∧ now.toNaiveUtc = .error .outOfRange ∧
                    error = .calendar .outOfRange) ∨
                  (now.offset = none ∧ now.date = ⟨1, 1, 1⟩ ∧
                    error = .calendar (.yearOutOfRange 0))))) := by
  refine ⟨fun stored token expiry utcExpiry current named unpaired checked offsets wrote expiryUtc
      nowUtc => ?_, fun token expiry loaded => load_later_than_now loaded,
      fun error => load_fails_iff⟩
  have readBack := readBack_of_whole fun offset inside => (offsets offset inside).2
  exact load_store nesting named unpaired checked (fun offset inside => (offsets offset inside).1)
    wrote (by rw [readBack]; exact expiryUtc) nowUtc

/-- A token stored in an empty store until 2030 is loaded back on the first day of 2024, by a
reader with the program's room for nesting. -/
theorem load_round_trip_in_2024 :
    let expiry : DateTime := ⟨⟨2030, 1, 1⟩, 0, 0, 0, 0, none⟩
    let now : DateTime := ⟨⟨2024, 1, 1⟩, 0, 0, 0, 0, none⟩
    let stored := (store FileStore.empty (some "/cache/token.json") (.str "t") (some expiry)).2
    store FileStore.empty (some "/cache/token.json") (.str "t") (some expiry) = (none, stored) ∧
      load Cli.readerNesting stored (some "/cache/token.json") now =
        (.ok (some ("t", expiry)), []) := by
  intro expiry now stored
  have wrote : store FileStore.empty (some "/cache/token.json") (.str "t") (some expiry) =
      (none, stored) := by
    decide +kernel
  have unpaired : Json.Unpaired "t".toList := Json.unpaired_of_isAscii (by simp [IsAscii])
  have loaded := (load_round_trip_and_outcomes (Cli.readerNesting - 1) FileStore.empty
    "/cache/token.json" now).1 stored "t" expiry expiry now (by decide) unpaired rfl
    (by simp [expiry]) wrote rfl rfl
  refine ⟨wrote, ?_⟩
  rw [show Cli.readerNesting = Cli.readerNesting - 1 + 1 from rfl, loaded,
    if_pos (by decide +kernel)]

/-- A cache file holding a text, at `/token.json`. -/
def cacheFile (text : String) : FileStore :=
  FileStore.empty.put "/token.json" (.file (encodeUtf8 text) fileMode)

theorem read?_cacheFile (text : String) :
    (cacheFile text).read? "/token.json" = some (encodeUtf8 text) := by
  with_unfolding_all rfl

/-- Opening brackets one more than the reader's room for nesting are no record: reading them
fails as the last array opens. -/
theorem readRecord_brackets (nesting : Nat) :
    readRecord nesting (encodeUtf8 (String.ofList (List.replicate (nesting + 1) '['))) =
      .error .array := by
  have ascii : IsAscii (String.ofList (List.replicate (nesting + 1) '[')).toList := by
    intro c inside
    simp only [String.toList_ofList, List.mem_replicate] at inside
    rw [inside.2]
    decide
  have noReturn : '\r' ∉ (String.ofList (List.replicate (nesting + 1) '[')).toList := by
    simp [List.mem_replicate]
  unfold readRecord
  rw [decodeUtf8_encodeUtf8 ascii]
  simp only
  rw [uniformLineEnds_of_not_mem noReturn, String.ofList_toList, Json.parse_brackets]

/-- Whatever the room for nesting, a cache file of opening brackets one more than the room fails
loading. -/
theorem load_fails_beyond_nesting (nesting : Nat) (now : DateTime) :
    load nesting (cacheFile (String.ofList (List.replicate (nesting + 1) '[')))
      (some "/token.json") now = (.error (.recursion .array), []) := by
  have found := read?_cacheFile (String.ofList (List.replicate (nesting + 1) '['))
  simp [load, FileStore.pathExists_of_read? found, found, readRecord_brackets]

/-- Three files that loading fails on, with the program's room for nesting, rather than giving a
token or nothing: a record whose expiry is the last second of the calendar an hour west of UTC,
which moves past the calendar's end; a good record read at a naive now on the first day of the
calendar, whose day before lies in year 0; and arrays nested one deeper than the reader has room
for. -/
theorem load_fails_at_calendar_edges_and_depth :
    load Cli.readerNesting
        (cacheFile "\x7b\"token\": \"t\", \"expiry\": \"9999-12-31T23:59:59-01:00\"\x7d")
        (some "/token.json") ⟨⟨2024, 1, 1⟩, 0, 0, 0, 0, none⟩ =
      (.error (.calendar .outOfRange), []) ∧
    load Cli.readerNesting
        (cacheFile "\x7b\"token\": \"t\", \"expiry\": \"2030-01-01T00:00:00\"\x7d")
        (some "/token.json") ⟨⟨1, 1, 1⟩, 0, 0, 0, 0, none⟩ =
      (.error (.calendar (.yearOutOfRange 0)), []) ∧
    load Cli.readerNesting (cacheFile (String.ofList (List.replicate (Cli.readerNesting + 1) '[')))
        (some "/token.json") ⟨⟨2024, 1, 1⟩, 0, 0, 0, 0, none⟩ =
      (.error (.recursion .array), []) :=
  ⟨by decide +kernel, by decide +kernel, load_fails_beyond_nesting _ _⟩

end TokenCache

end SheetExport
