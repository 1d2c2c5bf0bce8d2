import SheetExport.Text.Utf8
import SheetExport.Path
import SheetExport.FailingSteps

/-!
# A file store

The files a run reads and writes are kept in a store of entries by absolute path: a file with its
bytes and its permission bits, or a directory. The root directory is always there.

A path is walked as the system walks it: from the root, each part is looked up in the directory
reached so far, `.` stays and `..` goes back up. A walk fails where a part is missing, or where it
has to look inside something that is not a directory. Writing a file needs its directory; making a
directory needs its parent, and making one with its parents makes the missing ones first, from the
top. These are the only ways a walk fails, and each such failure is an operating-system error
named by its kind and by the path as it was given.

A path holding a NUL character cannot be given to the system at all: nothing is found there, and
an operation that would change the store refuses it with a value error, which is not the
operating system's.
-/

namespace SheetExport

/-- An entry of the store. -/
inductive Entry where
  | file (bytes : List UInt8) (mode : Nat)
  | directory
  deriving DecidableEq, Repr

/-- Why an operation on the store fails. -/
inductive FileError where
  | notFound (path : String)
  | exists (path : String)
  | notADirectory (path : String)
  | isADirectory (path : String)
  /-- The path holds a NUL character. -/
  | embeddedNull
  deriving DecidableEq, Repr

namespace FileError

/-- The class of a failure. -/
def className : FileError → String
  | .notFound _ => "FileNotFoundError"
  | .exists _ => "FileExistsError"
  | .notADirectory _ => "NotADirectoryError"
  | .isADirectory _ => "IsADirectoryError"
  | .embeddedNull => "ValueError"

/-- The message of a failure. -/
def message : FileError → String
  | .notFound path => "[Errno 2] No such file or directory: " ++ Text.quote path
  | .exists path => "[Errno 17] File exists: " ++ Text.quote path
  | .notADirectory path => "[Errno 20] Not a directory: " ++ Text.quote path
  | .isADirectory path => "[Errno 21] Is a directory: " ++ Text.quote path
  | .embeddedNull => "embedded null byte"

/-- Whether a failure is the operating system's: every failure but a path it cannot be given. -/
def isOSError : FileError → Bool
  | .embeddedNull => false
  | _ => true

end FileError

/-- Why a walk stops. -/
inductive WalkFailure where
  | missing
  | notADirectory
  deriving DecidableEq, Repr

/-- The failure of an operation on a path whose walk stopped. -/
def WalkFailure.at (path : String) : WalkFailure → FileError
  | .missing => .notFound path
  | .notADirectory => .notADirectory path

/-- Entries by the absolute path of the names that lead to them. -/
structure FileStore where
  entries : List (String × Entry)
  deriving DecidableEq, Repr

namespace FileStore

/-- The store holding only the root directory. -/
def empty : FileStore := ⟨[("/", .directory)]⟩

/-- Whether a path can be given to the system: one holding a NUL character cannot. -/
def accepts (path : String) : Bool := !path.toList.contains '\x00'

/-- The absolute path of the names that lead to an entry. -/
def keyOf (names : List String) : String := "/" ++ "/".intercalate names

/-- The entry the names lead to. -/
def entryAt? (store : FileStore) (names : List String) : Option Entry :=
  (store.entries.find? (·.1 == keyOf names)).map (·.2)

/-- Whether the names lead to a directory. -/
def directoryAt (store : FileStore) (names : List String) : Bool :=
  store.entryAt? names == some .directory

/-- Takes one part of a walk from the directory the names lead to. -/
def step (store : FileStore) (names : List String) (part : String) :
    Except WalkFailure (List String) :=
  if !store.directoryAt names then .error .notADirectory
  else if part.isEmpty || part == "." then .ok names
  else if part == ".." then .ok names.dropLast
  else if (store.entryAt? (names ++ [part])).isSome then .ok (names ++ [part])
  else .error .missing

/-- Walks parts from the root. -/
def walkParts (store : FileStore) (parts : List String) : Except WalkFailure (List String) :=
  parts.foldlM store.step []

/-- Walks a path from the root; a relative path is walked from the root too. -/
def walk (store : FileStore) (path : String) : Except WalkFailure (List String) :=
  store.walkParts (Path.pieces path.toList)

/-- The entry at a path. -/
def entry? (store : FileStore) (path : String) : Option Entry :=
  if !accepts path then none
  else
    match store.walk path with
    | .ok names => store.entryAt? names
    | .error _ => none

/-- Whether something is at a path. -/
def pathExists (store : FileStore) (path : String) : Bool := (store.entry? path).isSome

/-- Whether a directory is at a path. -/
def isDirectory (store : FileStore) (path : String) : Bool := store.entry? path == some .directory

/-- The bytes of the file at a path. -/
def read? (store : FileStore) (path : String) : Option (List UInt8) :=
  match store.entry? path with
  | some (.file bytes _) => some bytes
  | _ => none

/-- Sets the entry the names lead to. -/
def putAt (store : FileStore) (names : List String) (entry : Entry) : FileStore :=
  let key := keyOf names
  if (store.entryAt? names).isSome then
    ⟨store.entries.map fun (other, old) => if other == key then (other, entry) else (other, old)⟩
  else ⟨store.entries ++ [(key, entry)]⟩

/-- Sets the entry at an absolute path, written without `..`. -/
def put (store : FileStore) (path : String) (entry : Entry) : FileStore :=
  store.putAt (Path.parts path) entry

/-- The directory that would hold the last part of a path, and that part: the parts before it are
walked and must lead to a directory. A path the system cannot be given is refused first. -/
def place (store : FileStore) (path : String) : Except FileError (List String × String) :=
  if !accepts path then .error .embeddedNull
  else
    let pieces := Path.pieces path.toList
    match store.walkParts pieces.dropLast with
    | .error failure => .error (failure.at path)
    | .ok names =>
      if !store.directoryAt names then .error (.notADirectory path)
      else .ok (names, pieces.getLast?.getD "")

/-- Makes one directory, whose parent must be there. -/
def makeDirectory (store : FileStore) (path : String) : Except FileError FileStore := do
  let (names, last) ← store.place path
  if last.isEmpty || last == "." || last == ".." || (store.entryAt? (names ++ [last])).isSome then
    .error (.exists path)
  else pure (store.putAt (names ++ [last]) .directory)

/-- Makes a directory with every missing directory above it, going up at most `fuel` levels; a
directory that is already there is kept. -/
def makeDirectoriesWithin (store : FileStore) : Nat → String → Except FileError FileStore
  | 0, path => .error (.notFound path)
  | fuel + 1, path =>
    match store.makeDirectory path with
    | .ok store => .ok store
    | .error (.notFound _) =>
      let parent := Path.parent path
      if parent == path then .error (.notFound path)
      else
        match store.makeDirectoriesWithin fuel parent with
        | .error failure => .error failure
        | .ok store =>
          match store.makeDirectory path with
          | .ok store => .ok store
          | .error (.notFound missing) => .error (.notFound missing)
          | .error failure => if store.isDirectory path then .ok store else .error failure
    | .error failure => if store.isDirectory path then .ok store else .error failure

/-- Makes a directory with every missing directory above it; a directory that is already there is
kept. -/
def makeDirectories (store : FileStore) (path : String) : Except FileError FileStore :=
  store.makeDirectoriesWithin ((Path.parts path).length + 1) path

/-- Writes a file, replacing one that is there and keeping its permission bits; a new file gets
`mode`. -/
def write (store : FileStore) (path : String) (bytes : List UInt8) (mode : Nat) :
    Except FileError FileStore := do
  let (names, last) ← store.place path
  if last.isEmpty || last == "." || last == ".." then .error (.isADirectory path)
  else
    match store.entryAt? (names ++ [last]) with
    | some .directory => .error (.isADirectory path)
    | some (.file _ old) => pure (store.putAt (names ++ [last]) (.file bytes old))
    | none => pure (store.putAt (names ++ [last]) (.file bytes mode))

/-- Opens a file for appending: a file that is there stays as it is, a missing one is made empty
with `mode`. -/
def touch (store : FileStore) (path : String) (mode : Nat) : Except FileError FileStore :=
  match store.entry? path with
  | some (.file _ _) => .ok store
  | _ => store.write path [] mode

/-- Sets the permission bits of a file. -/
def setMode (store : FileStore) (path : String) (mode : Nat) : FileStore :=
  match store.walk path, store.entry? path with
  | .ok names, some (.file bytes _) => store.putAt names (.file bytes mode)
  | _, _ => store

/-- The permission bits of the file at a path. -/
def mode? (store : FileStore) (path : String) : Option Nat :=
  match store.entry? path with
  | some (.file _ mode) => some mode
  | _ => none

/-! ## What a walk and a put do

Putting an entry changes what its key reads and nothing else (`entryAt?_putAt`); where no
directory was, it keeps every walk that succeeded (`foldlM_step_putAt`), so after a put at the
place of a path the path leads to the entry put (`walk_putAt_place`). A write that succeeds is such
a put, and reading the path gives the bytes written (`read?_write`). Making a directory leaves a
directory at its path (`isDirectory_of_makeDirectoriesWithin`), and making it again changes nothing
(`makeDirectories_of_makeDirectories`).
-/

theorem entryAt?_putAt (store : FileStore) (names other : List String) (entry : Entry) :
    (store.putAt names entry).entryAt? other =
      if keyOf other = keyOf names then some entry else store.entryAt? other := by
  unfold putAt entryAt?
  by_cases present : (store.entries.find? (·.1 == keyOf names)).isSome
  · simp only [Option.isSome_map, present, if_true, List.find?_map, Option.map_map]
    have keeps : (fun pair : String × Entry => pair.1 == keyOf other) ∘
        (fun (pair : String × Entry) =>
          if pair.1 == keyOf names then (pair.1, entry) else (pair.1, pair.2)) =
        fun pair => pair.1 == keyOf other := by
      funext pair
      simp only [Function.comp]
      split <;> rfl
    rw [keeps]
    cases found : store.entries.find? (·.1 == keyOf other) with
    | none =>
        by_cases same : keyOf other = keyOf names
        · rw [← same, found] at present
          cases present
        · simp [same]
    | some pair =>
        have key : pair.1 = keyOf other := by simpa using List.find?_some found
        by_cases same : keyOf other = keyOf names <;> simp [key, same]
  · simp only [Option.isSome_map, present, Bool.false_eq_true, if_false, List.find?_append]
    have missing : store.entries.find? (·.1 == keyOf names) = none := by
      cases looked : store.entries.find? (·.1 == keyOf names) with
      | none => rfl
      | some _ => simp [looked] at present
    by_cases same : keyOf other = keyOf names
    · rw [same, missing]
      simp
    · cases found : store.entries.find? (·.1 == keyOf other) <;> simp [same, Ne.symm same]
theorem entryAt?_congr {store : FileStore} {names other : List String}
    (same : keyOf names = keyOf other) : store.entryAt? names = store.entryAt? other := by
  simp only [entryAt?, same]

/-- A directory and a place that holds no directory have different keys. -/
theorem keyOf_ne_of_directoryAt {store : FileStore} {names target : List String}
    (directory : store.directoryAt names = true)
    (wasNot : store.entryAt? target ≠ some .directory) :
    keyOf names ≠ keyOf target := fun same => by
  simp only [directoryAt, beq_iff_eq, entryAt?_congr same] at directory
  exact wasNot directory

theorem directoryAt_putAt {store : FileStore} {names target : List String} {entry : Entry}
    (apart : keyOf names ≠ keyOf target) :
    (store.putAt target entry).directoryAt names = store.directoryAt names := by
  simp only [directoryAt, entryAt?_putAt, if_neg apart]

/-- A step that succeeds starts from a directory. -/
theorem directoryAt_of_step {store : FileStore} {names next : List String} {part : String}
    (stepped : store.step names part = .ok next) : store.directoryAt names = true := by
  unfold step at stepped
  cases directory : store.directoryAt names
  · simp [directory] at stepped
  · rfl

/-- Putting an entry where no directory was keeps every step of a walk that succeeded. -/
theorem step_putAt {store : FileStore} {target : List String} {entry : Entry}
    (wasNot : store.entryAt? target ≠ some .directory) {names next : List String} {part : String}
    (stepped : store.step names part = .ok next) :
    (store.putAt target entry).step names part = .ok next := by
  have directory := directoryAt_of_step stepped
  have same : (store.putAt target entry).directoryAt names = store.directoryAt names :=
    directoryAt_putAt (keyOf_ne_of_directoryAt directory wasNot)
  unfold step at stepped ⊢
  rw [same]
  simp only [directory, Bool.not_true, Bool.false_eq_true, if_false] at stepped ⊢
  by_cases blank : (part.isEmpty || part == ".") = true
  · simpa only [blank, if_true] using stepped
  · by_cases up : (part == "..") = true
    · simpa only [blank, up, if_true, if_false, Bool.false_eq_true] using stepped
    · simp only [blank, up, if_false, Bool.false_eq_true] at stepped ⊢
      by_cases present : (store.entryAt? (names ++ [part])).isSome = true
      · rw [if_pos present] at stepped
        rw [entryAt?_putAt]
        by_cases hit : keyOf (names ++ [part]) = keyOf target <;> simp [hit, present, stepped]
      · rw [if_neg present] at stepped
        cases stepped

theorem foldlM_step_putAt {store : FileStore} {target : List String} {entry : Entry}
    (wasNot : store.entryAt? target ≠ some .directory) :
    ∀ {parts : List String} {start names : List String},
      parts.foldlM store.step start = .ok names →
        parts.foldlM (store.putAt target entry).step start = .ok names
  | [], _, _, walked => walked
  | part :: rest, start, names, walked => by
      simp only [List.foldlM_cons] at walked ⊢
      obtain ⟨next, stepped, walked⟩ := bind_eq_ok.mp walked
      exact bind_eq_ok.mpr ⟨next, step_putAt wasNot stepped, foldlM_step_putAt wasNot walked⟩

theorem pieces_ne_nil (chars : List Char) : Path.pieces chars ≠ [] := by
  cases chars with
  | nil => simp [Path.pieces]
  | cons c rest =>
      simp only [Path.pieces]
      split <;> (try split) <;> simp

/-- The place of a path is reached by walking all its pieces but the last, which names the entry
in it; the path is one the system takes. -/
theorem place_eq_ok {store : FileStore} {path : String} {names : List String} {last : String}
    (placed : store.place path = .ok (names, last)) :
    accepts path = true ∧ store.walkParts (Path.pieces path.toList).dropLast = .ok names ∧
      store.directoryAt names = true ∧
      (Path.pieces path.toList).dropLast ++ [last] = Path.pieces path.toList := by
  unfold place at placed
  cases taken : accepts path
  · simp [taken] at placed
  · simp only [taken, Bool.not_true, Bool.false_eq_true, if_false] at placed
    cases walked : store.walkParts (Path.pieces path.toList).dropLast with
    | error failure => simp [walked] at placed
    | ok reached =>
        simp only [walked] at placed
        cases directory : store.directoryAt reached
        · simp [directory] at placed
        · simp only [directory, Bool.not_true, Bool.false_eq_true, if_false,
            Except.ok.injEq, Prod.mk.injEq] at placed
          obtain ⟨rfl, rfl⟩ := placed
          refine ⟨rfl, rfl, directory, ?_⟩
          rw [List.getLast?_eq_some_getLast (pieces_ne_nil _), Option.getD_some,
            List.dropLast_concat_getLast]

/-- After a put at the place of a path, named by its last part, where no directory was, the walk
of the path leads to the entry put. -/
theorem walk_putAt_place {store : FileStore} {path : String} {names : List String}
    {last : String} {entry : Entry} (placed : store.place path = .ok (names, last))
    (named : (last.isEmpty || last == "." || last == "..") = false)
    (wasNot : store.entryAt? (names ++ [last]) ≠ some .directory) :
    (store.putAt (names ++ [last]) entry).walk path = .ok (names ++ [last]) := by
  obtain ⟨-, walked, directory, whole⟩ := place_eq_ok placed
  have walked' : (Path.pieces path.toList).dropLast.foldlM
      (store.putAt (names ++ [last]) entry).step [] = .ok names :=
    foldlM_step_putAt wasNot walked
  have blank : (last.isEmpty || last == ".") = false := by
    cases h : (last.isEmpty || last == ".") <;> simp_all
  have up : (last == "..") = false := by
    cases h : (last == "..") <;> simp_all
  unfold walk walkParts
  rw [← whole, List.foldlM_append, walked']
  simp [bind, Except.bind, step, pure, Except.pure,
    directoryAt_putAt (keyOf_ne_of_directoryAt directory wasNot), directory, entryAt?_putAt,
    blank, up]

/-- A write that succeeds puts the file at the place of its path, named by the path's last part,
where no directory was. -/
theorem write_eq_ok {store written : FileStore} {path : String} {bytes : List UInt8} {mode : Nat}
    (wrote : store.write path bytes mode = .ok written) :
    ∃ names last kept, store.place path = .ok (names, last) ∧
      (last.isEmpty || last == "." || last == "..") = false ∧
      store.entryAt? (names ++ [last]) ≠ some .directory ∧
      written = store.putAt (names ++ [last]) (.file bytes kept) := by
  unfold write at wrote
  obtain ⟨⟨names, last⟩, placed, wrote⟩ := bind_eq_ok.mp wrote
  dsimp only at wrote
  cases named : (last.isEmpty || last == "." || last == "..")
  · simp only [named, Bool.false_eq_true, if_false] at wrote
    cases found : store.entryAt? (names ++ [last]) with
    | none =>
        simp only [found, pure, Except.pure, Except.ok.injEq] at wrote
        exact ⟨names, last, mode, placed, named, by simp [found], wrote.symm⟩
    | some entry =>
        cases entry with
        | directory => simp [found] at wrote
        | file old kept =>
            simp only [found, pure, Except.pure, Except.ok.injEq] at wrote
            exact ⟨names, last, kept, placed, named, by simp [found], wrote.symm⟩
  · simp [named] at wrote

/-- A path that leads to a file after a put there reads the bytes put. -/
theorem read?_putAt_of_walk {store : FileStore} {path : String} {names : List String}
    {bytes : List UInt8} {mode : Nat} (taken : accepts path = true)
    (walked : (store.putAt names (.file bytes mode)).walk path = .ok names) :
    (store.putAt names (.file bytes mode)).read? path = some bytes := by
  simp [read?, entry?, taken, walked, entryAt?_putAt]

theorem read?_write {store written : FileStore} {path : String} {bytes : List UInt8} {mode : Nat}
    (wrote : store.write path bytes mode = .ok written) : written.read? path = some bytes := by
  obtain ⟨names, last, kept, placed, named, wasNot, rfl⟩ := write_eq_ok wrote
  exact read?_putAt_of_walk (place_eq_ok placed).1 (walk_putAt_place placed named wasNot)

/-- Setting the permission bits of a file keeps what it reads. -/
theorem read?_setMode (store : FileStore) (path : String) (mode : Nat) :
    (store.setMode path mode).read? path = store.read? path := by
  unfold setMode
  split
  · rename_i names bytes oldMode walked found
    have taken : accepts path = true := by
      cases h : accepts path
      · simp [h, entry?] at found
      · rfl
    have atNames : store.entryAt? names = some (.file bytes oldMode) := by
      simpa [taken, entry?, walked] using found
    rw [read?_putAt_of_walk taken (foldlM_step_putAt (by simp [atNames]) walked)]
    simp [read?, found]
  · rfl

theorem pathExists_of_read? {files : FileStore} {path : String} {bytes : List UInt8}
    (found : files.read? path = some bytes) : files.pathExists path = true := by
  unfold read? at found
  unfold pathExists
  split at found
  · rename_i entry
    simp [entry]
  · cases found

theorem read?_of_not_pathExists {files : FileStore} {path : String}
    (absent : files.pathExists path = false) : files.read? path = none := by
  unfold pathExists at absent
  unfold read?
  cases found : files.entry? path with
  | none => rfl
  | some entry =>
      rw [found] at absent
      cases absent

/-- A step that succeeds to a part that is not `.`, `..` or empty finds an entry there. -/
theorem entryAt?_of_step {store : FileStore} {names next : List String} {part : String}
    (stepped : store.step names part = .ok next)
    (named : (part.isEmpty || part == "." || part == "..") = false) :
    (store.entryAt? (names ++ [part])).isSome = true := by
  have blank : (part.isEmpty || part == ".") = false := by
    cases h : (part.isEmpty || part == ".") <;> simp_all
  have up : (part == "..") = false := by
    cases h : (part == "..") <;> simp_all
  unfold step at stepped
  simp only [directoryAt_of_step stepped, blank, up, Bool.not_true, Bool.false_eq_true,
    if_false] at stepped
  cases present : (store.entryAt? (names ++ [part])).isSome
  · simp [present] at stepped
  · rfl

/-- A path that leads somewhere has its place: the walk of all its pieces but the last, from
which the last piece steps to where the path leads. -/
theorem place_of_walk {store : FileStore} {path : String} {names : List String}
    (taken : accepts path = true) (walked : store.walk path = .ok names) :
    ∃ directory, store.place path = .ok (directory, (Path.pieces path.toList).getLast?.getD "") ∧
      store.step directory ((Path.pieces path.toList).getLast?.getD "") = .ok names := by
  have whole := List.dropLast_concat_getLast (pieces_ne_nil path.toList)
  unfold walk walkParts at walked
  rw [← whole, List.foldlM_append] at walked
  obtain ⟨directory, before, last⟩ := bind_eq_ok.mp walked
  simp only [List.foldlM_cons, List.foldlM_nil] at last
  obtain ⟨reached, stepped, finished⟩ := bind_eq_ok.mp last
  cases finished
  have lastPiece : (Path.pieces path.toList).getLast?.getD "" =
      (Path.pieces path.toList).getLast (pieces_ne_nil path.toList) := by
    rw [List.getLast?_eq_some_getLast (pieces_ne_nil _), Option.getD_some]
  refine ⟨directory, ?_, by rw [lastPiece]; exact stepped⟩
  unfold place
  simp only [taken, Bool.not_true, Bool.false_eq_true, if_false]
  simp [walkParts, before, directoryAt_of_step stepped]

/-- A directory that was made is at its path. -/
theorem isDirectory_of_makeDirectory {store made : FileStore} {path : String}
    (madeIt : store.makeDirectory path = .ok made) : made.isDirectory path = true := by
  unfold makeDirectory at madeIt
  obtain ⟨⟨names, last⟩, placed, madeIt⟩ := bind_eq_ok.mp madeIt
  dsimp only at madeIt
  cases named : (last.isEmpty || last == "." || last == "..")
  · cases present : (store.entryAt? (names ++ [last])).isSome
    · simp only [named, present, Bool.or_false, Bool.false_eq_true, if_false, pure, Except.pure,
        Except.ok.injEq] at madeIt
      subst madeIt
      have absent : store.entryAt? (names ++ [last]) = none := by
        cases found : store.entryAt? (names ++ [last])
        · rfl
        · simp [found] at present
      have walked : (store.putAt (names ++ [last]) .directory).walk path = .ok (names ++ [last]) :=
        walk_putAt_place placed named (by simp [absent])
      simp [isDirectory, entry?, (place_eq_ok placed).1, walked, entryAt?_putAt]
    · simp [named, present] at madeIt
  · simp [named] at madeIt

/-- Where a directory is, making it fails as already there. -/
theorem makeDirectory_of_isDirectory {store : FileStore} {path : String}
    (directory : store.isDirectory path = true) : store.makeDirectory path = .error (.exists path) := by
  have taken : accepts path = true := by
    cases h : accepts path
    · simp [isDirectory, entry?, h] at directory
    · rfl
  obtain ⟨names, walked⟩ : ∃ names, store.walk path = .ok names := by
    cases h : store.walk path with
    | error _ => simp [isDirectory, entry?, taken, h] at directory
    | ok names => exact ⟨names, rfl⟩
  obtain ⟨parent, placed, stepped⟩ := place_of_walk taken walked
  unfold makeDirectory
  rw [placed]
  cases named : ((Path.pieces path.toList).getLast?.getD "").isEmpty ||
      (Path.pieces path.toList).getLast?.getD "" == "." ||
      (Path.pieces path.toList).getLast?.getD "" == ".."
  · simp [bind, Except.bind, named, entryAt?_of_step stepped named]
  · simp [bind, Except.bind, named]

/-- Making a directory where one is already there keeps the store. -/
theorem makeDirectoriesWithin_of_isDirectory {store : FileStore} {path : String} (fuel : Nat)
    (directory : store.isDirectory path = true) :
    store.makeDirectoriesWithin (fuel + 1) path = .ok store := by
  rw [makeDirectoriesWithin, makeDirectory_of_isDirectory directory]
  simp [directory]

/-- Making a directory with its parents leaves a directory at its path. -/
theorem isDirectory_of_makeDirectoriesWithin {store made : FileStore} {fuel : Nat} {path : String}
    (madeIt : store.makeDirectoriesWithin fuel path = .ok made) : made.isDirectory path = true := by
  cases fuel with
  | zero => simp [makeDirectoriesWithin] at madeIt
  | succ fuel =>
      unfold makeDirectoriesWithin at madeIt
      split at madeIt
      · rename_i first
        cases madeIt
        exact isDirectory_of_makeDirectory first
      · dsimp only at madeIt
        split at madeIt
        · cases madeIt
        · split at madeIt
          · cases madeIt
          · split at madeIt
            · rename_i second
              cases madeIt
              exact isDirectory_of_makeDirectory second
            · cases madeIt
            · split at madeIt
              · rename_i there
                cases madeIt
                exact there
              · cases madeIt
      · split at madeIt
        · rename_i there
          cases madeIt
          exact there
        · cases madeIt

/-- Making directories a second time changes nothing. -/
theorem makeDirectories_of_makeDirectories {store made : FileStore} {path : String}
    (madeIt : store.makeDirectories path = .ok made) : made.makeDirectories path = .ok made :=
  makeDirectoriesWithin_of_isDirectory _ (isDirectory_of_makeDirectoriesWithin madeIt)

end FileStore

end SheetExport
