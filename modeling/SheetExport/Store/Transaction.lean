import SheetExport.Store.Catalog

/-!
# Transactions

A database is in a transaction or not. `BEGIN` starts one and refuses to start a second; `COMMIT`
keeps what the transaction did, unless references broken within it are still broken, and
`ROLLBACK` puts the tables, views and triggers back as they were when it began; both refuse when
no transaction is in progress. A statement that writes rows starts a transaction
when none is in progress, as the caller's connection does before each such statement.

Savepoints nest within a transaction. `SAVEPOINT name` sets one, and starts a transaction when
none is in progress. `ROLLBACK TO name` puts the tables back as they were when the latest
savepoint of that name was set and forgets the savepoints set after it, keeping that one;
`RELEASE name` forgets the savepoint and those set after it, and ends the transaction when that
savepoint began it. Names are compared ignoring ASCII case, and a name no savepoint has is
refused.

`VACUUM` writes the file of the database anew, which leaves the tables as they are; it is refused
within a transaction.
-/

namespace SheetExport.Store

open Sql

namespace Journal

/-- The position of the latest savepoint of a name. -/
def savepointIndex? (journal : Journal) (name : String) : Option Nat :=
  journal.savepoints.findIdx? (sameName ·.1 name)

end Journal

namespace Database

/-- Starts a transaction; `bySavepoint` when a savepoint starts it. -/
def beginTransaction (db : Database) (bySavepoint : Bool) : Database :=
  { db with journal := some ⟨db.contents, [], bySavepoint⟩ }

/-- Runs a statement that acts on the transaction in progress. -/
def control (db : Database) : Control → Except StoreError Database
  | .begin =>
    if db.journal.isSome then .error .nestedTransaction else .ok (db.beginTransaction false)
  | .commit =>
    if db.journal.isSome then
      if 0 < db.pending then .error (.constraint "FOREIGN KEY constraint failed")
      else .ok { db with journal := none }
    else .error (.noTransaction "commit")
  | .rollback =>
    match db.journal with
    | some journal => .ok { db.restore journal.start with journal := none }
    | none => .error (.noTransaction "rollback")
  | .savepoint name =>
    let journal := db.journal.getD ⟨db.contents, [], true⟩
    .ok { db with
      journal := some { journal with savepoints := (name, db.contents) :: journal.savepoints } }
  | .release name =>
    match db.journal with
    | none => .error (.noSuchSavepoint name)
    | some journal =>
      match journal.savepointIndex? name with
      | none => .error (.noSuchSavepoint name)
      | some index =>
        if journal.bySavepoint && index + 1 == journal.savepoints.length then
          if 0 < db.pending then .error (.constraint "FOREIGN KEY constraint failed")
          else .ok { db with journal := none }
        else
          .ok { db with
            journal := some { journal with savepoints := journal.savepoints.drop (index + 1) } }
  | .rollbackTo name =>
    match db.journal with
    | none => .error (.noSuchSavepoint name)
    | some journal =>
      match journal.savepointIndex? name with
      | none => .error (.noSuchSavepoint name)
      | some index =>
        match journal.savepoints.drop index with
        | [] => .error (.noSuchSavepoint name)
        | kept@((_, contents) :: _) =>
          .ok { db.restore contents with journal := some { journal with savepoints := kept } }
  | .vacuum => if db.journal.isSome then .error .vacuumInTransaction else .ok db

end Database

end SheetExport.Store
