import SheetExport.Store.Value

/-!
# Sorting rows by keys

An ordering compares rows term by term: each term has a collation, a direction, and a place for
NULL, which is equal to NULL and comes before or after every other value. Sorting is stable, so
rows whose keys are equal keep the order they came in, and the runs of equal keys of sorted rows
are the groups of a `GROUP BY` or the partitions of a window.
-/

namespace SheetExport.Store.Sql

/-- How one term orders rows: its collation, whether it is descending, and whether NULL comes
first. -/
structure SortKey where
  collation : Collation
  descending : Bool
  nullsFirst : Bool

/-- An ascending key in a collation, NULL first. -/
def SortKey.ascending (collation : Collation) : SortKey := ⟨collation, false, true⟩

/-- Compares two values under a term of an ordering. -/
def SortKey.compare (key : SortKey) : Value → Value → Ordering
  | .null, .null => .eq
  | .null, _ => if key.nullsFirst then .lt else .gt
  | _, .null => if key.nullsFirst then .gt else .lt
  | a, b =>
    if key.descending then (Value.compareWith key.collation a b).swap
    else Value.compareWith key.collation a b

/-- Compares two lists of values term by term, the first difference deciding. -/
def compareKeys : List SortKey → List Value → List Value → Ordering
  | key :: keys, a :: as, b :: bs =>
    match key.compare a b with
    | .eq => compareKeys keys as bs
    | other => other
  | _, _, _ => .eq

/-- Sorts entries by their keys; entries of equal keys keep their order. -/
def sortEntries {α : Type} (keys : List SortKey) (entries : List (List Value × α)) :
    List (List Value × α) :=
  entries.mergeSort fun a b => compareKeys keys a.1 b.1 != .gt

/-- Splits entries sorted by their keys into runs of equal keys, each with the key of its first
entry. -/
def keyRuns {α : Type} (keys : List SortKey) : List (List Value × α) → List (List Value × List α)
  | [] => []
  | (key, entry) :: rest =>
    match keyRuns keys rest with
    | (next, run) :: more =>
      if compareKeys keys key next == .eq then (key, entry :: run) :: more
      else (key, [entry]) :: (next, run) :: more
    | [] => [(key, [entry])]

end SheetExport.Store.Sql
