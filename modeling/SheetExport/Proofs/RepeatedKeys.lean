import Mathlib
import SheetExport.Proofs.OutcomeCounts

/-!
# Repeated keys and rows written twice

The keys of a batch are counted as a dictionary counts them: two keys are one key when they are
held equal (`Json.heldEq`), the first spelling met stands for its class, and classes are listed in
order of first occurrence. On the keys a dictionary can count, every cell but a list or an
object, held equality is an equivalence (`Json.heldEq_self`, `Json.heldEq_symm`,
`Json.heldEq_trans`), and the count is the declarative one: `repeatedKeys` keeps, in order, each
key that is the first of its class when the class holds two keys or more and is not blank
(`duplicateKeys_eq_repeatedKeys`).

Two writes of one plan land on one row only through a key of the sheet: unmatched rows are
appended one row each, past every matched row. The two keys then both equal that sheet key, so
they equal each other, are not blank, and their class is among the repeated keys
(`planSheet_shared_row`). So the warning about repeated keys names every row written twice.
-/

namespace SheetExport

namespace Json

/-- A key a dictionary can count is a cell of one piece. -/
theorem wellFormed_of_isHashable {key : Json} (countable : key.isHashable = true) :
    key.WellFormed := by
  cases key with
  | null => exact .null
  | bool value => exact .bool value
  | int value => exact .int value
  | float value => exact .float value
  | str value => exact .str value
  | arr => simp [isHashable] at countable
  | obj => simp [isHashable] at countable

/-- A key a dictionary can count is held equal to itself: a NaN by identity, any other by value. -/
theorem heldEq_self {key : Json} (countable : key.isHashable = true) : heldEq key key = true := by
  cases key with
  | float value =>
      cases nan : value.isNaN with
      | true => simp [heldEq, isNaN, nan]
      | false =>
          have equal : value.equals value = true := by
            rw [Binary64.equals_iff]
            cases value <;> simp_all [Binary64.point?, Binary64.isNaN]
          simp [heldEq, looseEq, numeric?, Numeric.equals, equal]
  | arr => simp [isHashable] at countable
  | obj => simp [isHashable] at countable
  | _ => simp [heldEq, looseEq, numeric?, Numeric.equals]

theorem heldEq_symm {a b : Json} (countable : a.isHashable = true) (held : heldEq a b = true) :
    heldEq b a = true :=
  heldEq_euclid (wellFormed_of_isHashable countable).looseEq_euclid held (heldEq_self countable)

theorem heldEq_trans {a b c : Json} (countableA : a.isHashable = true)
    (countableB : b.isHashable = true) (first : heldEq a b = true) (second : heldEq b c = true) :
    heldEq a c = true :=
  heldEq_euclid (wellFormed_of_isHashable countableB).looseEq_euclid
    (heldEq_symm countableA first) second

theorem heldEq_of_looseEq {a b : Json} (equal : looseEq a b = true) : heldEq a b = true := by
  simp [heldEq, equal]

/-- A cell equal to a key a dictionary can count can be counted too: a list equals only lists,
and an object only objects. -/
theorem isHashable_of_looseEq {a b : Json} (equal : looseEq a b = true)
    (countable : b.isHashable = true) : a.isHashable = true := by
  cases a with
  | arr items =>
      obtain ⟨others, rfl, -⟩ := (looseEq_arr_left items b).1 equal
      simp [isHashable] at countable
  | obj members =>
      obtain ⟨others, rfl, -⟩ := (looseEq_obj_left members b).1 equal
      simp [isHashable] at countable
  | _ => rfl

theorem isBlankKey_iff {key : Json} : isBlankKey key = true ↔ key = .str "" := by
  unfold isBlankKey
  split <;> simp_all

/-- A key held equal to a key that is not blank is not blank: only the blank key is held equal
to the blank key. -/
theorem isBlankKey_eq_false_of_heldEq {a b : Json} (held : heldEq a b = true)
    (present : isBlankKey a = false) : isBlankKey b = false := by
  rw [← Bool.not_eq_true, isBlankKey_iff] at present ⊢
  rintro rfl
  cases a <;> simp_all [heldEq, looseEq, numeric?, isNaN]

end Json

section Counting

/-- Whether the key at `position` is the first of its class among `keys`: no key before it is
held equal to it. -/
def firstOfClass (keys : List Json) (position : Nat) (key : Json) : Bool :=
  (keys.take position).all fun earlier => !earlier.heldEq key

/-- The first spelling of each class of keys, in order of first occurrence. -/
def firstSpellings (keys : List Json) : List Json :=
  (keys.zipIdx.filter fun (key, position) => firstOfClass keys position key).map Prod.fst

/-- The keys that repeat: the first spelling of each class that holds two keys or more, in order
of first occurrence, the blank key left out. -/
def repeatedKeys (keys : List Json) : List Json :=
  (firstSpellings keys).filter fun key => 1 < keys.countP key.heldEq && !isBlankKey key

/-- A key met after the others is a new first spelling exactly when none of them is held equal
to it. -/
theorem firstSpellings_append_singleton (keys : List Json) (key : Json) :
    firstSpellings (keys ++ [key]) =
      firstSpellings keys ++ if keys.all (fun earlier => !earlier.heldEq key) then [key] else [] := by
  have earlier : ∀ entry ∈ keys.zipIdx,
      firstOfClass (keys ++ [key]) entry.2 entry.1 = firstOfClass keys entry.2 entry.1 := by
    intro entry member
    have inside : entry.2 < keys.length := by
      have := List.mem_zipIdx_iff_getElem?.1 member
      exact (List.getElem?_eq_some_iff.1 this).1
    simp [firstOfClass, List.take_append_of_le_length (Nat.le_of_lt inside)]
  have last : firstOfClass (keys ++ [key]) keys.length key =
      keys.all fun earlier => !earlier.heldEq key := by
    simp [firstOfClass]
  unfold firstSpellings
  rw [List.zipIdx_append, List.filter_append, List.filter_congr earlier]
  simp only [List.zipIdx_singleton, zero_add, List.filter_cons, List.filter_nil, last,
    List.map_append]
  split <;> simp

theorem firstSpellings_sublist (keys : List Json) : (firstSpellings keys).Sublist keys := by
  have whole := ((List.filter_sublist (l := keys.zipIdx)
    (p := fun entry => firstOfClass keys entry.2 entry.1)).map Prod.fst)
  rwa [List.zipIdx_map_fst] at whole

/-- No two first spellings are held equal. -/
theorem firstSpellings_pairwise (keys : List Json) :
    (firstSpellings keys).Pairwise fun first later => first.heldEq later = false := by
  induction keys using List.reverseRecOn with
  | nil => simp [firstSpellings]
  | append_singleton keys key ih =>
      rw [firstSpellings_append_singleton]
      split
      · next fresh =>
          rw [List.pairwise_append]
          refine ⟨ih, by simp, ?_⟩
          intro spelling member other added
          rw [List.mem_singleton] at added
          subst added
          have unequal := List.all_eq_true.1 fresh spelling
            ((firstSpellings_sublist keys).subset member)
          simpa using unequal
      · simpa using ih

variable {keys : List Json}

/-- Every key a dictionary can count has a first spelling held equal to it. -/
theorem exists_firstSpelling (countable : ∀ key ∈ keys, key.isHashable = true) {key : Json}
    (member : key ∈ keys) : ∃ spelling ∈ firstSpellings keys, spelling.heldEq key = true := by
  induction keys using List.reverseRecOn generalizing key with
  | nil => simp at member
  | append_singleton keys last ih =>
      have countableKeys : ∀ key ∈ keys, key.isHashable = true := fun other inKeys =>
        countable other (by simp [inKeys])
      have kept : firstSpellings keys ⊆ firstSpellings (keys ++ [last]) := by
        rw [firstSpellings_append_singleton]
        exact List.subset_append_left _ _
      rcases List.mem_append.1 member with inKeys | isLast
      · obtain ⟨spelling, spelled, held⟩ := ih countableKeys inKeys
        exact ⟨spelling, kept spelled, held⟩
      · rw [List.mem_singleton] at isLast
        subst isLast
        by_cases fresh : keys.all (fun earlier => !earlier.heldEq key) = true
        · refine ⟨key, ?_, Json.heldEq_self (countable key (by simp))⟩
          rw [firstSpellings_append_singleton, if_pos fresh]
          simp
        · obtain ⟨earlier, inKeys, held⟩ : ∃ earlier ∈ keys, earlier.heldEq key = true := by
            simpa using fresh
          obtain ⟨spelling, spelled, heldEarlier⟩ := ih countableKeys inKeys
          have countableSpelling :=
            countableKeys spelling ((firstSpellings_sublist keys).subset spelled)
          exact ⟨spelling, kept spelled, Json.heldEq_trans countableSpelling
            (countableKeys earlier inKeys) heldEarlier held⟩

/-- A key held equal to none of the classes counted so far opens a class of its own, at the end. -/
theorem bump_of_fresh {key : Json} {count : Json → Nat} :
    ∀ {spellings : List Json}, (∀ spelling ∈ spellings, spelling.heldEq key = false) →
      countKeys.bump key (spellings.map fun spelling => (spelling, count spelling)) =
        spellings.map (fun spelling => (spelling, count spelling)) ++ [(key, 1)]
  | [], _ => rfl
  | spelling :: rest, fresh => by
      have unequal := fresh spelling List.mem_cons_self
      simp only [List.map_cons, countKeys.bump, unequal, Bool.false_eq_true, if_false,
        List.cons_append]
      rw [bump_of_fresh fun other member => fresh other (List.mem_cons_of_mem _ member)]

/-- A key held equal to one of the classes counted so far adds one to that class, and to no
other, the classes being pairwise apart. -/
theorem bump_of_seen {key : Json} {count : Json → Nat} (countableKey : key.isHashable = true) :
    ∀ {spellings : List Json}, (∀ spelling ∈ spellings, spelling.isHashable = true) →
      spellings.Pairwise (fun first later => first.heldEq later = false) →
      (∃ spelling ∈ spellings, spelling.heldEq key = true) →
      countKeys.bump key (spellings.map fun spelling => (spelling, count spelling)) =
        spellings.map fun spelling =>
          (spelling, count spelling + if spelling.heldEq key then 1 else 0)
  | [], _, _, seen => by simp at seen
  | spelling :: rest, countable, apart, seen => by
      rw [List.pairwise_cons] at apart
      by_cases held : spelling.heldEq key = true
      · have othersApart : ∀ other ∈ rest, other.heldEq key = false := by
          intro other member
          by_contra otherHeld
          have together := Json.heldEq_trans (countable spelling List.mem_cons_self)
            countableKey held
            (Json.heldEq_symm (countable other (List.mem_cons_of_mem _ member))
              (by simpa using otherHeld))
          rw [apart.1 other member] at together
          cases together
        simp only [List.map_cons, countKeys.bump, held, if_true, List.cons.injEq, true_and]
        exact List.map_congr_left fun other member => by simp [othersApart other member]
      · have restSeen : ∃ other ∈ rest, other.heldEq key = true := by
          obtain ⟨other, member, otherHeld⟩ := seen
          rcases List.mem_cons.1 member with rfl | inRest
          · exact absurd otherHeld held
          · exact ⟨other, inRest, otherHeld⟩
        have unequal : spelling.heldEq key = false := by simpa using held
        simp only [List.map_cons, countKeys.bump, unequal, Bool.false_eq_true, if_false,
          add_zero]
        rw [bump_of_seen countableKey (fun other member =>
          countable other (List.mem_cons_of_mem _ member)) apart.2 restSeen]

theorem countKeys_append (first second : List Json) (counts : List (Json × Nat)) :
    countKeys (first ++ second) counts = countKeys second (countKeys first counts) := by
  induction first generalizing counts with
  | nil => rfl
  | cons key rest ih => exact ih _

/-- The count of keys in closed form: each first spelling, in order, with the number of keys held
equal to it. -/
theorem countKeys_eq (countable : ∀ key ∈ keys, key.isHashable = true) :
    countKeys keys [] = (firstSpellings keys).map fun spelling =>
      (spelling, keys.countP spelling.heldEq) := by
  induction keys using List.reverseRecOn with
  | nil => rfl
  | append_singleton keys key ih =>
      have countableKeys : ∀ key ∈ keys, key.isHashable = true := fun other inKeys =>
        countable other (by simp [inKeys])
      have countableKey := countable key (by simp)
      have counted : ∀ spelling : Json, (keys ++ [key]).countP spelling.heldEq =
          keys.countP spelling.heldEq + if spelling.heldEq key then 1 else 0 := by
        intro spelling
        simp [List.countP_append]
      rw [countKeys_append, ih countableKeys, firstSpellings_append_singleton]
      show countKeys.bump key _ = _
      split
      · next fresh =>
          have apart : ∀ spelling ∈ firstSpellings keys, spelling.heldEq key = false := by
            intro spelling member
            simpa using List.all_eq_true.1 fresh spelling
              ((firstSpellings_sublist keys).subset member)
          rw [bump_of_fresh apart, List.map_append]
          congr 1
          · exact List.map_congr_left fun spelling member => by
              simp [counted, apart spelling member]
          · have none : keys.countP key.heldEq = 0 := by
              rw [List.countP_eq_zero]
              intro earlier inKeys held
              have unequal := List.all_eq_true.1 fresh earlier inKeys
              rw [Json.heldEq_symm countableKey held] at unequal
              cases unequal
            simp [counted, none, Json.heldEq_self countableKey]
      · next seen =>
          have heldSome : ∃ spelling ∈ firstSpellings keys, spelling.heldEq key = true := by
            obtain ⟨earlier, inKeys, held⟩ : ∃ earlier ∈ keys, earlier.heldEq key = true := by
              simpa using seen
            obtain ⟨spelling, spelled, heldEarlier⟩ := exists_firstSpelling countableKeys inKeys
            exact ⟨spelling, spelled, Json.heldEq_trans
              (countableKeys spelling ((firstSpellings_sublist keys).subset spelled))
              (countableKeys earlier inKeys) heldEarlier held⟩
          rw [bump_of_seen countableKey
            (fun spelling member => countableKeys spelling
              ((firstSpellings_sublist keys).subset member))
            (firstSpellings_pairwise keys) heldSome, List.append_nil]
          exact List.map_congr_left fun spelling _ => by rw [counted]

/-- Two keys at two positions that a test accepts count twice. -/
theorem two_le_countP {p : Json → Bool} {first second : Nat} {a b : Json} (before : first < second)
    (atFirst : keys[first]? = some a) (atSecond : keys[second]? = some b) (acceptsA : p a = true)
    (acceptsB : p b = true) : 2 ≤ keys.countP p := by
  have inTake : a ∈ keys.take (first + 1) := by
    apply List.mem_of_getElem? (i := first)
    simp [atFirst]
  have inDrop : b ∈ keys.drop (first + 1) := by
    apply List.mem_of_getElem? (i := second - (first + 1))
    rw [List.getElem?_drop, show first + 1 + (second - (first + 1)) = second by omega]
    exact atSecond
  have once := List.countP_pos_iff.2 ⟨a, inTake, acceptsA⟩
  have again := List.countP_pos_iff.2 ⟨b, inDrop, acceptsB⟩
  rw [← List.take_append_drop (first + 1) keys, List.countP_append]
  omega

/-- Two held-equal keys at two positions, not blank, have their class among the repeated keys. -/
theorem exists_repeatedKey (countable : ∀ key ∈ keys, key.isHashable = true) {first second : Nat}
    {a b : Json} (differ : first ≠ second) (atFirst : keys[first]? = some a)
    (atSecond : keys[second]? = some b) (held : a.heldEq b = true)
    (present : isBlankKey a = false) : ∃ key ∈ repeatedKeys keys, key.heldEq a = true := by
  have countableA := countable a (List.mem_of_getElem? atFirst)
  obtain ⟨spelling, spelled, heldA⟩ := exists_firstSpelling countable (List.mem_of_getElem? atFirst)
  have countableSpelling := countable spelling ((firstSpellings_sublist keys).subset spelled)
  have heldB : spelling.heldEq b = true := Json.heldEq_trans countableSpelling countableA heldA held
  have twice : 1 < keys.countP spelling.heldEq := by
    rcases Nat.lt_or_gt_of_ne differ with before | after
    · exact two_le_countP before atFirst atSecond heldA heldB
    · exact two_le_countP after atSecond atFirst heldB heldA
  have notBlank : isBlankKey spelling = false :=
    Json.isBlankKey_eq_false_of_heldEq (Json.heldEq_symm countableSpelling heldA) present
  exact ⟨spelling, List.mem_filter.2 ⟨spelled, by simp [twice, notBlank]⟩, heldA⟩

end Counting

/-- The keys a batch reports as repeated, when each can be counted: in order of first
occurrence, the first spelling of each class of held-equal keys that holds two keys or more, the
blank key left out. -/
theorem duplicateKeys_eq_repeatedKeys {rows : List (List Json)}
    (countable : ∀ row ∈ rows, (keyOf row).isHashable = true) :
    duplicateKeys rows = .ok (repeatedKeys (rows.map keyOf)) := by
  have countableKeys : ∀ key ∈ rows.map keyOf, key.isHashable = true := by
    simpa using countable
  have noneRefused : (rows.map keyOf).find? (fun key => !key.isHashable) = none := by
    rw [List.find?_eq_none]
    intro key member
    simp [countableKeys key member]
  simp only [duplicateKeys, noneRefused, countKeys_eq countableKeys, List.filterMap_map,
    repeatedKeys, ← List.filterMap_eq_filter]
  congr 1

namespace SheetState

/-- Two rows of a batch planned to one row both found that row in the sheet: an unmatched row
takes a row of its own past every row of the sheet. -/
theorem found_of_targetAt_eq (column : Option (List (List Json))) {rows : List (List Json)}
    {first second : Nat} {row other : List Json} (differ : first ≠ second)
    (atFirst : rows[first]? = some row) (atSecond : rows[second]? = some other)
    (same : (ofColumn column).targetAt rows first row =
      (ofColumn column).targetAt rows second other) :
    ∃ index, (ofColumn column).find? (keyOf row) = some index ∧
      (ofColumn column).find? (keyOf other) = some index := by
  have rowSide := targetAt_le_iff column atFirst
  have otherSide := targetAt_le_iff column atSecond
  have cursor : 0 ≤ (ofColumn column).cursor := by simp [ofColumn_cursor]
  cases foundRow : (ofColumn column).find? (keyOf row) with
  | some index =>
      cases foundOther : (ofColumn column).find? (keyOf other) with
      | some otherIndex =>
          rw [targetAt_of_found foundRow, targetAt_of_found foundOther] at same
          exact ⟨index, rfl, by rw [show otherIndex = index by omega]⟩
      | none =>
          have inside := rowSide.2 (by simp [unmatched, foundRow])
          have outside := mt otherSide.1 (by simp [unmatched, foundOther])
          omega
  | none =>
      cases foundOther : (ofColumn column).find? (keyOf other) with
      | some otherIndex =>
          have outside := mt rowSide.1 (by simp [unmatched, foundRow])
          have inside := otherSide.2 (by simp [unmatched, foundOther])
          omega
      | none =>
          rw [targetAt_of_absent foundRow cursor, targetAt_of_absent foundOther cursor] at same
          rcases Nat.lt_or_gt_of_ne differ with before | after
          · have := unmatchedThrough_lt before atSecond
              (show (ofColumn column).unmatched other = true by simp [unmatched, foundOther])
            omega
          · have := unmatchedThrough_lt after atFirst
              (show (ofColumn column).unmatched row = true by simp [unmatched, foundRow])
            omega

end SheetState

/-- Two writes of one plan that address one row come from two rows whose keys both equal the key
the sheet holds at that row, which is not blank; the two keys are then equal, neither is blank,
and their class is among the repeated keys. -/
theorem planSheet_shared_row {sheet : String} {column : Option (List (List Json))}
    {rows : List (List Json)} {writes : List RowWrite}
    (countable : ∀ row ∈ rows, (keyOf row).isHashable = true)
    (planned : planSheet sheet column rows = .ok writes) {first second : Nat}
    {write write' : RowWrite} (differ : first ≠ second) (atFirst : writes[first]? = some write)
    (atSecond : writes[second]? = some write') (same : write.rowNumber = write'.rowNumber) :
    ∃ (row other : List Json) (index : Nat) (existing : Json), rows[first]? = some row ∧ rows[second]? = some other ∧
      write.rowNumber = .ok ((index : Int) + 1) ∧
      (SheetState.ofColumn column).keys[index]? = some existing ∧
      isBlankKey existing = false ∧ existing.looseEq (keyOf row) = true ∧
      existing.looseEq (keyOf other) = true ∧ (keyOf row).looseEq (keyOf other) = true ∧
      isBlankKey (keyOf row) = false ∧
      ∃ key ∈ repeatedKeys (rows.map keyOf), key.heldEq (keyOf row) = true := by
  obtain ⟨writesEq, inRange⟩ := SheetState.planAll_eq_ok planned
  have planned : ∀ {position : Nat} {write : RowWrite}, writes[position]? = some write → ∃ row,
      rows[position]? = some row ∧ write.rowNumber =
        .ok ((SheetState.ofColumn column).targetAt rows position row) := by
    intro position write atPosition
    rw [writesEq, List.getElem?_mapIdx] at atPosition
    obtain ⟨row, atRow, rfl⟩ := Option.map_eq_some_iff.1 atPosition
    obtain ⟨positive, short⟩ := inRange position row atRow
    exact ⟨row, atRow, SheetState.rowNumber_writeAt positive short⟩
  obtain ⟨row, atRow, numbered⟩ := planned atFirst
  obtain ⟨other, atOther, numbered'⟩ := planned atSecond
  rw [numbered, numbered'] at same
  obtain ⟨index, foundRow, foundOther⟩ :=
    SheetState.found_of_targetAt_eq column differ atRow atOther (Except.ok.inj same)
  obtain ⟨⟨existing, atIndex, matchesRow⟩, -⟩ := (SheetState.find?_eq_some_iff _ _ _).1 foundRow
  obtain ⟨⟨existing', atIndex', matchesOther⟩, -⟩ :=
    (SheetState.find?_eq_some_iff _ _ _).1 foundOther
  rw [atIndex, Option.some.injEq] at atIndex'
  subst atIndex'
  simp only [Bool.and_eq_true, Bool.not_eq_true'] at matchesRow matchesOther
  have countableRow := countable row (List.mem_of_getElem? atRow)
  have countableExisting := Json.isHashable_of_looseEq matchesRow.2 countableRow
  have keysEqual := (Json.wellFormed_of_isHashable countableExisting).looseEq_euclid
    matchesRow.2 matchesOther.2
  have present : isBlankKey (keyOf row) = false :=
    Json.isBlankKey_eq_false_of_heldEq (Json.heldEq_of_looseEq matchesRow.2) matchesRow.1
  have countableKeys : ∀ key ∈ rows.map keyOf, key.isHashable = true := by
    simpa using countable
  refine ⟨row, other, index, existing, atRow, atOther, ?_, atIndex, matchesRow.1, matchesRow.2,
    matchesOther.2, keysEqual, present, exists_repeatedKey countableKeys differ
      (by simp [atRow]) (by simp [atOther]) (Json.heldEq_of_looseEq keysEqual) present⟩
  rw [numbered, SheetState.targetAt_of_found foundRow]

/-- The keys a batch reports as repeated, and the rows it writes twice. When every key of the
batch can be counted (a list or an object cannot be a dictionary key), the repeated keys are, in
order of first occurrence, the first spelling of each class of held-equal keys that holds two
keys or more, the blank key left out. And whenever two writes of the plan of these rows against
any key column address one row, the two rows' keys are equal and not blank, the key column holds
at that row a key equal to both that is not blank, and the class of the keys is among the
repeated keys: the warning about repeated keys covers every row a batch writes twice. -/
theorem duplicateKeys_names_every_row_written_twice (rows : List (List Json))
    (countable : ∀ row ∈ rows, (keyOf row).isHashable = true) :
    duplicateKeys rows = .ok (repeatedKeys (rows.map keyOf)) ∧
    ∀ (sheet : String) (column : Option (List (List Json))) (writes : List RowWrite),
      planSheet sheet column rows = .ok writes →
      ∀ (first second : Nat) (write write' : RowWrite), first ≠ second →
        writes[first]? = some write → writes[second]? = some write' →
        write.rowNumber = write'.rowNumber →
        ∃ (row other : List Json) (index : Nat) (existing : Json), rows[first]? = some row ∧
          rows[second]? = some other ∧ write.rowNumber = .ok ((index : Int) + 1) ∧
          (SheetState.ofColumn column).keys[index]? = some existing ∧
          isBlankKey existing = false ∧ existing.looseEq (keyOf row) = true ∧
          existing.looseEq (keyOf other) = true ∧ (keyOf row).looseEq (keyOf other) = true ∧
          isBlankKey (keyOf row) = false ∧
          ∃ key ∈ repeatedKeys (rows.map keyOf), key.heldEq (keyOf row) = true :=
  ⟨duplicateKeys_eq_repeatedKeys countable,
    fun _ _ _ planned _ _ _ _ differ atFirst atSecond same =>
      planSheet_shared_row countable planned differ atFirst atSecond same⟩

/-- A batch whose keys are a text twice, `true` and the integer one: the text and `true` repeat,
`true` standing for the integer one, its first spelling. -/
theorem duplicateKeys_text_and_true :
    (∀ row ∈ [[Json.str "k"], [.bool true], [.str "k"], [.int 1]], (keyOf row).isHashable = true) ∧
      duplicateKeys [[.str "k"], [.bool true], [.str "k"], [.int 1]] = .ok [.str "k", .bool true] := by
  have countable : ∀ row ∈ [[Json.str "k"], [.bool true], [.str "k"], [.int 1]],
      (keyOf row).isHashable = true := by
    decide
  refine ⟨countable, ?_⟩
  rw [(duplicateKeys_names_every_row_written_twice _ countable).1]
  rfl

end SheetExport
