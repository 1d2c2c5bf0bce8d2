import Mathlib
import SheetExport.Settings.Load
import SheetExport.Proofs.JsonObjects
import SheetExport.FailingSteps

/-!
# Where each setting comes from

Loading settings merges the settings file into the defaults and then lets the environment write
six values, each at its path of keys. Read as rules about values, this gives each setting the
value of its environment variable when that is set, else the value at its path in the file when
that is neither an object nor a list, else its default (`resolve`).

The rules hold of every load that succeeds (`load_follows_precedence_unless_crash`). A load fails
with a settings error when the file cannot be read as JSON, holds no object, or names a section as
a plain value. It fails with another error in five cases (`Crashes`): a file that is not UTF-8
text, a file that holds an integer too long to convert, a file whose containers nest deeper than
the interpreter's recursion allows, an environment variable that writes into a section the file
named as a plain value, and a number of attempts that is infinite.

The proof follows the load. Merging acts name by name (`lookup_merge`), which needs the file's
objects to name each member once, as every document read from text does. Setting a value at a
path puts it there and keeps every path apart from it (`setPath_eq_ok`), so applying the
environment, a fold of such sets over six paths that are pairwise apart, keeps each variable's
value at its own path (`applyEnvironment_values`).
-/

namespace SheetExport

namespace Settings

open Json

/-! ## Values at paths of keys -/

/-- A value that is neither an object nor a list: what a settings file may put in place of a
default. -/
def isPlain : Json → Bool
  | .obj _ | .arr _ => false
  | _ => true

/-- The value at a path of keys, through sections that are objects. -/
def valueAt (data : List (String × Json)) : List String → Option Json
  | [] => none
  | [key] => data.lookup key
  | part :: rest =>
    match data.lookup part with
    | some (.obj inner) => valueAt inner rest
    | _ => none

/-- Two paths of keys that part at some key, so that neither leads into the other. -/
def Apart : List String → List String → Prop
  | a :: p, b :: q => a ≠ b ∨ (a = b ∧ Apart p q)
  | _, _ => False

theorem valueAt_singleton (data : List (String × Json)) (key : String) :
    valueAt data [key] = data.lookup key := rfl

theorem valueAt_cons_cons (data : List (String × Json)) (part key : String) (more : List String) :
    valueAt data (part :: key :: more) =
      match data.lookup part with
      | some (.obj inner) => valueAt inner (key :: more)
      | _ => none := rfl

theorem valueAt_nil : ∀ path : List String, valueAt [] path = none
  | [] => rfl
  | [_] => rfl
  | _ :: _ :: _ => rfl

/-- The value at a path depends on the data only through the member its path starts with. -/
theorem valueAt_congr {data data' : List (String × Json)} {part : String}
    (same : data.lookup part = data'.lookup part) :
    ∀ rest : List String, valueAt data (part :: rest) = valueAt data' (part :: rest)
  | [] => same
  | _ :: _ => by rw [valueAt_cons_cons, valueAt_cons_cons, same]

theorem Apart.symm : ∀ {path other : List String}, Apart path other → Apart other path
  | _ :: _, _ :: _, .inl differs => .inl (Ne.symm differs)
  | _ :: _, _ :: _, .inr ⟨same, apart⟩ => .inr ⟨same.symm, apart.symm⟩

instance Apart.decidable : ∀ path other : List String, Decidable (Apart path other)
  | _ :: path, _ :: other =>
    haveI := Apart.decidable path other
    inferInstanceAs (Decidable (_ ≠ _ ∨ (_ = _ ∧ Apart path other)))
  | [], _ => isFalse id
  | _ :: _, [] => isFalse id

/-! ## Setting a value at a path -/

/-- Setting a value at a path puts it there and leaves every path apart from it as it was. -/
theorem setPath_eq_ok : ∀ {path : List String} {data data' : List (String × Json)} {value : Json},
    path ≠ [] → setPath data value path = .ok data' →
      valueAt data' path = some value ∧
        ∀ other, Apart path other → valueAt data' other = valueAt data other
  | [], _, _, _, nonempty, _ => absurd rfl nonempty
  | [key], data, data', value, _, set => by
      obtain rfl : setMember key value data = data' := by simpa [setPath] using set
      refine ⟨by simp [valueAt_singleton, lookup_setMember], ?_⟩
      rintro (_ | ⟨first, rest⟩) apart
      · exact apart.elim
      · have differs : first ≠ key := by
          rcases apart with differs | ⟨-, never⟩
          · exact Ne.symm differs
          · exact never.elim
        exact valueAt_congr (by simp [lookup_setMember, differs]) rest
  | part :: key :: more, data, data', value, _, set => by
      rw [setPath.eq_3 _ _ _ _ (by simp)] at set
      obtain ⟨members, found, inner, innerSet, rfl⟩ : ∃ members,
          (data.lookup part = none ∧ members = [] ∨ data.lookup part = some (.obj members)) ∧
          ∃ inner, setPath members value (key :: more) = .ok inner ∧
            data' = setMember part (.obj inner) data := by
        split at set
        · rename_i missing
          obtain ⟨inner, innerSet, built⟩ := bind_eq_ok.mp set
          exact ⟨[], .inl ⟨missing, rfl⟩, inner, innerSet, (Except.ok.inj built).symm⟩
        · rename_i members present
          obtain ⟨inner, innerSet, built⟩ := bind_eq_ok.mp set
          exact ⟨members, .inr present, inner, innerSet, (Except.ok.inj built).symm⟩
        · cases set
      obtain ⟨placed, kept⟩ := setPath_eq_ok (List.cons_ne_nil key more) innerSet
      have atPart : (setMember part (.obj inner) data).lookup part = some (.obj inner) := by
        simp [lookup_setMember]
      refine ⟨by rw [valueAt_cons_cons, atPart]; exact placed, ?_⟩
      rintro (_ | ⟨first, rest⟩) apart
      · exact apart.elim
      · by_cases same : first = part
        · subst same
          have restApart : Apart (key :: more) rest := by
            rcases apart with differs | ⟨-, restApart⟩
            · exact absurd rfl differs
            · exact restApart
          obtain ⟨next, rest, rfl⟩ : ∃ next tail, rest = next :: tail := by
            cases rest with
            | nil => exact restApart.elim
            | cons next tail => exact ⟨next, tail, rfl⟩
          rw [valueAt_cons_cons, atPart]
          dsimp only
          rw [kept _ restApart, valueAt_cons_cons]
          rcases found with ⟨missing, rfl⟩ | present
          · rw [missing, valueAt_nil]
          · rw [present]
        · exact valueAt_congr (by simp [lookup_setMember, same]) rest

/-- Setting a value at a path of two keys refuses exactly a section that is there and is no
object. -/
theorem setPath_pair_eq_error {data : List (String × Json)} {value : Json} {part key : String}
    {error : SettingsError} :
    setPath data value [part, key] = .error error ↔
      ∃ other, data.lookup part = some other ∧ (∀ members, other ≠ .obj members) ∧
        error = .notAssignable other.kindName := by
  rw [setPath.eq_3 _ _ _ _ (by simp)]
  split
  · rename_i missing
    simp [setPath, bind, Except.bind, pure, Except.pure, missing]
  · rename_i members present
    simp [setPath, bind, Except.bind, pure, Except.pure, present]
  · rename_i other notObject found
    simp only [Except.error.injEq]
    constructor
    · rintro rfl
      exact ⟨other, found, notObject, rfl⟩
    · rintro ⟨other', found', -, rfl⟩
      rw [found] at found'
      cases found'
      rfl

/-! ## Merging the file into the defaults -/

/-- What merging a member of the file does to the value of its name: objects merge, a value that
is no list replaces, and a name the settings do not have stays out. -/
def mergeValue : Option Json → Json → Option Json
  | some (.obj current), .obj inner => some (.obj (merge current inner))
  | some current, .obj _ => some current
  | some current, .arr _ => some current
  | some _, other => some other
  | none, _ => none

theorem mergeValue_obj (current : List (String × Json)) (value : Json) :
    mergeValue (some (.obj current)) value =
      match value with
      | .obj inner => some (.obj (merge current inner))
      | .arr _ => some (.obj current)
      | other => some other := by
  cases value <;> rfl

/-- A default that is no object is replaced by a plain value and kept against any other. -/
theorem mergeValue_of_not_obj {current : Json} (notObject : ∀ members, current ≠ .obj members)
    (value : Json) :
    mergeValue (some current) value = if isPlain value then some value else some current := by
  cases current with
  | obj members => exact absurd rfl (notObject members)
  | _ => cases value <;> rfl

theorem mergeValue_arr (current : Json) (items : List Json) :
    mergeValue (some current) (.arr items) = some current := by
  cases current <;> rfl

/-- A plain value replaces whatever stood under its name. -/
theorem mergeValue_plain (current : Json) {value : Json} (plain : isPlain value = true) :
    mergeValue (some current) value = some value := by
  cases value <;> simp only [isPlain, Bool.false_eq_true] at plain <;> cases current <;> rfl

/-- Merging acts name by name, when the file names each member once. -/
theorem lookup_merge : ∀ (merged file : List (String × Json)), (file.map Prod.fst).Nodup →
    ∀ name : String, (merge merged file).lookup name =
      match file.lookup name with
      | some value => mergeValue (merged.lookup name) value
      | none => merged.lookup name
  | merged, [], _, name => by simp [merge_nil]
  | merged, (key, value) :: rest, distinct, name => by
      obtain ⟨fresh, restDistinct⟩ := List.nodup_cons.mp distinct
      clear distinct
      rw [merge.eq_def]
      dsimp only
      rw [lookup_merge _ rest restDistinct name]
      by_cases same : name = key
      · subst same
        have absent : rest.lookup name = none := by
          rw [List.lookup_eq_none_iff]
          intro pair inside
          have other : pair.1 ≠ name := fun same => fresh (List.mem_map.mpr ⟨pair, inside, same⟩)
          simpa only [bne_iff_ne, ne_eq] using Ne.symm other
        rw [absent, List.lookup_cons_self]
        dsimp only
        split
        · rename_i current inner found
          rw [lookup_setMember, if_pos rfl, found]
          rfl
        · rename_i current members notObject found
          rw [found, mergeValue_of_not_obj fun members same => notObject members same]
          rfl
        · rename_i current items found
          rw [found, mergeValue_arr]
        · rename_i other _ _ current found notMerged notObject notList
          have plain : isPlain other = true := by
            cases other <;> simp_all [isPlain]
          rw [lookup_setMember, if_pos rfl, found, mergeValue_plain current plain]
        · rename_i found
          rw [found]
          rfl
      · rw [lookup_cons_of_ne same]
        have kept : ∀ result : Json,
            (setMember key result merged).lookup name = merged.lookup name := by
          intro result
          simp [lookup_setMember, same]
        cases rest.lookup name <;> dsimp only <;> split <;> simp only [kept]

/-- A section that is there and is no object. -/
def PlainAt (data : List (String × Json)) (part : String) : Prop :=
  ∃ other, data.lookup part = some other ∧ ∀ members, other ≠ .obj members

/-- The settings file names a section as a plain value. -/
def PlainSection (file : List (String × Json)) (part : String) : Prop :=
  ∃ value, file.lookup part = some value ∧ isPlain value = true

/-- A section that is an object in the defaults is plain after the merge exactly when the file
names it as a plain value. -/
theorem plainAt_merge {merged file : List (String × Json)} {part : String}
    {current : List (String × Json)} (distinct : (file.map Prod.fst).Nodup)
    (inDefaults : merged.lookup part = some (.obj current)) :
    PlainAt (merge merged file) part ↔ PlainSection file part := by
  rw [PlainAt, lookup_merge _ _ distinct, inDefaults]
  cases found : file.lookup part with
  | none => simp [PlainSection, found]
  | some value =>
      dsimp only
      rw [mergeValue_obj]
      cases value <;> simp [PlainSection, found, isPlain]

/-- A member of a section keeps its default unless the file gives a plain value for it, in a
section the file names as an object. -/
theorem valueAt_merge_pair {merged file : List (String × Json)} {part key : String}
    {current : List (String × Json)} {default : Json} (distinct : Distinct (.obj file))
    (inDefaults : merged.lookup part = some (.obj current))
    (inSection : current.lookup key = some default)
    (notObject : ∀ members, default ≠ .obj members) (notPlain : ¬PlainSection file part) :
    valueAt (merge merged file) [part, key] =
      ((valueAt file [part, key]).filter isPlain <|> some default) := by
  obtain ⟨keysDistinct, membersDistinct⟩ := distinct_obj.mp distinct
  rw [valueAt_cons_cons, valueAt_cons_cons, lookup_merge _ _ keysDistinct, inDefaults]
  cases found : file.lookup part with
  | none => simp [valueAt_singleton, inSection]
  | some value =>
      dsimp only
      rw [mergeValue_obj]
      cases value with
      | obj inner =>
          have innerDistinct : (inner.map Prod.fst).Nodup :=
            (distinct_obj.mp (membersDistinct _ (mem_of_lookup_eq_some found))).1
          simp only [valueAt_singleton, lookup_merge _ _ innerDistinct, inSection]
          cases inner.lookup key with
          | none => simp
          | some given =>
              dsimp only
              rw [mergeValue_of_not_obj notObject]
              split_ifs with plain <;> simp [Option.filter_some, plain]
      | arr items => simp [valueAt_singleton, inSection]
      | _ => exact absurd ⟨_, found, rfl⟩ notPlain

/-- A top-level setting keeps its default unless the file gives a plain value for it. -/
theorem valueAt_merge_single {merged file : List (String × Json)} {key : String} {default : Json}
    (distinct : (file.map Prod.fst).Nodup) (present : merged.lookup key = some default)
    (notObject : ∀ members, default ≠ .obj members) :
    valueAt (merge merged file) [key] = ((valueAt file [key]).filter isPlain <|> some default) := by
  rw [valueAt_singleton, valueAt_singleton, lookup_merge _ _ distinct, present]
  cases file.lookup key with
  | none => simp
  | some given =>
      dsimp only
      rw [mergeValue_of_not_obj notObject]
      split_ifs with plain <;> simp [Option.filter_some, plain]

/-! ## Applying the environment -/

/-- Applying one environment variable: its value is set at its path when it is set. -/
def applyVariable (environment data : List (String × Json)) (entry : String × List String) :
    Except SettingsError (List (String × Json)) :=
  match environment.lookup entry.1 with
  | some value => setPath data value entry.2
  | none => .ok data

theorem applyEnvironment_eq_foldlM (data environment : List (String × Json)) :
    applyEnvironment data environment = environmentKeys.foldlM (applyVariable environment) data :=
  rfl

/-- The paths the environment writes: each is one or two keys long, and any two are apart. -/
structure Separated (keys : List (String × List String)) : Prop where
  shape : ∀ entry ∈ keys, (∃ key, entry.2 = [key]) ∨ ∃ part key, entry.2 = [part, key]
  apart : keys.Pairwise fun entry other => Apart entry.2 other.2

theorem Separated.nonempty {keys : List (String × List String)} (separated : Separated keys)
    {entry : String × List String} (inside : entry ∈ keys) : entry.2 ≠ [] := by
  rcases separated.shape entry inside with ⟨key, same⟩ | ⟨part, key, same⟩ <;> simp [same]

theorem Separated.tail {entry : String × List String} {keys : List (String × List String)}
    (separated : Separated (entry :: keys)) : Separated keys :=
  ⟨fun other inside => separated.shape other (List.mem_cons_of_mem _ inside),
    (List.pairwise_cons.mp separated.apart).2⟩

theorem environmentKeys_separated : Separated environmentKeys := by
  refine ⟨?_, by decide⟩
  simp [environmentKeys]

/-- One variable applied: its path holds the environment's value if it is set and the old value
otherwise, and every path apart from it is kept. -/
theorem applyVariable_eq_ok {environment data data' : List (String × Json)}
    {entry : String × List String} (nonempty : entry.2 ≠ [])
    (applied : applyVariable environment data entry = .ok data') :
    valueAt data' entry.2 = (environment.lookup entry.1 <|> valueAt data entry.2) ∧
      ∀ other, Apart entry.2 other → valueAt data' other = valueAt data other := by
  unfold applyVariable at applied
  split at applied
  · rename_i value set
    obtain ⟨placed, kept⟩ := setPath_eq_ok nonempty applied
    exact ⟨by simp [placed, set], kept⟩
  · rename_i unset
    cases applied
    exact ⟨by simp [unset], fun _ _ => rfl⟩

/-- Applying variables one after another, at paths apart from each other, leaves at each path the
environment's value if it is set and the old value otherwise, and keeps every path apart from
them all. -/
theorem foldlM_applyVariable_values {environment : List (String × Json)} :
    ∀ {keys : List (String × List String)} {data data' : List (String × Json)},
      Separated keys → keys.foldlM (applyVariable environment) data = .ok data' →
        (∀ entry ∈ keys, valueAt data' entry.2 = (environment.lookup entry.1 <|> valueAt data entry.2)) ∧
          ∀ other, (∀ entry ∈ keys, Apart entry.2 other) → valueAt data' other = valueAt data other
  | [], data, data', _, applied => by
      cases applied
      exact ⟨by simp, fun _ _ => rfl⟩
  | entry :: keys, data, data', separated, applied => by
      rw [List.foldlM_cons] at applied
      obtain ⟨middle, first, later⟩ := bind_eq_ok.mp applied
      obtain ⟨firstValue, firstKept⟩ :=
        applyVariable_eq_ok (separated.nonempty List.mem_cons_self) first
      obtain ⟨laterValues, laterKept⟩ := foldlM_applyVariable_values separated.tail later
      have apartFromFirst : ∀ other ∈ keys, Apart entry.2 other.2 :=
        (List.pairwise_cons.mp separated.apart).1
      refine ⟨?_, fun other apart => ?_⟩
      · rintro current (_ | ⟨_, inside⟩)
        · rw [laterKept _ fun other inside => (apartFromFirst other inside).symm, firstValue]
        · rw [laterValues current inside, firstKept _ (apartFromFirst current inside)]
      · rw [laterKept _ fun entry inside => apart entry (List.mem_cons_of_mem _ inside),
          firstKept _ (apart entry List.mem_cons_self)]

theorem not_plainAt_setMember_obj (data : List (String × Json)) (part : String)
    (members : List (String × Json)) : ¬PlainAt (setMember part (.obj members) data) part := by
  rintro ⟨other, found, notObject⟩
  simp only [lookup_setMember, if_true, Option.some.injEq] at found
  exact notObject members found.symm

/-- One variable applied keeps a plain section plain and an object an object, unless it writes at
that section's name itself. -/
theorem applyVariable_sections {environment data data' : List (String × Json)} {name : String}
    {path : List String} {part : String}
    (applied : applyVariable environment data (name, path) = .ok data') (notThere : path ≠ [part]) :
    (PlainAt data' part ↔ PlainAt data part) ∧
      (∀ members, data.lookup part = some (.obj members) →
        ∃ members', data'.lookup part = some (.obj members')) := by
  have unchanged : data'.lookup part = data.lookup part →
      ((PlainAt data' part ↔ PlainAt data part) ∧
        ∀ members, data.lookup part = some (.obj members) →
          ∃ members', data'.lookup part = some (.obj members')) := fun same =>
    ⟨by simp only [PlainAt, same], fun members found => ⟨members, same ▸ found⟩⟩
  unfold applyVariable at applied
  split at applied
  · rename_i value _
    rcases path with _ | ⟨key, _ | ⟨key', more⟩⟩
    · cases applied
      exact unchanged rfl
    · obtain rfl : setMember key value data = data' := by simpa [setPath] using applied
      have differs : part ≠ key := fun same => notThere (by rw [same])
      exact unchanged (by simp [lookup_setMember, differs])
    · rw [setPath.eq_3 _ _ _ _ (by simp)] at applied
      obtain ⟨members, found, inner, rfl⟩ : ∃ members,
          (data.lookup key = none ∨ data.lookup key = some (.obj members)) ∧
          ∃ inner, data' = setMember key (.obj inner) data := by
        split at applied
        · rename_i missing
          obtain ⟨inner, -, built⟩ := bind_eq_ok.mp applied
          exact ⟨[], .inl missing, inner, (Except.ok.inj built).symm⟩
        · rename_i members present
          obtain ⟨inner, -, built⟩ := bind_eq_ok.mp applied
          exact ⟨members, .inr present, inner, (Except.ok.inj built).symm⟩
        · cases applied
      by_cases same : part = key
      · subst same
        refine ⟨⟨fun plain => absurd plain (not_plainAt_setMember_obj _ _ _), ?_⟩,
          fun _ _ => ⟨inner, by simp [lookup_setMember]⟩⟩
        rintro ⟨other, present, notObject⟩
        rcases found with missing | present'
        · simp [missing] at present
        · rw [present', Option.some.injEq] at present
          exact absurd present.symm (notObject members)
      · exact unchanged (by simp [lookup_setMember, same])
  · cases applied
    exact unchanged rfl

/-- Applying variables one after another keeps a plain section plain and an object an object,
when none of them writes at that section's name itself. -/
theorem foldlM_applyVariable_sections {environment : List (String × Json)} {part : String} :
    ∀ {keys : List (String × List String)} {data data' : List (String × Json)},
      (∀ entry ∈ keys, entry.2 ≠ [part]) →
        keys.foldlM (applyVariable environment) data = .ok data' →
          (PlainAt data' part ↔ PlainAt data part) ∧
            (∀ members, data.lookup part = some (.obj members) →
              ∃ members', data'.lookup part = some (.obj members'))
  | [], data, data', _, applied => by
      cases applied
      exact ⟨Iff.rfl, fun members found => ⟨members, found⟩⟩
  | (name, path) :: keys, data, data', notThere, applied => by
      rw [List.foldlM_cons] at applied
      obtain ⟨middle, first, later⟩ := bind_eq_ok.mp applied
      obtain ⟨firstPlain, firstObject⟩ :=
        applyVariable_sections first (notThere (name, path) List.mem_cons_self)
      obtain ⟨laterPlain, laterObject⟩ := foldlM_applyVariable_sections
        (fun entry inside => notThere entry (List.mem_cons_of_mem _ inside)) later
      refine ⟨laterPlain.trans firstPlain, fun members found => ?_⟩
      obtain ⟨members', found'⟩ := firstObject members found
      exact laterObject members' found'

/-- Setting a value only ever refuses a section that holds no keys. -/
theorem setPath_error_notAssignable : ∀ {path : List String} {data : List (String × Json)}
    {value : Json} {error : SettingsError}, setPath data value path = .error error →
      ∃ kind, error = .notAssignable kind
  | [], _, _, _, set => by cases set
  | [_], _, _, _, set => by cases set
  | part :: key :: more, data, value, error, set => by
      rw [setPath.eq_3 _ _ _ _ (by simp)] at set
      split at set
      all_goals first
        | (cases set; exact ⟨_, rfl⟩)
        | (cases inner : setPath _ value (key :: more) with
            | error failure =>
                rw [inner] at set
                cases set
                exact setPath_error_notAssignable inner
            | ok result =>
                rw [inner] at set
                cases set)

/-- Applying variables fails exactly when one that is set writes into a section that is there and
is no object; the failure is that such a value holds no keys. -/
theorem foldlM_applyVariable_error {environment : List (String × Json)} :
    ∀ {keys : List (String × List String)} {data : List (String × Json)}, Separated keys →
      ((∃ error, keys.foldlM (applyVariable environment) data = .error error) ↔
        ∃ name part key, (name, [part, key]) ∈ keys ∧ (environment.lookup name).isSome ∧
          PlainAt data part) ∧
      ∀ error, keys.foldlM (applyVariable environment) data = .error error →
        ∃ kind, error = .notAssignable kind
  | [], data, _ => by simp [pure, Except.pure]
  | (name, path) :: keys, data, separated => by
      rw [List.foldlM_cons]
      have apartFromFirst : ∀ other ∈ keys, Apart path other.2 :=
        (List.pairwise_cons.mp separated.apart).1
      cases first : applyVariable environment data (name, path) with
      | error failure =>
          unfold applyVariable at first
          split at first
          · rename_i value set
            rcases separated.shape (name, path) List.mem_cons_self with
              ⟨key, rfl⟩ | ⟨part, key, rfl⟩
            · cases first
            · obtain ⟨other, found, notObject, -⟩ := setPath_pair_eq_error.mp first
              refine ⟨⟨fun _ => ⟨name, part, key, List.mem_cons_self, by simp [set],
                other, found, notObject⟩, fun _ => ⟨failure, rfl⟩⟩, ?_⟩
              rintro error ⟨⟩
              exact setPath_error_notAssignable first
          · cases first
      | ok middle =>
          obtain ⟨laterError, laterKind⟩ :=
            @foldlM_applyVariable_error environment keys middle separated.tail
          refine ⟨?_, laterKind⟩
          simp only [bind, Except.bind]
          rw [laterError]
          constructor
          · rintro ⟨name', part, key, inside, set, plain⟩
            refine ⟨name', part, key, List.mem_cons_of_mem _ inside, set, ?_⟩
            have notThere : path ≠ [part] := by
              intro same
              have apart := apartFromFirst _ inside
              simp [same, Apart] at apart
            exact ((applyVariable_sections first notThere).1).mp plain
          · rintro ⟨name', part, key, inside, set, plain⟩
            rcases List.mem_cons.mp inside with same | later
            · obtain ⟨rfl, rfl⟩ := Prod.mk.inj same
              obtain ⟨value, found⟩ := Option.isSome_iff_exists.mp set
              obtain ⟨other, present, notObject⟩ := plain
              have refused : setPath data value [part, key] = .error (.notAssignable other.kindName) :=
                setPath_pair_eq_error.mpr ⟨other, present, notObject, rfl⟩
              simp [applyVariable, found, refused] at first
            · refine ⟨name', part, key, later, set, ?_⟩
              have notThere : path ≠ [part] := by
                intro same
                have apart := apartFromFirst _ later
                simp [same, Apart] at apart
              exact ((applyVariable_sections first notThere).1).mpr plain

/-! ## Reading the settings -/

/-- The value a setting takes: its environment variable when that is set, else the file's plain
value at its path, else its default. -/
def resolve (dataDirectory : String) (file environment : List (String × Json)) (name : String)
    (path : List String) : Json :=
  ((environment.lookup name <|> (valueAt file path).filter isPlain) <|>
    valueAt (defaults dataDirectory) path).getD .null

/-- The settings follow the precedence rules for a file and an environment: every text is the
trimmed text of the value its setting resolves to, an empty log level is INFO, and the attempts
are the whole number of their value clamped to 1 through 5, or 5 when it has none. -/
structure Follows (dataDirectory : String) (file environment : List (String × Json))
    (settings : ExporterSettings) : Prop where
  spreadsheetId : settings.spreadsheetId = textOf (resolve dataDirectory file environment
    "EXPORTER__SHEETS__SPREADSHEET_ID" ["sheets", "spreadsheet_id"])
  credentialPath : settings.credentialPath = textOf (resolve dataDirectory file environment
    "EXPORTER__SHEETS__CREDENTIAL_PATH" ["sheets", "credential_path"])
  tokenCachePath : settings.tokenCachePath = textOf (resolve dataDirectory file environment
    "EXPORTER__SHEETS__TOKEN_CACHE_PATH" ["sheets", "token_cache_path"])
  databasePath : settings.databasePath = textOf (resolve dataDirectory file environment
    "EXPORTER__DATABASE__PATH" ["database", "path"])
  logLevel : settings.logLevel =
    let level := textOf (resolve dataDirectory file environment "EXPORTER__LOG_LEVEL" ["log_level"])
    if level.isEmpty then ExporterSettings.defaultLogLevel else level
  logLevel_ne_empty : settings.logLevel ≠ ""
  attempts : ∀ whole, (resolve dataDirectory file environment "EXPORTER__SHEETS__MAX_ATTEMPTS"
    ["sheets", "max_attempts"]).whole = .ok whole → settings.maxAttempts = max 1 (min 5 whole)
  attempts_default : ∀ failure, (resolve dataDirectory file environment
    "EXPORTER__SHEETS__MAX_ATTEMPTS" ["sheets", "max_attempts"]).whole = .error failure →
      settings.maxAttempts = 5

/-- Where loading fails with an error other than a settings error: a file that is not UTF-8 text,
holds an integer too long to convert or nests its containers deeper than there is room for, a
variable that writes into a section the file names as a plain value, or, with both sections
objects, a number of attempts that is infinite. -/
def Crashes (nesting : Nat) (dataDirectory : String) (files : FileStore) (path : String)
    (environment : List (String × Json)) : Prop :=
  match readFile nesting files path with
  | .error error => (∃ failure, error = .undecodable failure) ∨
      (∃ failure, error = .numeral failure) ∨ ∃ container, error = .recursion container
  | .ok file =>
    (∃ name part key, (name, [part, key]) ∈ environmentKeys ∧ (environment.lookup name).isSome ∧
        PlainSection file part) ∨
      (¬PlainSection file "sheets" ∧ ¬PlainSection file "database" ∧
        (resolve dataDirectory file environment "EXPORTER__SHEETS__MAX_ATTEMPTS"
          ["sheets", "max_attempts"]).whole = .error .infinite)

/-- A settings file that can be read is an object whose members, at every depth, have distinct
names. -/
theorem readFile_distinct {nesting : Nat} {files : FileStore} {path : String}
    {file : List (String × Json)} (read : readFile nesting files path = .ok file) :
    Distinct (.obj file) := by
  unfold readFile at read
  split at read
  · cases read
    simp [Distinct, DistinctMembers]
  · split at read
    · cases read
    · split at read
      · cases read
      · split at read
        · cases read
        · cases read
        · cases read
        · rename_i parsed
          cases read
          exact parse_distinct parsed
        · cases read

/-- Reading the file fails with a settings error unless its bytes are not UTF-8, it holds an
integer too long to convert or it nests deeper than there is room for. -/
theorem readFile_error_className {nesting : Nat} {files : FileStore} {path : String}
    {error : SettingsError} (read : readFile nesting files path = .error error) :
    error.className ≠ "SettingsError" ↔ (∃ failure, error = .undecodable failure) ∨
      (∃ failure, error = .numeral failure) ∨ ∃ container, error = .recursion container := by
  unfold readFile at read
  split at read
  · cases read
  · split at read
    · cases read
      simp [SettingsError.className]
    · split at read
      · cases read
        simp [SettingsError.className]
      · split at read
        · cases read
          simp [SettingsError.className]
        · cases read
          simp [SettingsError.className]
        · cases read
          simp [SettingsError.className]
        · cases read
        · cases read
          simp [SettingsError.className]

theorem coerceAttempts_eq_error {value : Json} {error : SettingsError} :
    coerceAttempts value = .error error ↔ value.whole = .error .infinite ∧ error = .whole .infinite := by
  unfold coerceAttempts
  split
  · rename_i whole found
    simp [found]
  · rename_i found
    simp [found, eq_comm]
  · rename_i failure notInfinite found
    simp only [found, reduceCtorEq, false_iff, not_and, Except.error.injEq]
    exact fun infinite => absurd infinite notInfinite

/-- The attempts coerced from a value: its whole number clamped to 1 through 5, or 5 when it has
none. -/
theorem coerceAttempts_eq_ok {value : Json} {attempts : Int}
    (coerced : coerceAttempts value = .ok attempts) :
    (∀ whole, value.whole = .ok whole → attempts = max 1 (min 5 whole)) ∧
      ∀ failure, value.whole = .error failure → attempts = 5 := by
  unfold coerceAttempts at coerced
  split at coerced
  · rename_i whole found
    cases coerced
    exact ⟨fun _ same => by rw [found] at same; cases same; rfl, fun _ same => by simp [found] at same⟩
  · cases coerced
  · rename_i failure _ found
    cases coerced
    exact ⟨fun _ same => by simp [found] at same, fun _ _ => rfl⟩

/-- Each of the six paths of the defaults holds a value that is no object, one key deep or inside
a section that is an object. -/
theorem defaults_paths (dataDirectory : String) :
    ∀ entry ∈ environmentKeys,
      (∃ key default, entry.2 = [key] ∧ (defaults dataDirectory).lookup key = some default ∧
        ∀ members, default ≠ .obj members) ∨
      ∃ part key current default, entry.2 = [part, key] ∧
        (defaults dataDirectory).lookup part = some (.obj current) ∧
        current.lookup key = some default ∧ ∀ members, default ≠ .obj members := by
  intro entry inside
  simp only [environmentKeys, List.mem_cons, List.not_mem_nil, or_false] at inside
  rcases inside with rfl | rfl | rfl | rfl | rfl | rfl <;>
    first
      | exact .inr ⟨_, _, _, _, rfl, rfl, rfl, by simp⟩
      | exact .inl ⟨_, _, rfl, rfl, by simp⟩

/-- Each variable that writes two keys deep writes into a section the defaults hold as an
object. -/
theorem defaults_section (dataDirectory : String) {name part key : String}
    (inside : (name, [part, key]) ∈ environmentKeys) :
    ∃ current, (defaults dataDirectory).lookup part = some (.obj current) := by
  rcases defaults_paths dataDirectory _ inside with
    ⟨_, _, path, -⟩ | ⟨_, _, current, _, path, found, -⟩
  · simp at path
  · obtain ⟨rfl, -⟩ := List.cons.inj path
    exact ⟨current, found⟩

/-- Every variable that writes two keys deep writes into one of the two sections. -/
theorem environmentKeys_section {name part key : String}
    (inside : (name, [part, key]) ∈ environmentKeys) : part = "sheets" ∨ part = "database" := by
  simp only [environmentKeys, List.mem_cons, Prod.mk.injEq, List.cons.injEq, List.not_mem_nil,
    and_true, or_false] at inside
  rcases inside with ⟨-, rfl, -⟩ | ⟨-, rfl, -⟩ | ⟨-, rfl, -⟩ | ⟨-, rfl, -⟩ | ⟨-, rfl, -⟩ | ⟨-, -, never⟩
  all_goals simp_all

/-- The merged document holds at each of the six paths the file's plain value, else the default,
when the file names no section the path lies in as a plain value. -/
theorem valueAt_merge_defaults {dataDirectory : String} {file : List (String × Json)}
    (distinct : Distinct (.obj file)) {entry : String × List String} (inside : entry ∈ environmentKeys)
    (notPlain : ∀ part key, entry.2 = [part, key] → ¬PlainSection file part) :
    valueAt (merge (defaults dataDirectory) file) entry.2 =
      ((valueAt file entry.2).filter isPlain <|> valueAt (defaults dataDirectory) entry.2) := by
  rcases defaults_paths dataDirectory entry inside with
    ⟨key, default, path, present, notObject⟩ | ⟨part, key, current, default, path, present, inner,
      notObject⟩
  · rw [path, valueAt_merge_single (distinct_obj.mp distinct).1 present notObject,
      valueAt_singleton (defaults dataDirectory), present]
  · have defaultValue : valueAt (defaults dataDirectory) [part, key] = some default := by
      rw [valueAt_cons_cons, present]
      exact inner
    rw [path, valueAt_merge_pair distinct present inner notObject (notPlain part key path),
      defaultValue]

/-- After the merge and the environment, each of the six paths holds the value its setting
resolves to, when the file names no section the path lies in as a plain value. -/
theorem applyEnvironment_values {dataDirectory : String}
    {file environment data : List (String × Json)} (distinct : Distinct (.obj file))
    (applied : applyEnvironment (merge (defaults dataDirectory) file) environment = .ok data)
    {entry : String × List String} (inside : entry ∈ environmentKeys)
    (notPlain : ∀ part key, entry.2 = [part, key] → ¬PlainSection file part) :
    valueAt data entry.2 = some (resolve dataDirectory file environment entry.1 entry.2) := by
  rw [applyEnvironment_eq_foldlM] at applied
  have present : ∃ default, valueAt (defaults dataDirectory) entry.2 = some default := by
    rcases defaults_paths dataDirectory entry inside with
      ⟨key, default, path, found, -⟩ | ⟨part, key, current, default, path, found, inner, -⟩
    · exact ⟨default, by rw [path, valueAt_singleton, found]⟩
    · exact ⟨default, by rw [path, valueAt_cons_cons, found]; exact inner⟩
  obtain ⟨default, present⟩ := present
  rw [(foldlM_applyVariable_values environmentKeys_separated applied).1 entry inside,
    valueAt_merge_defaults distinct inside notPlain, resolve, present]
  cases environment.lookup entry.1 <;> cases (valueAt file entry.2).filter isPlain <;> rfl

/-- A section that is an object in the defaults stays an object through the merge, unless the file
names it as a plain value. -/
theorem lookup_merge_section {merged file : List (String × Json)} {part : String}
    {current : List (String × Json)} (distinct : (file.map Prod.fst).Nodup)
    (inDefaults : merged.lookup part = some (.obj current)) (notPlain : ¬PlainSection file part) :
    ∃ members, (merge merged file).lookup part = some (.obj members) := by
  rw [lookup_merge _ _ distinct, inDefaults]
  cases found : file.lookup part with
  | none => exact ⟨current, rfl⟩
  | some value =>
      dsimp only
      rw [mergeValue_obj]
      cases value with
      | obj inner => exact ⟨_, rfl⟩
      | arr items => exact ⟨current, rfl⟩
      | _ => exact absurd ⟨_, found, rfl⟩ notPlain

/-- After the merge and the environment, a section of the defaults is plain exactly when the file
names it as a plain value, and is an object otherwise. -/
theorem sections_after_environment {dataDirectory : String}
    {file environment data : List (String × Json)} (distinct : Distinct (.obj file))
    (applied : applyEnvironment (merge (defaults dataDirectory) file) environment = .ok data)
    {part : String} (which : part = "sheets" ∨ part = "database") :
    (PlainAt data part ↔ PlainSection file part) ∧
      (¬PlainSection file part → ∃ members, data.lookup part = some (.obj members)) := by
  obtain ⟨current, inDefaults⟩ : ∃ current, (defaults dataDirectory).lookup part = some (.obj current) := by
    rcases which with rfl | rfl
    · exact defaults_section dataDirectory
        (by decide : ("EXPORTER__SHEETS__SPREADSHEET_ID", ["sheets", "spreadsheet_id"]) ∈ environmentKeys)
    · exact defaults_section dataDirectory
        (by decide : ("EXPORTER__DATABASE__PATH", ["database", "path"]) ∈ environmentKeys)
  have notWritten : ∀ entry ∈ environmentKeys, entry.2 ≠ [part] := by
    rcases which with rfl | rfl <;> decide
  rw [applyEnvironment_eq_foldlM] at applied
  obtain ⟨plain, object⟩ := foldlM_applyVariable_sections notWritten applied
  have keysDistinct := (distinct_obj.mp distinct).1
  refine ⟨plain.trans (plainAt_merge keysDistinct inDefaults), fun notPlain => ?_⟩
  obtain ⟨members, merged⟩ := lookup_merge_section keysDistinct inDefaults notPlain
  exact object members merged

/-- The settings the precedence rules give, with the attempts already coerced. -/
def resolvedSettings (dataDirectory : String) (file environment : List (String × Json))
    (attempts : Int) : ExporterSettings :=
  let value := resolve dataDirectory file environment
  let level := textOf (value "EXPORTER__LOG_LEVEL" ["log_level"])
  ⟨textOf (value "EXPORTER__SHEETS__SPREADSHEET_ID" ["sheets", "spreadsheet_id"]),
    textOf (value "EXPORTER__SHEETS__CREDENTIAL_PATH" ["sheets", "credential_path"]),
    textOf (value "EXPORTER__SHEETS__TOKEN_CACHE_PATH" ["sheets", "token_cache_path"]),
    textOf (value "EXPORTER__DATABASE__PATH" ["database", "path"]),
    (if level.isEmpty then ExporterSettings.defaultLogLevel else level), attempts⟩

theorem follows_resolvedSettings {dataDirectory : String} {file environment : List (String × Json)}
    {attempts : Int} (coerced : coerceAttempts (resolve dataDirectory file environment
      "EXPORTER__SHEETS__MAX_ATTEMPTS" ["sheets", "max_attempts"]) = .ok attempts) :
    Follows dataDirectory file environment (resolvedSettings dataDirectory file environment attempts) := by
  obtain ⟨clamped, fallback⟩ := coerceAttempts_eq_ok coerced
  refine ⟨rfl, rfl, rfl, rfl, by dsimp only [resolvedSettings], ?_, clamped, fallback⟩
  simp only [resolvedSettings]
  split_ifs with empty
  · simp only [ExporterSettings.defaultLogLevel, ne_eq, String.reduceEq, not_false_eq_true]
  · simpa [String.isEmpty_iff] using empty

/-- A document whose sections are objects and whose six paths hold their resolved values gives
the resolved settings, once the attempts are coerced. -/
theorem ofDocument_resolved {dataDirectory : String} {file environment data : List (String × Json)}
    {sheets database : List (String × Json)} (sheetsFound : data.lookup "sheets" = some (.obj sheets))
    (databaseFound : data.lookup "database" = some (.obj database))
    (values : ∀ entry ∈ environmentKeys,
      valueAt data entry.2 = some (resolve dataDirectory file environment entry.1 entry.2)) :
    ofDocument data = (coerceAttempts (resolve dataDirectory file environment
      "EXPORTER__SHEETS__MAX_ATTEMPTS" ["sheets", "max_attempts"])).map
        (resolvedSettings dataDirectory file environment) := by
  have inSheets : ∀ name key, (name, ["sheets", key]) ∈ environmentKeys →
      sheets.lookup key = some (resolve dataDirectory file environment name ["sheets", key]) := by
    intro name key inside
    have found := values _ inside
    rwa [valueAt_cons_cons, sheetsFound] at found
  have inDatabase : database.lookup "path" =
      some (resolve dataDirectory file environment "EXPORTER__DATABASE__PATH" ["database", "path"]) := by
    have found := values _ (by decide : ("EXPORTER__DATABASE__PATH", ["database", "path"]) ∈ environmentKeys)
    rwa [valueAt_cons_cons, databaseFound] at found
  have level : data.lookup "log_level" =
      some (resolve dataDirectory file environment "EXPORTER__LOG_LEVEL" ["log_level"]) :=
    values ("EXPORTER__LOG_LEVEL", ["log_level"]) (by decide)
  unfold ofDocument
  rw [sheetsFound, databaseFound]
  dsimp only
  rw [inSheets "EXPORTER__SHEETS__SPREADSHEET_ID" "spreadsheet_id" (by decide),
    inSheets "EXPORTER__SHEETS__CREDENTIAL_PATH" "credential_path" (by decide),
    inSheets "EXPORTER__SHEETS__TOKEN_CACHE_PATH" "token_cache_path" (by decide),
    inSheets "EXPORTER__SHEETS__MAX_ATTEMPTS" "max_attempts" (by decide), inDatabase, level]
  simp only [Option.getD_some]
  cases coerceAttempts (resolve dataDirectory file environment "EXPORTER__SHEETS__MAX_ATTEMPTS"
    ["sheets", "max_attempts"]) with
  | error failure => rfl
  | ok attempts => rfl

/-! ## Loading -/

/-- Applying the environment after the merge fails exactly when a variable that is set writes
into a section the file names as a plain value, and it then fails as an assignment. -/
theorem applyEnvironment_merge_error (dataDirectory : String) (environment : List (String × Json))
    {file : List (String × Json)} (distinct : (file.map Prod.fst).Nodup) :
    ((∃ error, applyEnvironment (merge (defaults dataDirectory) file) environment = .error error) ↔
      ∃ name part key, (name, [part, key]) ∈ environmentKeys ∧ (environment.lookup name).isSome ∧
        PlainSection file part) ∧
    ∀ error, applyEnvironment (merge (defaults dataDirectory) file) environment = .error error →
      ∃ kind, error = .notAssignable kind := by
  rw [applyEnvironment_eq_foldlM]
  obtain ⟨fails, refused⟩ := @foldlM_applyVariable_error environment environmentKeys
    (merge (defaults dataDirectory) file) environmentKeys_separated
  refine ⟨fails.trans ⟨?_, ?_⟩, refused⟩
  · rintro ⟨name, part, key, inside, set, plain⟩
    obtain ⟨current, inDefaults⟩ := defaults_section dataDirectory inside
    exact ⟨name, part, key, inside, set, (plainAt_merge distinct inDefaults).mp plain⟩
  · rintro ⟨name, part, key, inside, set, plain⟩
    obtain ⟨current, inDefaults⟩ := defaults_section dataDirectory inside
    exact ⟨name, part, key, inside, set, (plainAt_merge distinct inDefaults).mpr plain⟩

/-- A document with a plain value in place of either section gives the settings error. -/
theorem ofDocument_plain_section {data : List (String × Json)} {part : String}
    (plain : PlainAt data part) (which : part = "sheets" ∨ part = "database") :
    ofDocument data = .error .sections := by
  obtain ⟨other, found, notObject⟩ := plain
  unfold ofDocument
  split
  · rename_i sheets database sheetsFound databaseFound
    rcases which with rfl | rfl
    · exact absurd (Option.some.inj (found.symm.trans sheetsFound)) (notObject sheets)
    · exact absurd (Option.some.inj (found.symm.trans databaseFound)) (notObject database)
  · rfl

/-- After the merge and the environment, with neither section named as a plain value by the
file, the document gives the resolved settings once the attempts are coerced. -/
theorem ofDocument_after_environment {dataDirectory : String}
    {file environment data : List (String × Json)} (distinct : Distinct (.obj file))
    (applied : applyEnvironment (merge (defaults dataDirectory) file) environment = .ok data)
    (sheetsObject : ¬PlainSection file "sheets") (databaseObject : ¬PlainSection file "database") :
    ofDocument data = (coerceAttempts (resolve dataDirectory file environment
      "EXPORTER__SHEETS__MAX_ATTEMPTS" ["sheets", "max_attempts"])).map
        (resolvedSettings dataDirectory file environment) := by
  obtain ⟨sheets, sheetsFound⟩ :=
    (sections_after_environment distinct applied (.inl rfl)).2 sheetsObject
  obtain ⟨database, databaseFound⟩ :=
    (sections_after_environment distinct applied (.inr rfl)).2 databaseObject
  refine ofDocument_resolved sheetsFound databaseFound fun entry inside => ?_
  refine applyEnvironment_values distinct applied inside fun part key path => ?_
  obtain ⟨name, _⟩ := entry
  subst path
  rcases environmentKeys_section inside with rfl | rfl
  · exact sheetsObject
  · exact databaseObject

/-- After the merge and the environment, a section the file names as a plain value gives the
settings error. -/
theorem ofDocument_after_environment_plain {dataDirectory : String}
    {file environment data : List (String × Json)} (distinct : Distinct (.obj file))
    (applied : applyEnvironment (merge (defaults dataDirectory) file) environment = .ok data)
    (plain : PlainSection file "sheets" ∨ PlainSection file "database") :
    ofDocument data = .error .sections := by
  rcases plain with plain | plain
  · exact ofDocument_plain_section
      ((sections_after_environment distinct applied (.inl rfl)).1.mpr plain) (.inl rfl)
  · exact ofDocument_plain_section
      ((sections_after_environment distinct applied (.inr rfl)).1.mpr plain) (.inr rfl)

/-- Loading settings, for every file store and environment: a load that succeeds gives the
settings the precedence rules resolve for the file it read, and a load fails with an error other
than a settings error exactly in the cases of `Crashes`. -/
theorem load_follows_precedence_unless_crash (nesting : Nat) (files : FileStore)
    (dataDirectory path : String) (environment : List (String × Json)) :
    (∀ settings, load nesting files dataDirectory path environment = .ok settings →
      ∃ file, readFile nesting files path = .ok file ∧
        Follows dataDirectory file environment settings) ∧
    ((∃ error, load nesting files dataDirectory path environment = .error error ∧
        error.className ≠ "SettingsError") ↔
      Crashes nesting dataDirectory files path environment) := by
  unfold load Crashes
  cases read : readFile nesting files path with
  | error error =>
      dsimp only [bind, Except.bind]
      refine ⟨fun _ loaded => (by cases loaded), ?_⟩
      rw [← readFile_error_className read]
      constructor
      · rintro ⟨_, same, named⟩
        cases same
        exact named
      · exact fun named => ⟨error, rfl, named⟩
  | ok file =>
      have distinct := readFile_distinct read
      obtain ⟨fails, refused⟩ :=
        applyEnvironment_merge_error dataDirectory environment (distinct_obj.mp distinct).1
      dsimp only [bind, Except.bind]
      cases applied : applyEnvironment (merge (defaults dataDirectory) file) environment with
      | error error =>
          obtain ⟨kind, rfl⟩ := refused _ applied
          refine ⟨fun _ loaded => (by cases loaded), fun _ => .inl (fails.mp ⟨_, applied⟩),
            fun _ => ⟨_, rfl, by simp [SettingsError.className]⟩⟩
      | ok data =>
          dsimp only
          have notWritten : ¬∃ name part key, (name, [part, key]) ∈ environmentKeys ∧
              (environment.lookup name).isSome ∧ PlainSection file part := fun written => by
            obtain ⟨_, failed⟩ := fails.mpr written
            rw [applied] at failed
            cases failed
          simp only [notWritten, false_or]
          by_cases plain : PlainSection file "sheets" ∨ PlainSection file "database"
          · rw [ofDocument_after_environment_plain distinct applied plain]
            refine ⟨fun _ loaded => (by cases loaded), ?_, ?_⟩
            · rintro ⟨_, failed, named⟩
              cases failed
              exact absurd rfl named
            · rintro ⟨sheetsObject, databaseObject, -⟩
              exact absurd plain (not_or.mpr ⟨sheetsObject, databaseObject⟩)
          · obtain ⟨sheetsObject, databaseObject⟩ := not_or.mp plain
            rw [ofDocument_after_environment distinct applied sheetsObject databaseObject]
            cases coerced : coerceAttempts (resolve dataDirectory file environment
                "EXPORTER__SHEETS__MAX_ATTEMPTS" ["sheets", "max_attempts"]) with
            | error error =>
                obtain ⟨infinite, rfl⟩ := coerceAttempts_eq_error.mp coerced
                refine ⟨fun _ loaded => (by cases loaded),
                  fun _ => ⟨sheetsObject, databaseObject, infinite⟩,
                  fun _ => ⟨_, rfl, by simp [SettingsError.className, WholeError.className]⟩⟩
            | ok attempts =>
                refine ⟨fun settings loaded => ⟨file, rfl, ?_⟩, ?_, ?_⟩
                · rw [← Except.ok.inj loaded]
                  exact follows_resolvedSettings coerced
                · rintro ⟨_, failed, -⟩
                  cases failed
                · rintro ⟨-, -, infinite⟩
                  have failed := coerceAttempts_eq_error.mpr ⟨infinite, rfl⟩
                  rw [coerced] at failed
                  cases failed

/-- A file that names the sheets section as text, with a variable set that writes into that
section: the load fails as an assignment into text, not with a settings error. -/
theorem load_refuses_variable_into_text_section :
    let files : FileStore := ⟨[("/", .directory), ("/settings.json", .file
      [123, 34, 115, 104, 101, 101, 116, 115, 34, 58, 32, 34, 102, 108, 97, 116, 34, 125] 420)]⟩
    load 990 files "/data" "/settings.json" [("EXPORTER__SHEETS__SPREADSHEET_ID", .str "x")] =
      .error (.notAssignable "str") := by
  intro files
  have read : readFile 990 files "/settings.json" = .ok [("sheets", .str "flat")] := rfl
  have merged : merge (defaults "/data") [("sheets", .str "flat")] =
      setMember "sheets" (.str "flat") (defaults "/data") := by
    simp [merge, defaults]
  unfold load
  rw [read]
  dsimp only [bind, Except.bind]
  rw [merged]
  rfl

end Settings

end SheetExport
