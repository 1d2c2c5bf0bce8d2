import Mathlib
import SheetExport.Json.Reader

/-!
# Members of JSON objects

An object is kept as a list of members. Setting a member replaces the value of the first member of
its name, or adds a member at the end, so a lookup after a set finds the value set for that name
and the old value for any other (`lookup_setMember`), and names that were distinct stay distinct.

The reader builds every object by such sets, one per member read, so a document read from text
names each member of each of its objects once (`parse_distinct`): a member read twice keeps its
first place and its last value, as a dictionary does.
-/

namespace SheetExport

namespace Json

theorem lookup_cons_of_ne {key name : String} {value : Json} {rest : List (String × Json)}
    (apart : name ≠ key) : ((key, value) :: rest).lookup name = rest.lookup name := by
  have differs : (name == key) = false := by simpa using apart
  simp [List.lookup_cons, differs]

theorem mem_of_lookup_eq_some {members : List (String × Json)} {name : String} {value : Json}
    (found : members.lookup name = some value) : (name, value) ∈ members := by
  obtain ⟨before, after, rfl, -⟩ := List.lookup_eq_some_iff.mp found
  simp

theorem setMember_cons_self (key : String) (value old : Json) (rest : List (String × Json)) :
    setMember key value ((key, old) :: rest) = (key, value) :: rest := by
  simp [setMember]

theorem setMember_cons_of_ne {key name : String} (value old : Json) (rest : List (String × Json))
    (apart : name ≠ key) :
    setMember key value ((name, old) :: rest) = (name, old) :: setMember key value rest := by
  have differs : (name == key) = false := by simpa using apart
  simp [setMember, differs]

theorem lookup_setMember (key name : String) (value : Json) :
    ∀ members : List (String × Json),
      (setMember key value members).lookup name =
        if name = key then some value else members.lookup name
  | [] => by
      by_cases same : name = key
      · subst same
        simp [setMember]
      · simp [setMember, lookup_cons_of_ne same, same]
  | (other, old) :: rest => by
      by_cases found : other = key
      · subst found
        rw [setMember_cons_self]
        by_cases same : name = other
        · subst same
          simp
        · simp [lookup_cons_of_ne same, same]
      · rw [setMember_cons_of_ne value old rest found]
        by_cases same : name = other
        · subst same
          simp [found]
        · rw [lookup_cons_of_ne same, lookup_setMember key name value rest, lookup_cons_of_ne same]

theorem keys_setMember (key : String) (value : Json) :
    ∀ members : List (String × Json),
      (setMember key value members).map Prod.fst =
        if key ∈ members.map Prod.fst then members.map Prod.fst else members.map Prod.fst ++ [key]
  | [] => by simp [setMember]
  | (name, old) :: rest => by
      by_cases same : name = key
      · subst same
        simp [setMember_cons_self]
      · rw [setMember_cons_of_ne value old rest same, List.map_cons, keys_setMember key value rest]
        have apart : key ≠ name := fun h => same h.symm
        by_cases present : key ∈ rest.map Prod.fst <;> simp [present, apart]

theorem nodup_keys_setMember (key : String) (value : Json) {members : List (String × Json)}
    (distinct : (members.map Prod.fst).Nodup) : ((setMember key value members).map Prod.fst).Nodup := by
  rw [keys_setMember]
  split_ifs with present
  · exact distinct
  · exact distinct.append (List.nodup_singleton key) (by simpa using present)

theorem mem_setMember {key : String} {value : Json} {members : List (String × Json)}
    {member : String × Json} (inside : member ∈ setMember key value members) :
    member ∈ members ∨ member = (key, value) := by
  induction members with
  | nil => simpa [setMember] using inside
  | cons head rest ih =>
      obtain ⟨name, old⟩ := head
      unfold setMember at inside
      split_ifs at inside with same
      · rcases List.mem_cons.mp inside with rfl | later
        · exact .inr (by simpa using same)
        · exact .inl (List.mem_cons_of_mem _ later)
      · rcases List.mem_cons.mp inside with rfl | later
        · exact .inl List.mem_cons_self
        · exact (ih later).imp_left (List.mem_cons_of_mem _)

mutual

/-- A document whose objects, at every depth, name each of their members once. -/
def Distinct : Json → Prop
  | .arr items => DistinctItems items
  | .obj members => (members.map Prod.fst).Nodup ∧ DistinctMembers members
  | _ => True

/-- Every item of an array is a document of distinct names. -/
def DistinctItems : List Json → Prop
  | [] => True
  | item :: rest => Distinct item ∧ DistinctItems rest

/-- Every member's value is a document of distinct names. -/
def DistinctMembers : List (String × Json) → Prop
  | [] => True
  | (_, value) :: rest => Distinct value ∧ DistinctMembers rest

end

theorem distinctItems_iff : ∀ {items : List Json}, DistinctItems items ↔ ∀ item ∈ items, Distinct item
  | [] => by simp [DistinctItems]
  | item :: rest => by simp [DistinctItems, distinctItems_iff]

theorem distinctMembers_iff :
    ∀ {members : List (String × Json)}, DistinctMembers members ↔ ∀ member ∈ members, Distinct member.2
  | [] => by simp [DistinctMembers]
  | (name, value) :: rest => by simp [DistinctMembers, distinctMembers_iff]

theorem distinct_obj {members : List (String × Json)} :
    Distinct (.obj members) ↔
      (members.map Prod.fst).Nodup ∧ ∀ member ∈ members, Distinct member.2 := by
  simp [Distinct, distinctMembers_iff]

end Json

namespace JsonReader

open Json

/-- A number read is an integer or a binary64 number. -/
theorem readNumber_distinct {chars : Array Char} {start next : Nat} {document : Json}
    (read : readNumber chars start = .ok (document, next)) : document.Distinct := by
  unfold readNumber at read
  extract_lets at read
  split at read
  · cases read
  · split at read
    · cases read
    · extract_lets at read
      split at read
      · obtain ⟨rfl, -⟩ := Prod.mk.inj (Except.ok.inj read)
        trivial
      · split at read
        · cases read
        · obtain ⟨rfl, -⟩ := Prod.mk.inj (Except.ok.inj read)
          trivial

/-- Whatever the reader returns is a document of distinct names, given that the members and
items it already holds are: an object only grows by setting members. The induction is on the
fuel; a container is read with the smaller fuel, whatever room for nesting is left. -/
theorem read_distinct (chars : Array Char) : ∀ fuel : Nat,
    (∀ {nesting position : Nat} {document : Json} {next : Nat},
      readValue chars fuel nesting position = .ok (document, next) → document.Distinct) ∧
    (∀ {nesting position : Nat} {items : List Json} {first : Bool} {document : Json} {next : Nat},
      (∀ item ∈ items, item.Distinct) →
        readItems chars fuel nesting position items first = .ok (document, next) →
          document.Distinct) ∧
    (∀ {nesting position : Nat} {members : List (String × Json)} {first : Bool} {document : Json}
        {next : Nat}, (members.map Prod.fst).Nodup → (∀ member ∈ members, member.2.Distinct) →
        readMembers chars fuel nesting position members first = .ok (document, next) →
          document.Distinct)
  | 0 => by
      refine ⟨fun read => ?_, fun _ read => ?_, fun _ _ read => ?_⟩
      · simp [readValue] at read
      · simp [readItems] at read
      · simp [readMembers] at read
  | fuel + 1 => by
      obtain ⟨readsValue, readsItems, readsMembers⟩ := read_distinct chars fuel
      refine ⟨fun read => ?_, fun {nesting position items first document next} held read => ?_,
        fun {nesting position members first document next} distinct held read => ?_⟩
      · unfold readValue at read
        split at read
        · cases read
        · split at read
          · cases read
            trivial
          · cases read
        · unfold enter at read
          split at read
          · cases read
          · exact readsMembers (by simp) (by simp) read
        · unfold enter at read
          split at read
          · cases read
          · exact readsItems (by simp) read
        · split_ifs at read
          all_goals first
            | (cases read; trivial)
            | exact readNumber_distinct read
      · unfold readItems at read
        split at read
        · cases read
          simp [Distinct, DistinctItems]
        · split at read
          · cases read
          · rename_i item after readItem
            have itemDistinct := readsValue readItem
            have allDistinct : ∀ entry ∈ item :: items, entry.Distinct := by
              rintro entry (_ | ⟨_, older⟩)
              · exact itemDistinct
              · exact held entry older
            extract_lets at read
            split at read
            · obtain ⟨rfl, -⟩ := Prod.mk.inj (Except.ok.inj read)
              simpa only [Distinct, distinctItems_iff, List.mem_reverse] using allDistinct
            · exact readsItems allDistinct read
            · cases read
      · unfold readMembers at read
        split at read
        · cases read
          simp [Distinct, DistinctMembers]
        · split at read
          · cases read
          · split at read
            · cases read
            · rename_i key afterKey _
              extract_lets at read
              split at read
              · cases read
              · split at read
                · cases read
                · rename_i member after readMember
                  have setDistinct := nodup_keys_setMember key member distinct
                  have setHeld : ∀ entry ∈ setMember key member members, entry.2.Distinct := by
                    intro entry inside
                    rcases mem_setMember inside with older | rfl
                    · exact held entry older
                    · exact readsValue readMember
                  extract_lets at read
                  split at read
                  · obtain ⟨rfl, -⟩ := Prod.mk.inj (Except.ok.inj read)
                    exact distinct_obj.mpr ⟨setDistinct, setHeld⟩
                  · exact readsMembers setDistinct setHeld read
                  · cases read

end JsonReader

namespace Json

/-- A document read from text names each member of each of its objects once. -/
theorem parse_distinct {nesting : Nat} {text : String} {document : Json}
    (read : parse nesting text = .ok document) : document.Distinct := by
  unfold parse at read
  simp only at read
  split_ifs at read
  split at read
  · cases read
  · cases read
  · cases read
  · cases read
  · rename_i value next readDocument
    split_ifs at read
    cases read
    exact (JsonReader.read_distinct _ _).1 readDocument

end Json

end SheetExport
