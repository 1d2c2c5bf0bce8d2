import SheetExport.Number.Binary64

/-!
# JSON documents

A JSON document as the exporter reads and writes it. An integer keeps its full precision and any
other number is a binary64 number. An object keeps its members in the order they were first read:
a member read twice keeps its first place and takes its last value, so an object never holds two
members of one name.
-/

namespace SheetExport

/-- A JSON document. -/
inductive Json where
  | null
  | bool (value : Bool)
  | int (value : Int)
  | float (value : Binary64)
  | str (value : String)
  | arr (items : List Json)
  | obj (members : List (String × Json))
  deriving Inhabited, Repr

namespace Json

/-- Members with the member of name `key` set to `value`: in its place when present, at the end
otherwise. -/
def setMember (key : String) (value : Json) : List (String × Json) → List (String × Json)
  | [] => [(key, value)]
  | (name, old) :: rest =>
    if name == key then (name, value) :: rest else (name, old) :: setMember key value rest

/-- The value of the member named `key` of an object. -/
def get? (document : Json) (key : String) : Option Json :=
  match document with
  | .obj members => members.lookup key
  | _ => none

/-- Whether an object has a member named `key`. -/
def has (document : Json) (key : String) : Bool := (document.get? key).isSome

/-- The members of an object, none for any other document. -/
def members : Json → List (String × Json)
  | .obj members => members
  | _ => []

/-- The items of an array, none for any other document. -/
def items : Json → List Json
  | .arr items => items
  | _ => []

/-- The text of a string document. -/
def str? : Json → Option String
  | .str value => some value
  | _ => none

/-- Whether a document is null. -/
def isNull : Json → Bool
  | .null => true
  | _ => false

theorem setMember_lookup_self (key : String) (value : Json) (members : List (String × Json)) :
    (setMember key value members).lookup key = some value := by
  induction members with
  | nil => simp [setMember]
  | cons head rest ih =>
    obtain ⟨name, old⟩ := head
    by_cases same : name = key
    · subst same
      simp [setMember]
    · have differs : (key == name) = false := by
        simp only [beq_eq_false_iff_ne]
        exact fun h => same h.symm
      have differs' : (name == key) = false := by
        simp only [beq_eq_false_iff_ne]
        exact same
      simp [setMember, differs', List.lookup_cons, differs, ih]

end Json

end SheetExport
