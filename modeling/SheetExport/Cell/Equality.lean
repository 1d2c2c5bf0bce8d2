import SheetExport.Json.Value

/-!
# Equality of cells

Cells compare by value across the numeric kinds: a boolean counts as the integer 0 or 1, an
integer and a binary64 number are equal when their values are, and NaN equals nothing. Text equals
only the same text, null only null, and lists and objects compare item by item. This is the
equality by which a row's key finds its row in a sheet.

Every NaN a document holds is one and the same value, and a value held in a list or an object,
or counted as a key, is first compared by identity. So a NaN equals a NaN there, though not when
two cells are compared directly: `[NaN]` equals `[NaN]`, and a NaN key repeats, while `NaN` does
not equal `NaN`.

A cell is true unless it is null, false, a zero, or an empty text, list or object.
-/

namespace SheetExport

/-- The numeric value of a cell, when it has one. -/
inductive Numeric where
  | whole (value : Int)
  | binary (value : Binary64)

/-- Whether two numeric values are equal. -/
def Numeric.equals : Numeric → Numeric → Bool
  | .whole a, .whole b => a == b
  | .whole a, .binary b => b.equalsInt a
  | .binary a, .whole b => a.equalsInt b
  | .binary a, .binary b => a.equals b

namespace Json

/-- The numeric value of a boolean, integer or binary64 cell. -/
def numeric? : Json → Option Numeric
  | .bool value => some (.whole (if value then 1 else 0))
  | .int value => some (.whole value)
  | .float value => some (.binary value)
  | _ => none

/-- Whether a cell is NaN. -/
def isNaN : Json → Bool
  | .float value => value.isNaN
  | _ => false

mutual

/-- Whether two cells are equal. -/
def looseEq : Json → Json → Bool
  | .null, .null => true
  | .str a, .str b => a == b
  | .arr items, .arr others => looseEqItems items others
  | .obj members, .obj others =>
    members.length == others.length && looseEqMembers members others
  | a, b =>
    match a.numeric?, b.numeric? with
    | some x, some y => x.equals y
    | _, _ => false

/-- Whether two lists of cells are equal item by item. -/
def looseEqItems : List Json → List Json → Bool
  | [], [] => true
  | a :: rest, b :: others => (a.isNaN && b.isNaN || looseEq a b) && looseEqItems rest others
  | _, _ => false

/-- Whether every member of the first object has an equal member of the same name in the
second. -/
def looseEqMembers : List (String × Json) → List (String × Json) → Bool
  | [], _ => true
  | (name, value) :: rest, others =>
    (match lookupIn name others with
     | some other => value.isNaN && other.isNaN || looseEq value other
     | none => false) && looseEqMembers rest others

/-- The value of the member named `name`. -/
def lookupIn (name : String) : List (String × Json) → Option Json
  | [] => none
  | (key, value) :: rest => if key == name then some value else lookupIn name rest

end

/-- Whether two held cells are equal: compared first by identity, so a NaN equals a NaN, then
by value. -/
def heldEq (a b : Json) : Bool := a.isNaN && b.isNaN || looseEq a b

/-- Whether a cell counts as true. -/
def truthy : Json → Bool
  | .null => false
  | .bool value => value
  | .int value => value != 0
  | .float value => !value.isZero
  | .str value => !value.isEmpty
  | .arr items => !items.isEmpty
  | .obj members => !members.isEmpty

/-- Whether a cell can be counted as a key: lists and objects cannot. -/
def isHashable : Json → Bool
  | .arr _ => false
  | .obj _ => false
  | _ => true

theorem looseEq_str (a b : String) : looseEq (.str a) (.str b) = (a == b) := by
  simp [looseEq]

end Json

end SheetExport
