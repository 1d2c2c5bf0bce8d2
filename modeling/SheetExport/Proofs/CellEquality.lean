import Mathlib
import SheetExport.Cell.Equality

/-!
# Cell equality through a well-formed cell

Two cells that both equal a third equal each other, when the third is well formed. This is what
keeps two rows with different keys from being sent to one row of a sheet: a sheet key that both
keys equal would make them equal.

Numbers carry the argument through their values. A binary64 number, an integer and a boolean
are equal exactly when they stand for one point of the rational line extended by its two
infinities, and NaN stands for none, so it equals nothing. Lists compare item by item, a NaN
item matching a NaN item. Objects need the one fact a document keeps by construction: no object
holds two members of one name (`Json.WellFormed`). An object that did could equal two objects
that differ, since each of its members is looked up in the other object and not the other way.
-/

namespace SheetExport

/-- A point of the rational line extended by its two infinities. -/
inductive ExtendedRat where
  | negInfinity
  | rat (value : ℚ)
  | posInfinity
  deriving DecidableEq

namespace Binary64

/-- The point a number stands for; NaN stands for none. -/
def point? : Binary64 → Option ExtendedRat
  | .finite negative significand exponent =>
    some (.rat ((signedSignificand negative significand : ℚ) * 2 ^ exponent))
  | .infinity negative => some (if negative then .negInfinity else .posInfinity)
  | .nan => none

/-- A power of two from a lower exponent on, as the lower power times a natural power. -/
private theorem two_zpow_of_le {base exponent : Int} (le : base ≤ exponent) :
    (2 : ℚ) ^ exponent = 2 ^ (exponent - base).toNat * 2 ^ base := by
  rw [← zpow_natCast, ← zpow_add₀ two_ne_zero, Int.toNat_of_nonneg (by omega)]
  congr 1
  omega

/-- Two signed significands brought to their common exponent are equal exactly when their
values are. -/
theorem scaled_eq_iff (left right exponent otherExponent : Int) :
    left * 2 ^ (exponent - min exponent otherExponent).toNat =
        right * 2 ^ (otherExponent - min exponent otherExponent).toNat ↔
      (left : ℚ) * 2 ^ exponent = right * 2 ^ otherExponent := by
  rw [two_zpow_of_le (min_le_left exponent otherExponent),
    two_zpow_of_le (min_le_right exponent otherExponent), ← mul_assoc, ← mul_assoc,
    mul_left_inj' (zpow_ne_zero _ two_ne_zero)]
  norm_cast

/-- A signed significand against an integer, the power of two moved to the side it multiplies:
equal exactly when the value is the integer. -/
theorem scaledPair_eq_iff (value power other : Int) :
    (scaledPair value power other).1 = (scaledPair value power other).2 ↔
      (value : ℚ) * 2 ^ power = other := by
  unfold scaledPair
  by_cases nonnegative : 0 ≤ power
  · rw [if_pos nonnegative, two_zpow_of_le nonnegative, zpow_zero, mul_one, Int.sub_zero]
    change value * 2 ^ _ = other ↔ _
    norm_cast
  · have inverse : (2 : ℚ) ^ (-power) = 2 ^ (-power).toNat := by
      rw [← zpow_natCast, Int.toNat_of_nonneg (by omega)]
    rw [if_neg nonnegative, ← eq_mul_inv_iff_mul_eq₀ (zpow_ne_zero _ two_ne_zero), ← zpow_neg,
      inverse]
    change value = other * 2 ^ _ ↔ _
    norm_cast

theorem equals_iff (x y : Binary64) :
    x.equals y = true ↔ x.point?.isSome ∧ x.point? = y.point? := by
  cases x with
  | finite negative significand exponent =>
      cases y with
      | finite otherNegative otherSignificand otherExponent =>
          simp [equals, compareWith, point?, scaled_eq_iff]
      | infinity otherNegative => cases otherNegative <;> simp [equals, compareWith, point?]
      | nan => simp [equals, compareWith, point?]
  | infinity negative =>
      cases y with
      | finite => cases negative <;> simp [equals, compareWith, point?]
      | infinity otherNegative =>
          cases negative <;> cases otherNegative <;> simp [equals, compareWith, point?]
      | nan => simp [equals, compareWith, point?]
  | nan => cases y <;> simp [equals, compareWith, point?]

theorem equalsInt_iff (x : Binary64) (n : Int) :
    x.equalsInt n = true ↔ x.point? = some (.rat n) := by
  cases x with
  | finite negative significand exponent =>
      simp [equalsInt, compareInt, point?, scaledPair_eq_iff]
  | infinity negative => cases negative <;> simp [equalsInt, compareInt, point?]
  | nan => simp [equalsInt, compareInt, point?]

end Binary64

namespace Numeric

/-- The point a numeric value stands for. -/
def point? : Numeric → Option ExtendedRat
  | .whole value => some (.rat value)
  | .binary value => value.point?

/-- Numeric values are equal exactly when they stand for one point. -/
theorem equals_iff (a b : Numeric) :
    a.equals b = true ↔ a.point?.isSome ∧ a.point? = b.point? := by
  cases a with
  | whole value =>
      cases b with
      | whole other =>
          simp only [equals, point?, beq_iff_eq, Option.isSome_some, true_and, Option.some.injEq,
            ExtendedRat.rat.injEq, Int.cast_inj]
      | binary other =>
          rw [equals, Binary64.equalsInt_iff, point?, point?]
          exact ⟨fun same => ⟨rfl, same.symm⟩, fun ⟨_, same⟩ => same.symm⟩
  | binary value =>
      cases b with
      | whole other =>
          rw [equals, Binary64.equalsInt_iff, point?, point?]
          constructor
          · intro same
            simp [same]
          · exact fun ⟨_, same⟩ => same
      | binary other => exact Binary64.equals_iff value other

theorem equals_euclid {p q r : Numeric} (left : p.equals q = true) (right : p.equals r = true) :
    q.equals r = true := by
  rw [equals_iff] at left right ⊢
  obtain ⟨some, sameLeft⟩ := left
  obtain ⟨-, sameRight⟩ := right
  exact ⟨sameLeft ▸ some, sameLeft.symm.trans sameRight⟩

end Numeric

namespace Json

/-- A document no object of which holds two members of one name, as every document read from
text is: a member read twice keeps one place. -/
inductive WellFormed : Json → Prop
  | null : WellFormed .null
  | bool (value : Bool) : WellFormed (.bool value)
  | int (value : Int) : WellFormed (.int value)
  | float (value : Binary64) : WellFormed (.float value)
  | str (value : String) : WellFormed (.str value)
  | arr {items : List Json} (wellFormedItems : ∀ item ∈ items, WellFormed item) :
      WellFormed (.arr items)
  | obj {members : List (String × Json)} (distinctNames : (members.map Prod.fst).Nodup)
      (wellFormedValues : ∀ member ∈ members, WellFormed member.2) : WellFormed (.obj members)

theorem looseEq_null_left (a : Json) : looseEq .null a = true ↔ a = .null := by
  cases a <;> simp [looseEq, numeric?]

theorem looseEq_str_left (text : String) (a : Json) :
    looseEq (.str text) a = true ↔ a = .str text := by
  cases a with
  | str other =>
      simp only [looseEq, beq_iff_eq, Json.str.injEq]
      exact eq_comm
  | _ => simp [looseEq, numeric?]

theorem looseEq_arr_left (items : List Json) (a : Json) :
    looseEq (.arr items) a = true ↔ ∃ others, a = .arr others ∧ looseEqItems items others = true := by
  cases a <;> simp [looseEq, numeric?]

theorem looseEq_obj_left (members : List (String × Json)) (a : Json) :
    looseEq (.obj members) a = true ↔ ∃ others, a = .obj others ∧
      members.length = others.length ∧ looseEqMembers members others = true := by
  cases a <;> simp [looseEq, numeric?]

/-- A cell with a numeric value equals exactly the cells with an equal numeric value. -/
theorem looseEq_numeric_left {x : Json} {p : Numeric} (numeric : x.numeric? = some p) (a : Json) :
    looseEq x a = true ↔ ∃ q, a.numeric? = some q ∧ p.equals q = true := by
  cases x <;> cases a <;> simp_all [looseEq, numeric?]

/-- A NaN equals nothing. -/
theorem looseEq_of_isNaN {x : Json} (nan : x.isNaN = true) (a : Json) : looseEq x a = false := by
  cases x with
  | float value =>
      cases value with
      | nan =>
          rw [Bool.eq_false_iff]
          intro equal
          obtain ⟨q, -, equals⟩ := (looseEq_numeric_left rfl a).1 equal
          simp [Numeric.equals_iff, Numeric.point?, Binary64.point?] at equals
      | _ => simp [isNaN, Binary64.isNaN] at nan
  | _ => simp [isNaN] at nan

/-- The member named `name`, when there is one, is a member of that name. -/
theorem lookupIn_mem {name : String} {value : Json} {members : List (String × Json)}
    (found : lookupIn name members = some value) : (name, value) ∈ members := by
  induction members with
  | nil => simp [lookupIn] at found
  | cons member rest ih =>
      obtain ⟨key, other⟩ := member
      by_cases same : key = name
      · subst same
        simp only [lookupIn, beq_self_eq_true, if_true, Option.some.injEq] at found
        simp [found]
      · simp only [lookupIn, beq_iff_eq, same, if_false] at found
        exact List.mem_cons_of_mem _ (ih found)

/-- In members of distinct names, a member is the one its name finds. -/
theorem lookupIn_of_mem {name : String} {value : Json} {members : List (String × Json)}
    (distinct : (members.map Prod.fst).Nodup) (member : (name, value) ∈ members) :
    lookupIn name members = some value := by
  induction members with
  | nil => simp at member
  | cons head rest ih =>
      obtain ⟨key, other⟩ := head
      simp only [List.map_cons, List.nodup_cons] at distinct
      rcases List.mem_cons.1 member with first | later
      · obtain ⟨rfl, rfl⟩ := Prod.mk.inj first
        simp [lookupIn]
      · have differs : key ≠ name := by
          rintro rfl
          exact distinct.1 (List.mem_map.2 ⟨_, later, rfl⟩)
        simp [lookupIn, differs, ih distinct.2 later]

theorem looseEqMembers_iff (members others : List (String × Json)) :
    looseEqMembers members others = true ↔
      ∀ member ∈ members, ∃ value, lookupIn member.1 others = some value ∧
        heldEq member.2 value = true := by
  induction members with
  | nil => simp [looseEqMembers]
  | cons member rest ih =>
      obtain ⟨name, value⟩ := member
      simp only [looseEqMembers, Bool.and_eq_true, ih, List.forall_mem_cons]
      cases lookupIn name others with
      | none => simp
      | some other => simp [heldEq]

section Euclid

/-! Each step of the induction below holds for a cell `x` equal to two cells when every cell
inside `x` already has the property; `Euclidean x` names it. -/

/-- Any two cells that `x` equals are equal. -/
def Euclidean (x : Json) : Prop :=
  ∀ {a b : Json}, looseEq x a = true → looseEq x b = true → looseEq a b = true

theorem euclidean_of_numeric {x : Json} {p : Numeric} (numeric : x.numeric? = some p) :
    Euclidean x := by
  intro a b left right
  obtain ⟨q, numericA, equalsA⟩ := (looseEq_numeric_left numeric a).1 left
  obtain ⟨r, numericB, equalsB⟩ := (looseEq_numeric_left numeric b).1 right
  exact (looseEq_numeric_left numericA b).2 ⟨r, numericB, Numeric.equals_euclid equalsA equalsB⟩

/-- Held equality passes through a cell with the property: a NaN is held equal to NaNs only. -/
theorem heldEq_euclid {x a b : Json} (euclidean : Euclidean x) (left : heldEq x a = true)
    (right : heldEq x b = true) : heldEq a b = true := by
  unfold heldEq at left right ⊢
  cases nan : x.isNaN with
  | true =>
      rw [nan, looseEq_of_isNaN nan] at left right
      simp only [Bool.true_and, Bool.or_false] at left right
      simp [left, right]
  | false =>
      simp only [nan, Bool.false_and, Bool.false_or] at left right
      simp [euclidean left right]

theorem looseEqItems_euclid {items : List Json} (euclidean : ∀ item ∈ items, Euclidean item) :
    ∀ {as bs : List Json}, looseEqItems items as = true → looseEqItems items bs = true →
      looseEqItems as bs = true := by
  induction items with
  | nil =>
      intro as bs left right
      cases as <;> cases bs <;> simp_all [looseEqItems]
  | cons item rest ih =>
      intro as bs left right
      cases as with
      | nil => simp [looseEqItems] at left
      | cons a as =>
          cases bs with
          | nil => simp [looseEqItems] at right
          | cons b bs =>
              simp only [looseEqItems, Bool.and_eq_true] at left right ⊢
              exact ⟨heldEq_euclid (euclidean item (by simp)) left.1 right.1,
                ih (fun other member => euclidean other (by simp [member])) left.2 right.2⟩

/-- Two objects equal to one object of distinct member names are equal. The names of the
first object all occur among the names of each other object, which has as many members, so
each other object has exactly these names, once each; every member of one is then found in the
other through the member of that name in the first. -/
theorem looseEqMembers_euclid {members : List (String × Json)}
    (distinct : (members.map Prod.fst).Nodup)
    (euclidean : ∀ member ∈ members, Euclidean member.2)
    {ns ps : List (String × Json)} (lengthN : members.length = ns.length)
    (left : looseEqMembers members ns = true)
    (right : looseEqMembers members ps = true) : looseEqMembers ns ps = true := by
  rw [looseEqMembers_iff] at left right ⊢
  have covered : members.map Prod.fst ⊆ ns.map Prod.fst := by
    intro name named
    obtain ⟨member, member_mem, rfl⟩ := List.mem_map.1 named
    obtain ⟨value, found, -⟩ := left member member_mem
    exact List.mem_map.2 ⟨_, lookupIn_mem found, rfl⟩
  have sameNames : (members.map Prod.fst).Perm (ns.map Prod.fst) :=
    (distinct.subperm covered).perm_of_length_le (by simp [lengthN])
  have distinctN : (ns.map Prod.fst).Nodup := sameNames.nodup_iff.1 distinct
  intro ⟨name, value⟩ memberN
  obtain ⟨⟨name', first⟩, memberM, named⟩ :=
    List.mem_map.1 (sameNames.mem_iff.2 (List.mem_map.2 ⟨_, memberN, rfl⟩))
  simp only at named
  subst named
  obtain ⟨value', foundN, heldN⟩ := left _ memberM
  have same : value' = value := by
    rw [lookupIn_of_mem distinctN memberN] at foundN
    exact (Option.some.inj foundN).symm
  subst same
  obtain ⟨last, foundP, heldP⟩ := right _ memberM
  exact ⟨last, foundP, heldEq_euclid (euclidean _ memberM) heldN heldP⟩

/-- Two cells equal to one well-formed cell are equal. -/
theorem WellFormed.looseEq_euclid {x : Json} (wellFormed : x.WellFormed) : Euclidean x := by
  induction wellFormed with
  | null =>
      intro a b left right
      rw [looseEq_null_left] at left right
      subst left right
      simp [looseEq]
  | bool value => exact euclidean_of_numeric rfl
  | int value => exact euclidean_of_numeric rfl
  | float value => exact euclidean_of_numeric rfl
  | str text =>
      intro a b left right
      rw [looseEq_str_left] at left right
      subst left right
      simp [looseEq]
  | arr _ ih =>
      intro a b left right
      obtain ⟨as, rfl, left⟩ := (looseEq_arr_left _ _).1 left
      obtain ⟨bs, rfl, right⟩ := (looseEq_arr_left _ _).1 right
      exact (looseEq_arr_left _ _).2 ⟨bs, rfl, looseEqItems_euclid ih left right⟩
  | obj distinct _ ih =>
      intro a b left right
      obtain ⟨ns, rfl, lengthN, left⟩ := (looseEq_obj_left _ _).1 left
      obtain ⟨ps, rfl, lengthP, right⟩ := (looseEq_obj_left _ _).1 right
      exact (looseEq_obj_left _ _).2 ⟨ps, rfl, lengthN.symm.trans lengthP,
        looseEqMembers_euclid distinct ih lengthN left right⟩

end Euclid

end Json

end SheetExport
