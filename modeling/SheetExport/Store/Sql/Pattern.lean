import SheetExport.Store.Characters

/-!
# Patterns

`LIKE` and `GLOB` match a text against a pattern, both read as code points.

`LIKE` compares ASCII letters without case (unless the connection asks for case-sensitive `LIKE`)
and knows `%` (any run) and `_` (any one character), either of which loses its meaning when it is
the escape character; the escape character makes the character after it literal. `GLOB` compares
exactly and knows `*`, `?` and `[…]` sets with ranges and `^` for the complement.

Matching fails early: once a run wildcard has found no match at any start, no later start of an
enclosing run can match either, so the search stops.
-/

namespace SheetExport.Store.Sql

namespace Pattern

/-- How a pattern meets a text: a match, no match here, or no match at any later start either. -/
inductive Outcome where
  | matched
  | noMatch
  | noWildcardMatch
  deriving DecidableEq, Repr

/-- The meaning a pattern gives to its characters, by code point. -/
structure Rules where
  /-- Matches any run; none when the escape character took its place. -/
  any : Option Nat
  /-- Matches one character; none when the escape character took its place. -/
  one : Option Nat
  /-- The escape character for `LIKE`, or `[` for `GLOB`. -/
  other : Option Nat
  /-- Whether `[…]` sets are known. -/
  sets : Bool
  /-- Whether ASCII letters match either case. -/
  foldCase : Bool

/-- Whether a pattern character is the given special character. -/
def isChar (c : Nat) : Option Nat → Bool
  | some d => c == d
  | none => false

/-- An ASCII upper-case letter's code point in lower case, any other as it is. -/
def lower (c : Nat) : Nat := if 65 ≤ c && c ≤ 90 then c + 32 else c

/-- Whether two characters are equal, ASCII letters in either case when folding. -/
def sameChar (rules : Rules) (c d : Nat) : Bool :=
  c == d || (rules.foldCase && c < 128 && d < 128 && lower c == lower d)

/-- Reads the rest of a `[…]` set body for a character: whether it is among the members read so
far (`seen`) or later, given the member before (`prior`, none after a range); with the rest of
the pattern after the `]`, or none when the set does not close. A `-` between two members makes
a range, and anywhere else is a member. -/
def setMembers (c : Nat) (seen : Bool) (prior : Option Nat) : List Nat → Option (Bool × List Nat)
  | [] => none
  | d :: rest =>
    if d == ']'.toNat then some (seen, rest)
    else if d == '-'.toNat then
      match _hrest : rest, prior with
      | high :: more, some low =>
        if high == ']'.toNat then setMembers c (seen || c == '-'.toNat) (some '-'.toNat) rest
        else setMembers c (seen || (low ≤ c && c ≤ high)) none more
      | _, _ => setMembers c (seen || c == '-'.toNat) (some '-'.toNat) rest
    else setMembers c (seen || c == d) (some d) rest
termination_by body => body.length
decreasing_by all_goals simp_all; try omega

/-- Whether a character is in a `[…]` set whose body is given; with the rest of the pattern
after the `]`, or none when the set does not close. A leading `^` takes the complement, and a `]`
right after the start is a member. -/
def inSet (c : Nat) (body : List Nat) : Option (Bool × List Nat) :=
  let (invert, body) := match body with
    | first :: rest => if first == '^'.toNat then (true, rest) else (false, body)
    | [] => (false, body)
  let (seen, body) := match body with
    | first :: rest => if first == ']'.toNat then (c == ']'.toNat, rest) else (false, body)
    | [] => (false, body)
  match setMembers c seen none body with
  | some (seen, rest) => some (seen != invert, rest)
  | none => none

mutual

/-- Matches a pattern against a text. `escaped` says the pattern's first character was written
after the escape character. -/
def compare (rules : Rules) (fuel : Nat) (pattern text : List Nat) (escaped : Bool) : Outcome :=
  match fuel with
  | 0 => .noMatch
  | fuel + 1 =>
    match pattern with
    | [] => if text.isEmpty then .matched else .noMatch
    | c :: rest =>
      if isChar c rules.any && !escaped then afterAny rules fuel rest text
      else if isChar c rules.other && !escaped then
        if rules.sets then
          match text with
          | [] => .noMatch
          | t :: more =>
            match inSet t rest with
            | some (true, after) => compare rules fuel after more false
            | _ => .noMatch
        else
          match rest with
          | [] => .noMatch
          | _ :: _ => compare rules fuel rest text true
      else
        match text with
        | t :: more =>
          if sameChar rules c t || (isChar c rules.one && !escaped) then
            compare rules fuel rest more false
          else .noMatch
        | [] => .noMatch

/-- Matches the rest of a pattern after a run wildcard. -/
def afterAny (rules : Rules) (fuel : Nat) (pattern text : List Nat) : Outcome :=
  match fuel with
  | 0 => .noMatch
  | fuel + 1 =>
    match pattern with
    | [] => .matched
    | c :: rest =>
      if isChar c rules.any then afterAny rules fuel rest text
      else if isChar c rules.one then
        match text with
        | [] => .noWildcardMatch
        | _ :: more => afterAny rules fuel rest more
      else if isChar c rules.other && rules.sets then
        let starts := (List.range (text.length)).map fun k => text.drop k
        match starts.findSome? fun start =>
            match compare rules fuel (c :: rest) start false with
            | .noMatch => none
            | outcome => some outcome with
        | some outcome => outcome
        | none => .noWildcardMatch
      else
        let (literal, after) :=
          if isChar c rules.other then
            match rest with
            | d :: more => (some d, more)
            | [] => (none, [])
          else (some c, rest)
        match literal with
        | none => .noWildcardMatch
        | some literal =>
          let starts := (List.range text.length).filterMap fun k =>
            match text.drop k with
            | t :: more => if sameChar rules literal t then some more else none
            | [] => none
          match starts.findSome? fun start =>
              match compare rules fuel after start false with
              | .noMatch => none
              | outcome => some outcome with
          | some outcome => outcome
          | none => .noWildcardMatch

end

end Pattern

/-- `LIKE`: whether a text matches a pattern, by code points, with an optional escape character;
ASCII letters match in either case unless `caseSensitive`. -/
def likeMatches (caseSensitive : Bool) (pattern text : List Nat) (escape : Option Nat) : Bool :=
  let rules : Pattern.Rules :=
    { any := if escape == some '%'.toNat then none else some '%'.toNat
      one := if escape == some '_'.toNat then none else some '_'.toNat
      other := escape
      sets := false
      foldCase := !caseSensitive }
  Pattern.compare rules (4 * (pattern.length + text.length + 2)) pattern text false == .matched

/-- `GLOB`: whether a text matches a pattern, by code points. -/
def globMatches (pattern text : List Nat) : Bool :=
  let rules : Pattern.Rules := ⟨some '*'.toNat, some '?'.toNat, some '['.toNat, true, false⟩
  Pattern.compare rules (4 * (pattern.length + text.length + 2)) pattern text false == .matched

end SheetExport.Store.Sql
