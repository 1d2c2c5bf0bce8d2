import SheetExport.Store.FullText.Match

/-!
# Reporting on a row found by a query of the third or fourth version

Three functions report on the row a search of a full-text table of the third or fourth version
stands on. They count the phrases of the query in order, leaving out those on the right of
`NOT`, and read each phrase's places in the row by the place of its last term.

* `offsets` lists, for each column and each term of the counted phrases, in order of place, the
  column, the term's number, and the byte offset and size of its token in the column's text.
* `matchinfo` gives a list of 32-bit numbers, little-endian, chosen by letters: `p` the number of
  phrases, `c` of columns, `n` of rows, `a` the average number of tokens of each column, `l` the
  tokens of each column of the row, `x` for each phrase and column the instances in the row, in
  the table and the rows holding one, `y` the instances in the row alone, `b` a bit for each
  column holding the phrase, and `s` the longest run of phrases standing in query order.
* `snippet` cuts up to four fragments of a given number of tokens from the columns. It first
  tries one fragment holding every phrase the row holds, then two, three and four; each fragment
  is the window scoring best: 1000 for each phrase not yet covered and 1 for each further
  instance. A window is then shifted towards the middle of the instances it marks.
-/

namespace SheetExport.Store.FullText

/-- Whether each phrase of a query, in order, is counted: all but those on the right of
`NOT`. -/
def Query.counted : Query → List Bool
  | .never => []
  | .near phrases _ _ => phrases.map fun _ => true
  | .chain phrases _ => phrases.map fun _ => true
  | .both left right | .either left right => left.counted ++ right.counted
  | .except left right => left.counted ++ right.counted.map fun _ => false

/-- Whether each phrase of a query, in order, stands in a `NEAR` run. -/
def Query.chained : Query → List Bool
  | .never => []
  | .near phrases _ _ => phrases.map fun _ => false
  | .chain phrases _ => phrases.map fun _ => true
  | .both left right | .either left right | .except left right =>
    left.chained ++ right.chained

/-- A counted phrase of a query in a row: its number of terms and its places (column and place of
its first term). -/
abbrev Placed := Nat × List (Nat × Nat)

/-- The counted phrases of a query, each with its places in a document. -/
def countedPlaces (query : Query) (document : Document) : List Placed :=
  let lengths := query.phrases.map fun (phrase : List Term × Option (List Nat)) =>
    phrase.1.length
  ((query.hits document).zip (lengths.zip query.counted)).filterMap
    fun (hits, length, counted) => if counted then some (length, hits) else none

/-- The places, in one column, of the last term of a phrase. -/
def lastPlaces (column : Nat) (placed : Placed) : List Nat :=
  placed.2.filterMap fun (at_, start) =>
    if at_ == column then some (start + placed.1 - 1) else none

/-- The text `offsets` gives: for each column with text, the places of the terms of the counted
phrases in order of place (then of term), as the column, the term's number, and its token's byte
offset and size; none when there is no such place. -/
def offsetsText (tokenizer : Tokenizer) (texts : List (Option (List UInt8)))
    (phrases : List Placed) : Option String :=
  let terms : List (List (Nat × Nat)) := phrases.flatMap fun (length, hits) =>
    (List.range length).map fun offset => hits.map fun (column, start) => (column, start + offset)
  let entries := texts.zipIdx.flatMap fun (text, column) =>
    match text with
    | none => []
    | some text =>
      let tokens := tokenizer.tokens text
      let found := (terms.zipIdx.flatMap fun (places, term) =>
        places.filterMap fun (at_, place) => if at_ == column then some (place, term) else none)
      let found := found.mergeSort fun a b => a.1 < b.1 || (a.1 == b.1 && a.2 ≤ b.2)
      let present := found.filterMap fun (place, term) =>
        tokens[place]?.map fun (token : Token) => (term, token)
      present.map fun (term, token) =>
        toString column ++ " " ++ toString term ++ " " ++ toString token.start ++ " " ++
          toString (token.stop - token.start)
  if entries.isEmpty then none else some (" ".intercalate entries)

/-- The four bytes of a 32-bit number, lowest first. -/
def littleEndian32 (value : Nat) : List UInt8 :=
  let value := value % 4294967296
  [value.toUInt8, (value / 256).toUInt8, (value / 65536).toUInt8, (value / 16777216).toUInt8]

/-- The longest run of counted phrases, in query order, whose places in a column follow one
another as their lengths say: each phrase's places are moved back by the lengths of it and the
phrases before it, and the places are walked in order. -/
def longestRun (phrases : List (Nat × List Nat)) : Nat :=
  let offsets := (phrases.map (·.1)).foldl (fun (acc : List Int × Int) (length : Nat) =>
    (acc.1 ++ [acc.2 - length], acc.2 - length)) ([], 0) |>.1
  let heads : List (Option (Int × List Int)) := (phrases.zip offsets).map
    fun ((_, places), offset) =>
      match places with
      | first :: rest => some (offset + first, rest.map fun (place : Nat) => offset + place)
      | [] => none
  let rec walk (fuel : Nat) (heads : List (Option (Int × List Int))) (best : Nat) : Nat :=
    match fuel with
    | 0 => best
    | fuel + 1 =>
      if heads.all Option.isNone then best
      else
        let (best, _, _, least) := heads.zipIdx.foldl
          (fun (acc : Nat × Nat × Option Int × Option (Nat × Int)) (head, index) =>
            let (best, run, previous, least) := acc
            match head with
            | none => (best, 0, none, least)
            | some (place, _) =>
              let least := match least with
                | some (_, lowest) => if place < lowest then some (index, place) else least
                | none => some (index, place)
              let run := if run == 0 || previous == some place then run + 1 else 1
              (max best run, run, some place, least)) (best, 0, none, none)
        match least with
        | none => best
        | some (index, _) =>
          let heads := heads.modify index fun
            | some (_, next :: rest) => some (next, rest)
            | _ => none
          walk fuel heads best
  walk (phrases.foldl (fun total phrase => total + phrase.2.length) 1) heads 0

/-- What `matchinfo` reads of a row and its table. -/
structure MatchinfoInput where
  query : Query
  document : Document
  documents : List Document
  columns : Nat
  fourth : Bool
  sized : Bool

/-- The numbers `matchinfo` gives for one letter of its format. -/
def MatchinfoInput.values (input : MatchinfoInput) (letter : UInt8) : List Nat :=
  let columns := input.columns
  let counted := input.query.counted
  let phrases := countedPlaces input.query input.document
  let inColumn (hits : List (Nat × Nat)) (column : Nat) : Nat :=
    (hits.filter (·.1 == column)).length
  if letter == 0x70 then [phrases.length]
  else if letter == 0x63 then [columns]
  else if letter == 0x6E then [input.documents.length]
  else if letter == 0x61 then
    let rows := input.documents.length
    (List.range columns).map fun column =>
      let total := (input.documents.map fun document =>
        (document.getD column []).length).foldr (· + ·) 0
      if rows == 0 then 0 else (total % 4294967296 + rows / 2) / rows
  else if letter == 0x6C then
    (List.range columns).map fun column => (input.document.getD column []).length
  else if letter == 0x79 then
    phrases.flatMap fun (_, hits) => (List.range columns).map (inColumn hits)
  else if letter == 0x62 then
    let words := (columns + 31) / 32
    let bits := phrases.zipIdx.foldl (fun (bits : List Nat) ((_, hits), phrase) =>
      (List.range columns).foldl (fun bits column =>
        if inColumn hits column == 0 then bits
        else bits.modify (phrase * words + (column + 1) / 32)
          (· ||| (1 <<< (column % 32)))) bits) (List.replicate (words * phrases.length) 0)
    bits
  else if letter == 0x78 then
    let chained := input.query.chained
    let tableHits : List (List (List (Nat × Nat))) := input.documents.map fun document =>
      let holds := input.query.holds document
      ((input.query.hits document).zip (chained.zip counted)).filterMap
        fun (hits, chained, counted) =>
          if !counted then none else if chained && !holds then some [] else some hits
    phrases.zipIdx.flatMap fun ((_, hits), phrase) =>
      (List.range columns).flatMap fun column =>
        let each := tableHits.map fun found => inColumn (found.getD phrase []) column
        [inColumn hits column, each.foldr (· + ·) 0, (each.filter (0 < ·)).length]
  else if letter == 0x73 then
    (List.range columns).map fun column =>
      longestRun (phrases.map fun placed => (placed.1, lastPlaces column placed))
  else []

/-- Whether a letter may stand in the format of `matchinfo` for a table. -/
def MatchinfoInput.allows (input : MatchinfoInput) (letter : UInt8) : Bool :=
  letter == 0x70 || letter == 0x63 || (letter == 0x6E && input.fourth) ||
    (letter == 0x61 && input.fourth) || (letter == 0x6C && input.sized) || letter == 0x73 ||
    letter == 0x78 || letter == 0x79 || letter == 0x62

/-- The bytes `matchinfo` gives for a format, or the letter it does not know. -/
def MatchinfoInput.report (input : MatchinfoInput) (format : List UInt8) :
    Except UInt8 (List UInt8) :=
  match format.find? (!input.allows ·) with
  | some letter => .error letter
  | none => .ok (format.flatMap fun letter => (input.values letter).flatMap littleEndian32)

/-- A fragment of a snippet: its column, its first place, the places (from the first) to mark, and
the phrases it covers, as bits. -/
structure Fragment where
  column : Nat
  start : Int
  marks : Nat
  covered : Nat
  deriving Repr, Inhabited

/-- The bit of a phrase among the phrases a snippet covers. -/
def phraseBit (phrase : Nat) : Nat := 1 <<< (phrase % 64)

/-- The places left of a phrase from the first at least `least`. -/
def placesFrom (least : Int) (places : List Int) : List Int :=
  places.dropWhile (· < least)

/-- The score of the window of `width` places from `start`, with the phrases it covers and the
places it marks: each instance scores 1000 when its phrase is not yet covered, else 1. -/
def windowDetails (phrases : List (Nat × List Int)) (tails : List (List Int)) (covered : Nat)
    (start : Int) (width : Nat) : Nat × Nat × Nat :=
  (phrases.zip tails).zipIdx.foldl (fun (acc : Nat × Nat × Nat) (((length, _), tail), phrase) =>
    let inside := tail.takeWhile fun place => start ≤ place && place < start + width
    inside.foldl (fun (acc : Nat × Nat × Nat) place =>
      let (score, cover, marks) := acc
      let bit := phraseBit phrase
      let score := if (cover ||| covered) &&& bit != 0 then score + 1 else score + 1000
      let offset := (place - start).toNat
      let marks := (List.range length).foldl (fun marks back =>
        if back ≤ offset then marks ||| (1 <<< (offset - back)) else marks) marks
      (score, cover ||| bit, marks)) acc) (0, 0, 0)

/-- The best window of `width` places in one column, from the places of each phrase's last term
there: the first window starts at 0, and each later one ends at the lowest place not yet passed.
With its score, and the phrases seen in the column as bits. -/
def bestWindow (phrases : List (Nat × List Int)) (column : Nat) (covered : Nat) (width : Nat) :
    Fragment × Nat × Nat :=
  let seen := phrases.zipIdx.foldl (fun seen ((_, places), phrase) =>
    if places.isEmpty then seen else seen ||| phraseBit phrase) 0
  let consider (best : Fragment × Int) (start : Int) (tails : List (List Int)) :
      Fragment × Int :=
    let (score, cover, marks) := windowDetails phrases tails covered start width
    if best.2 < score then (⟨column, start, marks, cover⟩, score) else best
  let heads := phrases.map fun (_, places) => placesFrom width places
  let tails := phrases.map (·.2)
  let first := consider (⟨column, 0, 0, 0⟩, -1) 0 tails
  let rec walk (fuel : Nat) (heads tails : List (List Int)) (best : Fragment × Int) :
      Fragment × Int :=
    match fuel with
    | 0 => best
    | fuel + 1 =>
      match (heads.filterMap List.head?).min? with
      | none => best
      | some last =>
        let start := last - width + 1
        let heads := heads.map (placesFrom (last + 1))
        let tails := tails.map (placesFrom start)
        walk fuel heads tails (consider best start tails)
  let (fragment, score) := walk (phrases.foldl (fun n p => n + p.2.length) 1) heads tails first
  (fragment, score.toNat, seen)

/-- The fragments of a snippet of `count` fragments of `width` tokens each, from the column given
(any when none), with the phrases they cover and those seen. -/
def chooseFragments (phrasesIn : Nat → List (Nat × List Int)) (columns : Nat)
    (column : Option Nat) (count width : Nat) : List Fragment × Nat × Nat :=
  (List.range count).foldl (fun (acc : List Fragment × Nat × Nat) _ =>
    let (fragments, covered, seen) := acc
    let (best, _, seen) := (List.range columns).foldl
      (fun (inner : Fragment × Int × Nat) index =>
        if column.any (· != index) then inner
        else
          let (fragment, score, seenHere) := bestWindow (phrasesIn index) index covered width
          let seen := inner.2.2 ||| seenHere
          if inner.2.1 < score then (fragment, score, seen) else (inner.1, inner.2.1, seen))
      (⟨0, 0, 0, 0⟩, -1, seen)
    (fragments ++ [best], covered ||| best.covered, seen)) ([], 0, 0)

/-- How far a window of `width` tokens moves on so that its marked places stand in its middle:
half the unmarked places before the first mark beyond those after the last, as far as there are
tokens after it; `following` counts the tokens from the window's first on. -/
def windowShift (width : Nat) (marks : Nat) (following : Nat) : Nat :=
  if marks == 0 then 0
  else
    let left := ((List.range 64).find? fun bit => marks &&& (1 <<< bit) != 0).getD 0
    let right := ((List.range width).find? fun back =>
      marks &&& (1 <<< (width - 1 - back)) != 0).getD 0
    if right < left then
      let desired := (left - right) / 2
      let available := if following == 0 then 0 else following - width
      min desired available
    else 0

/-- The bytes of a C string: up to its first NUL. -/
def cString (bytes : List UInt8) : List UInt8 := bytes.takeWhile (· != 0)

/-- The text of one fragment of a snippet: the tokens of its window, the marked ones between the
opening and closing texts, with an ellipsis before it unless it is the first fragment and starts
its column, and after it when it is the last and tokens follow. -/
def fragmentText (tokens : List Token) (text : List UInt8) (fragment : Fragment) (first last : Bool)
    (width : Nat) (opening closing ellipsis : List UInt8) : List UInt8 :=
  let slice (low high : Nat) : List UInt8 := (text.drop low).take (high - low)
  let rest (low : Nat) : List UInt8 := cString (text.drop low)
  let rec walk (tokens : List (Token × Nat)) (written : List UInt8) (copied : Nat)
      (shifted : Bool) (start : Int) (marks : Nat) : List UInt8 :=
    match tokens with
    | [] => written ++ rest copied
    | (token, place) :: more =>
      let place' : Int := place
      if place' < start then walk more written copied shifted start marks
      else
        let (written, start, marks, skip) :=
          if shifted then (written, start, marks, false)
          else
            let following := more.length + 1
            let moved := windowShift width marks following
            let start := start + moved
            let marks := marks >>> moved
            let written := if 0 < start || !first then written ++ ellipsis
              else if token.start != 0 then written ++ slice 0 token.start
              else written
            (written, start, marks, place' < start)
        if skip then walk more written copied true start marks
        else if start + width ≤ place' then
          if last then written ++ ellipsis else written
        else
          let marked := marks &&& (1 <<< (place' - start).toNat) != 0
          let written := if start < place' then written ++ slice copied token.start else written
          let written := if marked then written ++ opening else written
          let written := written ++ slice token.start token.stop
          let written := if marked then written ++ closing else written
          walk more written token.stop true start marks
  walk tokens.zipIdx [] 0 false fragment.start fragment.marks

/-- A snippet of a row: `texts` holds each column's text (none for NULL); `phrasesIn` gives, for a
column, each counted phrase's length and the places of its last term. None when no fragment's
column has text. -/
def classicSnippet (tokenizer : Tokenizer) (texts : List (Option (List UInt8)))
    (phrasesIn : Nat → List (Nat × List Int)) (column : Option Nat) (tokensWanted : Int)
    (opening closing ellipsis : List UInt8) : Option (List UInt8) :=
  let wanted := max (-64) (min 64 tokensWanted)
  let widthFor (count : Nat) : Nat :=
    if 0 ≤ wanted then ((wanted + count - 1) / count).toNat else wanted.natAbs
  let columns := texts.length
  let rec tryCount (fuel count : Nat) : List Fragment × Nat :=
    let width := widthFor count
    let (fragments, covered, seen) := chooseFragments phrasesIn columns column count width
    match fuel with
    | 0 => (fragments, width)
    | fuel + 1 => if seen == covered || count == 4 then (fragments, width)
      else tryCount fuel (count + 1)
  let (fragments, width) := tryCount 4 1
  let pieces := fragments.zipIdx.filterMap fun (fragment, index) =>
    (texts.getD fragment.column none).map fun text =>
      fragmentText (tokenizer.tokens text) text fragment (index == 0)
        (index + 1 == fragments.length) width (cString opening) (cString closing)
        (cString ellipsis)
  if pieces.isEmpty then none else some (cString pieces.flatten)

theorem littleEndian32_length (value : Nat) : (littleEndian32 value).length = 4 := rfl

end SheetExport.Store.FullText
