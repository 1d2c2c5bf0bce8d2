import SheetExport.Store.FullText.Match

/-!
# Marking and cutting the text of a row

The text of a column is marked by walking its tokens in order. The instances of the query in the
column are joined into runs where they overlap; the token that opens a run gets the opening text
before it, and the token that closes it gets the closing text after it. Bytes are copied from the
text up to each mark. A count of bytes to copy that falls below zero, as it can between
overlapping tokens, copies the rest of the text.

A snippet is a window of a given number of tokens from one column. Each instance proposes the
window around it, scored 1000 for each phrase it shows and 1 for each further instance of a
phrase; the beginning of the sentence the instance stands in (the first token, or a token after
`.` or `:` and a blank) is proposed too, with 120 more for the first token and 100 for another.
The best window is marked as a whole column is, with an ellipsis before it unless it starts the
column and after it unless it reaches the column's last token.
-/

namespace SheetExport.Store.FullText

/-- The runs of a column's instances, each from the place of its first token to that of its
last, instances that overlap joined into one; from places and lengths in order. -/
def runsOf (instances : List (Nat × Nat)) : List (Int × Int) :=
  (instances.foldl (fun (acc : List (Int × Int)) (start, length) =>
    let start : Int := start
    let finish : Int := start + length - 1
    match acc with
    | (first, last) :: rest =>
      if start ≤ last then (first, max last finish) :: rest else (start, finish) :: acc
    | [] => [(start, finish)]) []).reverse

/-- At most `count` bytes of a text from a byte offset, stopping at a NUL byte; all of them when
`count` is below zero. -/
def span (text : List UInt8) (offset : Nat) (count : Int) : List UInt8 :=
  let rest := text.drop offset
  (if count < 0 then rest else rest.take count.toNat).takeWhile (· != 0)

/-- How a text is marked: the texts set around each run, and the range of places marked, from
`rangeStart` to `rangeEnd`; a `rangeEnd` of zero marks every place. -/
structure Marking where
  opening : List UInt8
  closing : List UInt8
  rangeStart : Int
  rangeEnd : Int

/-- The state of a marking after some tokens: the bytes written, the offset copied up to, and
the runs left. -/
structure MarkState where
  written : List UInt8
  copied : Nat
  runs : List (Int × Int)

/-- Marks one token of a text at its place. -/
def Marking.step (marking : Marking) (text : List UInt8) (state : MarkState) (token : Token)
    (place : Int) : MarkState :=
  let ranged := 0 < marking.rangeEnd
  if ranged && (place < marking.rangeStart || marking.rangeEnd < place) then state
  else
    let copied := if ranged && marking.rangeStart != 0 && place == marking.rangeStart then
        token.start
      else state.copied
    let (first, last) := state.runs.headD (-1, -1)
    let (written, copied) := if place == first then
        (state.written ++ span text copied (token.start - copied) ++ marking.opening, token.start)
      else (state.written, copied)
    let (written, copied, runs) := if place == last then
        let reopened := if marking.rangeEnd != 0 && first < marking.rangeStart then
            marking.opening
          else []
        (written ++ reopened ++ span text copied (token.stop - copied) ++ marking.closing,
          token.stop, state.runs.tail)
      else (written, copied, state.runs)
    if ranged && place == marking.rangeEnd then
      let (first, last) := runs.headD (-1, -1)
      let written := written ++ span text copied (token.stop - copied)
      ⟨if first ≤ place && place < last then written ++ marking.closing else written,
        token.stop, runs⟩
    else ⟨written, copied, runs⟩

/-- Marks the tokens of a text, from the runs given: the bytes written and the offset copied up
to. -/
def Marking.run (marking : Marking) (text : List UInt8) (tokens : List Token)
    (runs : List (Int × Int)) : List UInt8 × Nat :=
  let state := tokens.zipIdx.foldl (fun state (token, place) =>
    marking.step text state token place) (⟨[], 0, runs⟩ : MarkState)
  (state.written, state.copied)

/-- The text of a column with each run of its instances (given as places and lengths, in order)
set between an opening and a closing text. -/
def highlightText (tokens : List Token) (text : List UInt8) (instances : List (Nat × Nat))
    (opening closing : List UInt8) : List UInt8 :=
  let (written, copied) := (Marking.mk opening closing 0 0).run text tokens (runsOf instances)
  written ++ span text copied (text.length - copied)

/-- The places of a column's tokens that begin a sentence: the first, and each that follows a
blank after `.` or `:`. -/
def sentenceStarts (text : List UInt8) (tokens : List Token) : List Nat :=
  let isBlank (b : UInt8) : Bool := b == 32 || b == 9 || b == 10 || b == 13
  tokens.zipIdx.filterMap fun (token, place) =>
    if place == 0 then some 0
    else
      let before := (text.take token.start).reverse
      let blanks := before.takeWhile isBlank
      match before.drop blanks.length with
      | mark :: _ =>
        if !blanks.isEmpty && (mark == 46 || mark == 58) then some place else none
      | [] => none

/-- An instance as a snippet reads it: its phrase, column and place. -/
abbrev Found := Nat × Nat × Nat

/-- The score of the window of `width` places from `start` in a column, and the start of the
window centred on the instances in it, kept within the column's `size` tokens. -/
def windowScore (instances : List Found) (phraseSizes : List Nat) (column : Nat) (size : Int)
    (start width : Int) : Int × Int :=
  let stop := start + width
  let (score, _, first, last) := instances.foldl
    (fun (acc : Int × List Nat × Int × Int) (phrase, at_, place) =>
      let (score, seen, first, _) := acc
      let place : Int := place
      if at_ == column && start ≤ place && place < stop then
        (score + (if seen.contains phrase then 1 else 1000), phrase :: seen,
          if first < 0 then place else first, place + phraseSizes.getD phrase 0)
      else acc) (0, [], -1, 0)
  let centred := first - Int.tdiv (width - (last - first)) 2
  let centred := if size < centred + width then size - width else centred
  (score, max centred 0)

/-- The best window of a column so far: its score, column, first place and column size. -/
structure Window where
  score : Int
  column : Nat
  start : Int
  size : Int

/-- The windows the instances of one column propose, kept when better than the best so far. -/
def proposeWindows (instances : List Found) (phraseSizes : List Nat) (column : Nat)
    (size : Int) (starts : List Nat) (width : Int) (best : Window) : Window :=
  instances.foldl (fun best (_, at_, place) =>
    if at_ != column then best
    else
      let place : Int := place
      let (score, centred) := windowScore instances phraseSizes column size place width
      let best := if best.score < score then ⟨score, column, centred, size⟩ else best
      if !starts.isEmpty && width < size then
        let opening : Int := ((starts.zip (starts.drop 1)).takeWhile fun (_, next) =>
          next ≤ place).length |> (starts.getD · 0)
        if opening < place then
          let (score, _) := windowScore instances phraseSizes column size opening width
          let score := score + (if opening == 0 then 120 else 100)
          if best.score < score then ⟨score, column, opening, size⟩ else best
        else best
      else best) best

/-- A snippet of a row: `texts` holds the text of each column (none for NULL), `sizes` the
number of tokens the index counts in each. With a column of zero or more the snippet comes from
that column, otherwise from the column with the best window. None when the chosen column has no
text. -/
def snippetText (tokenizer : Tokenizer) (texts : List (Option (List UInt8))) (sizes : List Nat)
    (instances : List Found) (phraseSizes : List Nat) (column : Int)
    (opening closing ellipsis : List UInt8) (width : Int) : Option (List UInt8) :=
  let chosen := fun (index : Nat) => column < 0 || column == index
  let best := (List.range texts.length).foldl (fun best index =>
    if chosen index then
      let text := (texts.getD index none).getD []
      let starts := sentenceStarts text (tokenizer.tokens text)
      proposeWindows instances phraseSizes index (sizes.getD index 0) starts width best
    else best) ⟨0, (if column < 0 then 0 else column.toNat), 0, 0⟩
  match texts.getD best.column none with
  | none => none
  | some text =>
    let size := if best.size == 0 then (sizes.getD best.column 0 : Int) else best.size
    let own := instances.filterMap fun (phrase, at_, place) =>
      if at_ == best.column then some (place, phraseSizes.getD phrase 0) else none
    let runs := (runsOf own).dropWhile fun (first, _) => first < best.start
    let marking := Marking.mk opening closing best.start (best.start + width - 1)
    let (written, copied) := marking.run text (tokenizer.tokens text) runs
    let before := if 0 < best.start then ellipsis else []
    let after := if size - 1 ≤ marking.rangeEnd then span text copied (text.length - copied)
      else ellipsis
    some (before ++ written ++ after)

theorem span_nil (offset : Nat) (count : Int) : span [] offset count = [] := by
  unfold span
  split <;> simp

end SheetExport.Store.FullText
