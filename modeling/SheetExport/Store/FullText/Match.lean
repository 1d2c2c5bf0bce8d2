import SheetExport.Store.FullText.Query

/-!
# Matching documents

A row of a full-text table is read as a document: the tokens of each of its columns, none for a
column the table does not index. A phrase is found in a column where its terms stand in a row,
each equal to the token in its place (or, for a term that is a wildcard, beginning it), and
where the phrase must open its column, at its first token. A group of phrases holds where each
is found in one column with the others so close that, the last of them starting at `m`, each
starts no earlier than `m` less its own length and the distance. `AND`, `OR` and `NOT` combine
what their sides hold.

The instances of a row are the places where its phrases are found, for a group only the places
that take part in one that holds. They are listed by column, then place, then phrase.

The rank of a row is its BM25 score, negated, over the whole table: for each phrase, the
inverse document frequency `ln((N - n + 0.5) / (n + 0.5))` (at least `1e-6`) of the `n` rows
of the `N` that hold it, times `f · 2.2 / (f + 1.2 · (0.25 + 0.75 · D / avg))`, where `f` counts
the phrase's instances in the row (each weighted by its column's weight, 1 by default), `D` is
the number of tokens of the row and `avg` the average over the table.
-/

namespace SheetExport.Store.FullText

/-- A row as the full-text index reads it: the tokens of each column. -/
abbrev Document := List (List Token)

/-- The document of a row's column texts, reading none from the columns not indexed. -/
def Document.read (tokenizer : Tokenizer) (unindexed : List Nat) (texts : List (List UInt8)) :
    Document :=
  texts.zipIdx.map fun (text, column) =>
    if unindexed.contains column then [] else tokenizer.tokens text

/-- The number of tokens of a document. -/
def Document.size (document : Document) : Nat := (document.map List.length).foldr (· + ·) 0

/-- Whether a term matches a token. -/
def Term.matches (term : Term) (token : List UInt8) : Bool :=
  if term.wildcard then term.text.isPrefixOf token else term.text == token

/-- The places of a column's tokens where a phrase starts; a phrase with no terms starts
nowhere. -/
def phraseStarts (terms : List Term) (tokens : List Token) : List Nat :=
  if terms.isEmpty then []
  else
    (List.range tokens.length).filter fun start =>
      terms.zipIdx.all fun (term, offset) =>
        (!term.initial || start + offset == 0) &&
          match tokens[start + offset]? with
          | some token => term.matches token.term
          | none => false

/-- The places of a document where a phrase starts, as column and place, in the columns allowed
(all when none are listed). -/
def phraseHits (terms : List Term) (columns : Option (List Nat)) (document : Document) :
    List (Nat × Nat) :=
  document.zipIdx.flatMap fun (tokens, column) =>
    if columns.all (·.contains column) then (phraseStarts terms tokens).map (column, ·) else []

/-- Whether places of some phrases, one for each, form a group within a distance: one column,
and each starting no earlier than the last start less its length and the distance. -/
def formsGroup (lengths : List Nat) (distance : Nat) (places : List (Nat × Nat)) : Bool :=
  let last := (places.map (·.2)).foldl max 0
  (places.all fun place => places.head?.all (·.1 == place.1)) &&
    (places.zip lengths).all fun (place, length) => last ≤ place.2 + length + distance

/-- All ways to pick one item of each list. -/
def picks {α : Type} : List (List α) → List (List α)
  | [] => [[]]
  | first :: rest => first.flatMap fun item => (picks rest).map (item :: ·)

/-- The places of each phrase of a group that take part in a group that holds. -/
def groupHits (phrases : List (List Term)) (distance : Nat) (columns : Option (List Nat))
    (document : Document) : List (List (Nat × Nat)) :=
  let hits := phrases.map fun terms => phraseHits terms columns document
  match phrases with
  | [_] => hits
  | _ =>
    let lengths := phrases.map List.length
    let groups := (picks hits).filter (formsGroup lengths distance)
    hits.zipIdx.map fun (own, position) =>
      own.filter fun place => groups.any fun group => group[position]? == some place

/-- The places of a phrase of `length` terms that stand near a place of another phrase of
`otherLength` terms: in the same column, one of the two ending after the other's end, with at
most `distance` terms between the end of the first and the start of the second. -/
def nearPlaces (distance length otherLength : Nat) (others places : List (Nat × Nat)) :
    List (Nat × Nat) :=
  places.filter fun (column, start) =>
    let stop := start + length
    others.any fun (otherColumn, otherStart) =>
      let otherStop := otherStart + otherLength
      otherColumn == column &&
        ((otherStop < stop && stop ≤ otherStop + distance + length) ||
          (stop < otherStop && otherStop ≤ stop + distance + otherLength))

/-- Keeps, for each phrase after the first, the places near a place kept of the phrase before
it, within the distance between the two; phrases are given with their lengths. -/
def trimChain (phrases : List (Nat × List (Nat × Nat))) (distances : List Nat) :
    List (Nat × List (Nat × Nat)) :=
  match phrases with
  | [] => []
  | first :: rest =>
    let (last, done) := (rest.zip distances).foldl
      (fun (acc : (Nat × List (Nat × Nat)) × List (Nat × List (Nat × Nat)))
          ((length, places), distance) =>
        let (current, done) := acc
        ((length, nearPlaces distance length current.1 current.2 places), done ++ [current]))
      (first, [])
    done ++ [last]

/-- The places of the phrases of a chain that stand near their neighbours: trimmed from the first
phrase onward, then from the last back. -/
def chainHits (phrases : List (List Term × Option (List Nat))) (distances : List Nat)
    (document : Document) : List (List (Nat × Nat)) :=
  let hits := phrases.map fun (terms, columns) =>
    (terms.length, phraseHits terms columns document)
  let onward := trimChain hits distances
  (trimChain onward.reverse distances.reverse).reverse.map (·.2)

/-- Whether a document holds a query. -/
def Query.holds (document : Document) : Query → Bool
  | .never => false
  | .near phrases distance columns =>
    (groupHits phrases distance columns document).all (!·.isEmpty)
  | .chain phrases distances => (chainHits phrases distances document).all (!·.isEmpty)
  | .both left right => left.holds document && right.holds document
  | .either left right => left.holds document || right.holds document
  | .except left right => left.holds document && !right.holds document

/-- The places of each phrase of a query in a document, in the order of the phrases. -/
def Query.hits (document : Document) : Query → List (List (Nat × Nat))
  | .never => []
  | .near phrases distance columns =>
    let found := groupHits phrases distance columns document
    if found.all (!·.isEmpty) then found else found.map fun _ => []
  | .chain phrases distances =>
    let found := chainHits phrases distances document
    if found.all (!·.isEmpty) then found else found.map fun _ => []
  | .both left right | .either left right | .except left right =>
    left.hits document ++ right.hits document

/-- An instance: the phrase, by its position in the query, its column and its place. -/
structure Instance where
  phrase : Nat
  column : Nat
  place : Nat
  deriving DecidableEq, Repr

/-- The instances of a query in a document, by column, then place, then phrase. -/
def Query.instances (query : Query) (document : Document) : List Instance :=
  let all := (query.hits document).zipIdx.flatMap fun (places, phrase) =>
    places.map fun (column, place) => (⟨phrase, column, place⟩ : Instance)
  all.mergeSort fun a b =>
    a.column < b.column || (a.column == b.column &&
      (a.place < b.place || (a.place == b.place && a.phrase ≤ b.phrase)))

/-- The BM25 rank of a document among the documents of its table, with weights for the columns
(1 for a column given none). -/
def Query.rank (query : Query) (weights : List Float) (document : Document)
    (table : List Document) : Float :=
  let k1 : Float := 1.2
  let b : Float := 0.75
  let rows := table.length
  let total := (table.map Document.size).foldr (· + ·) 0
  let average := total.toFloat / rows.toFloat
  let phrases := query.phrases
  let frequencies := (query.instances document).foldl (fun (acc : List Float) found =>
    let weight := weights.getD found.column 1.0
    acc.modify found.phrase (· + weight)) (phrases.map fun _ => 0.0)
  let size := document.size.toFloat
  let score := (phrases.zip frequencies).foldl (fun score ((terms, columns), frequency) =>
    let holding := (table.filter fun other => !(phraseHits terms columns other).isEmpty).length
    let idf := Float.log (((rows - holding).toFloat + 0.5) / (holding.toFloat + 0.5))
    let idf := if idf ≤ 0.0 then 1e-6 else idf
    score + idf * ((frequency * (k1 + 1.0)) /
      (frequency + k1 * (1.0 - b + b * size / average)))) 0.0
  Float.neg score

end SheetExport.Store.FullText
