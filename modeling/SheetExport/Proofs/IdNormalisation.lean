import Mathlib
import SheetExport.Client.SpreadsheetId

/-!
# Reading a spreadsheet id twice

An id is read from a text by trimming it once and then making three cuts: the path segment after
the first `/spreadsheets/d/`, then the text before the first `?`, then the text before the first
`#`. Every cut keeps a prefix or a segment, so the id holds no `?` and no `#`, and no `/` when
the text held a link (`parse_has_no_slash_of_link`).

Reading the id again finds no link, query or fragment in it, so all it does is trim
(`parse_parse`). The trim came before the cuts, though, and a cut can leave a blank at either end
of what it keeps: `"ab ?c"` reads as `"ab "`. Reading is therefore idempotent exactly on the texts
whose id has no blank at either end, and a third reading always agrees with the second.
-/

namespace SheetExport

namespace Text

/-- A list that holds a nonempty part whose first element is no blank keeps that part when its
leading blanks are dropped. -/
theorem infix_dropBlanks {part : List Char} {first : Char} {rest : List Char}
    (shape : part = first :: rest) (notBlank : isBlank first = false) :
    ∀ {chars : List Char}, part <:+: chars → part <:+: dropBlanks chars
  | [], inside => by simp [shape] at inside
  | c :: chars, inside => by
      unfold dropBlanks
      by_cases blank : isBlank c = true
      · rw [List.dropWhile_cons_of_pos blank]
        rcases List.infix_cons_iff.mp inside with atStart | later
        · rw [shape] at atStart
          obtain rfl : first = c := (List.cons_prefix_cons.mp atStart).1
          simp [notBlank] at blank
        · exact infix_dropBlanks shape notBlank later
      · rw [List.dropWhile_cons_of_neg blank]
        exact inside

theorem dropBlanks_contained (chars : List Char) : dropBlanks chars <:+: chars :=
  (List.dropWhile_suffix _).isInfix

theorem trimChars_contained (chars : List Char) : trimChars chars <:+: chars := by
  unfold trimChars
  have inner : (dropBlanks (dropBlanks chars).reverse).reverse <:+: (dropBlanks chars) := by
    simpa using (dropBlanks_contained (dropBlanks chars).reverse).reverse
  exact inner.trans (dropBlanks_contained chars)

/-- A part that starts and ends with no blank survives trimming. -/
theorem infix_trimChars {part chars : List Char} (inside : part <:+: chars)
    {first last : Char} {middle : List Char} (shape : part = first :: middle)
    (endsWith : part.getLast? = some last) (firstNotBlank : isBlank first = false)
    (lastNotBlank : isBlank last = false) : part <:+: trimChars chars := by
  have front : part <:+: dropBlanks chars := infix_dropBlanks shape firstNotBlank inside
  obtain ⟨reversedRest, reversedShape⟩ : ∃ rest, part.reverse = last :: rest := by
    obtain ⟨init, whole⟩ := List.getLast?_eq_some_iff.mp endsWith
    exact ⟨init.reverse, by simp [whole]⟩
  have frontReversed := List.reverse_infix.mpr front
  have back : part.reverse <:+: dropBlanks (dropBlanks chars).reverse :=
    infix_dropBlanks reversedShape lastNotBlank frontReversed
  unfold trimChars
  simpa using List.reverse_infix.mpr back

/-- The first character left once the leading blanks are dropped is no blank. -/
theorem head_dropBlanks {chars : List Char} {c : Char} (first : (dropBlanks chars).head? = some c) :
    isBlank c = false := by
  have notBlank := List.head?_dropWhile_not isBlank chars
  rw [show (chars.dropWhile isBlank).head? = some c from first] at notBlank
  exact notBlank

theorem dropBlanks_eq_self {chars : List Char} (start : ∀ c ∈ chars.head?, isBlank c = false) :
    dropBlanks chars = chars := by
  cases chars with
  | nil => rfl
  | cons c rest => exact List.dropWhile_cons_of_neg (by simp [start c rfl])

/-- Trimming a trimmed text changes nothing. -/
theorem trimChars_trimChars (chars : List Char) : trimChars (trimChars chars) = trimChars chars := by
  set front := dropBlanks chars
  set back := dropBlanks front.reverse
  have kept : back.reverse <+: front := by
    have suffix : back <:+ front.reverse := List.dropWhile_suffix isBlank
    simpa only [List.reverse_reverse] using List.reverse_prefix.mpr suffix
  have keptStart : ∀ c ∈ back.reverse.head?, isBlank c = false := by
    intro c first
    obtain ⟨rest, whole⟩ := kept
    exact @head_dropBlanks chars c (by simp [front, ← whole, Option.mem_def.mp first])
  have backStart : ∀ c ∈ back.head?, isBlank c = false := fun _ first => head_dropBlanks first
  unfold trimChars
  rw [dropBlanks_eq_self keptStart, List.reverse_reverse, dropBlanks_eq_self backStart]

theorem trim_trim (text : String) : trim (trim text) = trim text := by
  simp [trim, trimChars_trimChars]

end Text

namespace SpreadsheetId

/-- The text after the first occurrence of a pattern is what follows one of its occurrences. -/
theorem afterPattern_eq_some {pattern : List Char} :
    ∀ {chars rest : List Char}, afterPattern pattern chars = some rest →
      ∃ front, chars = front ++ pattern ++ rest
  | [], rest, found => by
      unfold afterPattern at found
      split_ifs at found with empty
      cases found
      exact ⟨[], by simpa using empty⟩
  | c :: chars, rest, found => by
      unfold afterPattern at found
      split_ifs at found with starts
      · cases found
        obtain ⟨tail, whole⟩ := List.isPrefixOf_iff_prefix.mp starts
        refine ⟨[], ?_⟩
        rw [← whole, List.drop_left]
        rfl
      · obtain ⟨front, rfl⟩ := afterPattern_eq_some found
        exact ⟨c :: front, rfl⟩

/-- A pattern that occurs is found. -/
theorem afterPattern_isSome {pattern : List Char} :
    ∀ {chars : List Char}, pattern <:+: chars → (afterPattern pattern chars).isSome
  | [], inside => by
      have empty : pattern = [] := List.eq_nil_of_infix_nil inside
      simp [afterPattern, empty]
  | c :: chars, inside => by
      unfold afterPattern
      split_ifs with starts
      · rfl
      · rcases List.infix_cons_iff.mp inside with atStart | later
        · have startsHere := List.isPrefixOf_iff_prefix.mpr atStart
          exact absurd startsHere starts
        · exact afterPattern_isSome later

theorem afterPattern_eq_none_iff {pattern chars : List Char} :
    afterPattern pattern chars = none ↔ ¬pattern <:+: chars := by
  constructor
  · intro missing inside
    simpa [missing] using afterPattern_isSome inside
  · intro absent
    cases found : afterPattern pattern chars with
    | none => rfl
    | some rest =>
        obtain ⟨front, rfl⟩ := afterPattern_eq_some found
        exact absurd ⟨front, rest, rfl⟩ absent

/-- What the three cuts keep of the trimmed text. -/
def cut (chars : List Char) : List Char :=
  let chars := match afterPattern linkMarker chars with
    | some rest => rest.takeWhile (· != '/')
    | none => chars
  (chars.takeWhile (· != '?')).takeWhile (· != '#')

theorem parse_eq (value : String) : parse value = String.ofList (cut (Text.trimChars value.toList)) :=
  rfl

theorem parse_toList (value : String) : (parse value).toList = cut (Text.trimChars value.toList) := by
  simp [parse_eq]

theorem not_mem_of_mem_takeWhile {c : Char} {chars : List Char} (mark : Char)
    (member : c ∈ chars.takeWhile (· != mark)) : c ≠ mark := by
  simpa using List.mem_takeWhile_imp member

theorem cut_has_no_query {chars : List Char} : '?' ∉ cut chars := fun member =>
  not_mem_of_mem_takeWhile '?' (List.takeWhile_sublist _ |>.subset member) rfl

theorem cut_has_no_fragment {chars : List Char} : '#' ∉ cut chars := fun member =>
  not_mem_of_mem_takeWhile '#' member rfl

/-- After a link's marker, the cuts keep no `/`. -/
theorem cut_has_no_slash {chars rest : List Char} (found : afterPattern linkMarker chars = some rest) :
    '/' ∉ cut chars := fun member => by
  simp only [cut, found] at member
  have kept := List.takeWhile_sublist _ |>.trans (List.takeWhile_sublist _) |>.subset member
  exact not_mem_of_mem_takeWhile '/' kept rfl

/-- The cuts keep a part of what they are given that holds no link. -/
theorem cut_holds_no_link (chars : List Char) : ¬linkMarker <:+: cut chars := fun inside => by
  have slash : '/' ∈ cut chars := inside.subset (by decide)
  cases found : afterPattern linkMarker chars with
  | some rest => exact cut_has_no_slash found slash
  | none =>
      have kept : cut chars <+: chars := by
        simp only [cut, found]
        have queryCut : chars.takeWhile (· != '?') <+: chars := List.takeWhile_prefix _
        have fragmentCut : (chars.takeWhile (· != '?')).takeWhile (· != '#') <+:
            chars.takeWhile (· != '?') := List.takeWhile_prefix _
        exact fragmentCut.trans queryCut
      exact afterPattern_eq_none_iff.mp found (inside.trans kept.isInfix)

/-- Cutting a text that holds no link, query or fragment keeps all of it. -/
theorem cut_of_plain {chars : List Char} (noLink : ¬linkMarker <:+: chars) (noQuery : '?' ∉ chars)
    (noFragment : '#' ∉ chars) : cut chars = chars := by
  have keeps : ∀ mark ∉ chars, chars.takeWhile (· != mark) = chars := fun mark absent =>
    List.takeWhile_eq_self_iff.mpr fun c member => by
      simpa using fun same : c = mark => absent (same ▸ member)
  simp only [cut, afterPattern_eq_none_iff.mpr noLink, keeps '?' noQuery, keeps '#' noFragment]

theorem parse_has_no_query (value : String) : '?' ∉ (parse value).toList := by
  rw [parse_toList]
  exact cut_has_no_query

theorem parse_has_no_fragment (value : String) : '#' ∉ (parse value).toList := by
  rw [parse_toList]
  exact cut_has_no_fragment

/-- A text that holds a link reads as an id without `/`: the marker starts and ends with a `/`,
so trimming keeps it. -/
theorem parse_has_no_slash_of_link {value : String} (link : linkMarker <:+: value.toList) :
    '/' ∉ (parse value).toList := by
  have kept : linkMarker <:+: Text.trimChars value.toList :=
    Text.infix_trimChars link (show linkMarker = '/' :: linkMarker.tail from rfl) rfl rfl rfl
  obtain ⟨rest, found⟩ := Option.isSome_iff_exists.mp (afterPattern_isSome kept)
  rw [parse_toList]
  exact cut_has_no_slash found

/-- Reading an id again only trims it. -/
theorem parse_parse (value : String) : parse (parse value) = Text.trim (parse value) := by
  have trimmed : Text.trimChars (parse value).toList <:+: cut (Text.trimChars value.toList) := by
    rw [← parse_toList]
    exact Text.trimChars_contained _
  have plain : cut (Text.trimChars (parse value).toList) = Text.trimChars (parse value).toList :=
    cut_of_plain (fun inside => cut_holds_no_link _ (inside.trans trimmed))
      (fun member => cut_has_no_query (trimmed.subset member))
      (fun member => cut_has_no_fragment (trimmed.subset member))
  rw [parse_eq (parse value), plain]
  rfl

/-- What reading an id gives: no query or fragment mark, no `/` when the text held a link, and a
text that a second reading only trims. Reading is idempotent exactly where the id has no blank at
either end, and from the second reading on it always is. -/
theorem parse_twice_trims (value : String) :
    '?' ∉ (parse value).toList ∧ '#' ∉ (parse value).toList ∧
      (linkMarker <:+: value.toList → '/' ∉ (parse value).toList) ∧
      parse (parse value) = Text.trim (parse value) ∧
      (parse (parse value) = parse value ↔ Text.trim (parse value) = parse value) ∧
      parse (parse (parse value)) = parse (parse value) := by
  refine ⟨parse_has_no_query value, parse_has_no_fragment value,
    parse_has_no_slash_of_link, parse_parse value, by rw [parse_parse], ?_⟩
  calc parse (parse (parse value))
      = Text.trim (Text.trim (parse value)) := by rw [parse_parse, parse_parse]
    _ = parse (parse value) := by rw [Text.trim_trim, parse_parse]

/-- A blank before a query is kept by the first reading and trimmed by the second. -/
theorem parse_keeps_blank_before_query :
    parse "ab ?c" = "ab " ∧ parse (parse "ab ?c") ≠ parse "ab ?c" := by
  decide +kernel

end SpreadsheetId

end SheetExport
