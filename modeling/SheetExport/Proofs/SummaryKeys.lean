import Mathlib
import SheetExport.Proofs.IsoWeekWindows
import SheetExport.Source.Rows

/-!
# The keys of the weekly summaries

The key of a weekly summary row is its dimensions followed by a blank and the label of the week:
`<charity>:<event type> <window>` for the charity summary, `<event type> <window>` for the widget
summary. The period row that heads each summary is the label between two rules.

Within a week, the label is a common suffix, so the keys are pairwise distinct exactly when the
dimensions are. For the widget summary these are the event types. For the charity summary they
are the texts `<charity>:<event type>`, and a colon inside a charity or an event type makes two
groups share one text: the charity `a` with the event type `b:c`, and the charity `a:b` with the
event type `c`, both write `a:b:c`. With no colon in the charities, distinct pairs of charity and
event type give distinct keys.

Across weeks nothing collides. A label's last part, after its last blank, is the label of the
week's Sunday, `Month-day-year`, which has no blank and no rule in it and names the Sunday
uniquely; a key ends in it and a period row ends in a rule. So every text of one week's key
column differs from every text of another week's.
-/

namespace SheetExport

/-- Two lists that each hold a separator with none before it split at it alike. -/
theorem append_cons_inj_of_not_mem_left {α : Type} {sep : α} :
    ∀ {before before' after after' : List α}, sep ∉ before → sep ∉ before' →
      before ++ sep :: after = before' ++ sep :: after' → before = before' ∧ after = after'
  | [], [], _, _, _, _, same => ⟨rfl, by simpa using same⟩
  | [], first :: rest, _, _, _, fresh', same => by
      simp only [List.nil_append, List.cons_append, List.cons.injEq] at same
      exact absurd (same.1 ▸ List.mem_cons_self) fresh'
  | first :: rest, [], _, _, fresh, _, same => by
      simp only [List.nil_append, List.cons_append, List.cons.injEq] at same
      exact absurd (same.1.symm ▸ List.mem_cons_self) fresh
  | first :: rest, first' :: rest', _, _, fresh, fresh', same => by
      simp only [List.cons_append, List.cons.injEq] at same
      obtain ⟨rfl, later⟩ := same
      obtain ⟨rfl, rfl⟩ := append_cons_inj_of_not_mem_left
        (fun member => fresh (List.mem_cons_of_mem _ member))
        (fun member => fresh' (List.mem_cons_of_mem _ member)) later
      exact ⟨rfl, rfl⟩

/-- Two lists that each hold a separator with none after it split at it alike. -/
theorem append_cons_inj_of_not_mem_right {α : Type} {sep : α}
    {before before' after after' : List α} (fresh : sep ∉ after) (fresh' : sep ∉ after')
    (same : before ++ sep :: after = before' ++ sep :: after') :
    before = before' ∧ after = after' := by
  have reversed := congrArg List.reverse same
  simp only [List.reverse_append, List.reverse_cons, List.append_assoc, List.singleton_append]
    at reversed
  obtain ⟨afterSame, beforeSame⟩ :=
    append_cons_inj_of_not_mem_left (by simpa using fresh) (by simpa using fresh') reversed
  exact ⟨List.reverse_injective beforeSame, List.reverse_injective afterSame⟩

namespace Calendar

/-- Whether a character can stand in the label of a date: a letter of a month's name, a digit, or
the dash between the parts. -/
def isLabelChar (c : Char) : Bool := c.isAlphanum || c == '-'

theorem isLabelChar_of_mem_monthName (month : Nat) :
    ∀ c ∈ (Date.monthName month).toList, isLabelChar c := by
  unfold Date.monthName
  split <;> simp [isLabelChar]

theorem dash_not_mem_monthName (month : Nat) : '-' ∉ (Date.monthName month).toList := by
  unfold Date.monthName
  split <;> simp

theorem isDigit_of_mem_repr {n : Nat} {c : Char} (member : c ∈ (Nat.repr n).toList) :
    c.isDigit := by
  rw [Nat.toList_repr] at member
  exact Nat.isDigit_of_mem_toDigits (by decide) (by decide) member

theorem isLabelChar_of_isDigit {c : Char} (digit : c.isDigit) : isLabelChar c := by
  simp [isLabelChar, Char.isAlphanum, digit]

theorem dash_not_mem_repr (n : Nat) : '-' ∉ (Nat.repr n).toList := fun member =>
  absurd (isDigit_of_mem_repr member) (by decide)

theorem yearText_of_nonneg {year : Int} (nonneg : 0 ≤ year) :
    DateTime.yearText year = Nat.repr year.toNat := by
  obtain ⟨n, rfl⟩ := Int.eq_ofNat_of_zero_le nonneg
  rfl

theorem isLabelChar_of_mem_yearText (year : Int) :
    ∀ c ∈ (DateTime.yearText year).toList, isLabelChar c := by
  intro c member
  cases year with
  | ofNat n => exact isLabelChar_of_isDigit (isDigit_of_mem_repr member)
  | negSucc n =>
      change c ∈ ("-" ++ Nat.repr (n + 1)).toList at member
      rw [String.toList_append] at member
      rcases List.mem_append.1 member with sign | digit
      · simp at sign
        simp [sign, isLabelChar]
      · exact isLabelChar_of_isDigit (isDigit_of_mem_repr digit)

namespace DateTime

/-- The characters of a label: the month's name, a dash, the day, a dash and the year. -/
theorem label_toList (value : DateTime) :
    value.label.toList = (Date.monthName value.date.month).toList ++
      '-' :: ((Nat.repr value.date.day).toList ++ '-' :: (yearText value.date.year).toList) := by
  simp [label, String.toList_append]

theorem isLabelChar_of_mem_label (value : DateTime) : ∀ c ∈ value.label.toList, isLabelChar c := by
  intro c member
  rw [label_toList] at member
  simp only [List.mem_append, List.mem_cons] at member
  rcases member with month | dash | day | dash | year
  · exact isLabelChar_of_mem_monthName _ c month
  · simp [dash, isLabelChar]
  · exact isLabelChar_of_isDigit (isDigit_of_mem_repr day)
  · simp [dash, isLabelChar]
  · exact isLabelChar_of_mem_yearText _ c year

theorem space_not_mem_label (value : DateTime) : ' ' ∉ value.label.toList := fun member =>
  absurd (isLabelChar_of_mem_label value ' ' member) (by decide)

theorem rule_not_mem_label (value : DateTime) : '⎯' ∉ value.label.toList := fun member =>
  absurd (isLabelChar_of_mem_label value '⎯' member) (by decide)

/-- Two texts that end in a blank and a date's label are one text only if the labels are one: a
label has no blank, so the last blank of each text stands before it. -/
theorem label_eq_of_toList_eq {before before' : List Char} {value other : DateTime}
    (same : before ++ ' ' :: value.label.toList = before' ++ ' ' :: other.label.toList) :
    value.label = other.label :=
  String.ext_iff.2
    (append_cons_inj_of_not_mem_right (space_not_mem_label _) (space_not_mem_label _) same).2

/-- The label of a valid date of a year from zero on names the date: the month's name, the day
and the year are read back between the dashes. -/
theorem date_eq_of_label_eq {value other : DateTime} (valid : value.date.Valid)
    (valid' : other.date.Valid) (nonneg : 0 ≤ value.date.year) (nonneg' : 0 ≤ other.date.year)
    (same : value.label = other.label) : value.date = other.date := by
  have chars := congrArg String.toList same
  rw [label_toList, label_toList, yearText_of_nonneg nonneg, yearText_of_nonneg nonneg'] at chars
  obtain ⟨sameMonth, rest⟩ := append_cons_inj_of_not_mem_left (dash_not_mem_monthName _)
    (dash_not_mem_monthName _) chars
  obtain ⟨sameDay, sameYear⟩ := append_cons_inj_of_not_mem_left (dash_not_mem_repr _)
    (dash_not_mem_repr _) rest
  have names : ∀ month ∈ List.range' 1 12, ∀ month' ∈ List.range' 1 12,
      Date.monthName month = Date.monthName month' → month = month' := by
    decide
  have monthEq : value.date.month = other.date.month := names _
    (List.mem_range'_1.2 ⟨valid.month_pos, by have := valid.month_le; omega⟩) _
    (List.mem_range'_1.2 ⟨valid'.month_pos, by have := valid'.month_le; omega⟩)
    (String.ext_iff.2 sameMonth)
  have dayEq : value.date.day = other.date.day := Nat.repr_injective (String.ext_iff.2 sameDay)
  have yearEq : value.date.year = other.date.year := by
    have := Nat.repr_injective (String.ext_iff.2 sameYear)
    omega
  calc value.date = ⟨value.date.year, value.date.month, value.date.day⟩ := rfl
    _ = ⟨other.date.year, other.date.month, other.date.day⟩ := by rw [yearEq, monthEq, dayEq]
    _ = other.date := rfl

end DateTime

namespace Date

theorem year_ofOrdinal_pos {ordinal : Int} (positive : 0 < ordinal) :
    0 < (ofOrdinal ordinal).year := by
  have notBefore := (year_ofOrdinal_le_iff ordinal 0).not.2 (by simp; omega)
  omega

end Date

namespace Window

theorem space_not_mem_rule : ' ' ∉ rule.toList := by
  simp [rule]

theorem rule_toList_ne_label (value : DateTime) : rule.toList ≠ value.label.toList := fun same =>
  DateTime.rule_not_mem_label value (same ▸ by simp [rule])

/-- The characters of a window's label: the first date's label and `to`, then a blank and the
label of the last date. -/
theorem label_toList (start finish : DateTime) :
    (label start finish).toList = (start.label ++ " to").toList ++ ' ' :: finish.label.toList := by
  simp [label, String.toList_append]

theorem key_toList (dims : String) (start finish : DateTime) :
    (dims ++ " " ++ label start finish).toList =
      (dims ++ " " ++ start.label ++ " to").toList ++ ' ' :: finish.label.toList := by
  rw [String.toList_append, label_toList]
  simp [String.toList_append]

theorem periodLabel_toList (start finish : DateTime) :
    (periodLabel start finish).toList =
      (rule ++ " " ++ label start finish).toList ++ ' ' :: rule.toList := by
  simp [periodLabel, String.toList_append]

theorem finish_label_eq_of_key_eq {dims dims' : String} {start finish start' finish' : DateTime}
    (same : dims ++ " " ++ label start finish = dims' ++ " " ++ label start' finish') :
    finish.label = finish'.label := by
  have chars := congrArg String.toList same
  rw [key_toList, key_toList] at chars
  exact DateTime.label_eq_of_toList_eq chars

/-- No key is a period row: the one ends in a date's label, the other in the rule. -/
theorem key_ne_periodLabel (dims : String) (start finish start' finish' : DateTime) :
    dims ++ " " ++ label start finish ≠ periodLabel start' finish' := by
  intro same
  have chars := congrArg String.toList same
  rw [key_toList, periodLabel_toList] at chars
  exact rule_toList_ne_label finish (append_cons_inj_of_not_mem_right
    (DateTime.space_not_mem_label _) space_not_mem_rule chars).2.symm

theorem finish_label_eq_of_periodLabel_eq {start finish start' finish' : DateTime}
    (same : periodLabel start finish = periodLabel start' finish') :
    finish.label = finish'.label := by
  have chars := congrArg String.toList same
  rw [periodLabel_toList, periodLabel_toList] at chars
  have labels := (String.append_right_inj _).1 (String.ext_iff.2
    (append_cons_inj_of_not_mem_right space_not_mem_rule space_not_mem_rule chars).1)
  have labelChars := congrArg String.toList labels
  rw [label_toList, label_toList] at labelChars
  exact DateTime.label_eq_of_toList_eq labelChars

/-- Whether a text stands in the key column of a window's summary: the period row, or a key of
some dimensions. -/
def InKeyColumn (start finish : DateTime) (text : String) : Prop :=
  text = periodLabel start finish ∨ ∃ dims, text = dims ++ " " ++ label start finish

/-- A text in the key columns of two windows names one last date for both. -/
theorem finish_label_eq_of_inKeyColumn {start finish start' finish' : DateTime} {text : String}
    (first : InKeyColumn start finish text) (second : InKeyColumn start' finish' text) :
    finish.label = finish'.label := by
  rcases first with period | ⟨dims, key⟩ <;> rcases second with period' | ⟨dims', key'⟩
  · exact finish_label_eq_of_periodLabel_eq (period.symm.trans period')
  · exact absurd (key'.symm.trans period) (key_ne_periodLabel _ _ _ _ _)
  · exact absurd (key.symm.trans period') (key_ne_periodLabel _ _ _ _ _)
  · exact finish_label_eq_of_key_eq (key.symm.trans key')

/-- The weeks from day 1 on are told apart by the label of their Sunday. -/
theorem weeks_eq_of_finish_label_eq {weeks weeks' : Int} (nonneg : 0 ≤ weeks)
    (nonneg' : 0 ≤ weeks')
    (same : (ofMonday (7 * weeks + 1)).finish.label = (ofMonday (7 * weeks' + 1)).finish.label) :
    weeks = weeks' := by
  have sunday := DateTime.date_eq_of_label_eq (finish_ofMonday_valid _).date_valid
    (finish_ofMonday_valid _).date_valid (Date.year_ofOrdinal_pos (by omega)).le
    (Date.year_ofOrdinal_pos (by omega)).le same
  have ordinals := congrArg Date.toOrdinal sunday
  simp only [ofMonday, atUtc, Date.toOrdinal_ofOrdinal] at ordinals
  omega

/-- Two valid bases whose windows end on days of one label share an ISO year and week. -/
theorem isoWeekOf_eq_of_finish_label_eq {base base' : DateTime} {window window' : Window}
    (checked : base.check = .ok base) (checked' : base'.check = .ok base')
    (windowed : ofInstant base = .ok window) (windowed' : ofInstant base' = .ok window')
    (same : window.finish.label = window'.finish.label) :
    isoWeekOf base.utcMicros = isoWeekOf base'.utcMicros := by
  obtain ⟨nonneg, rfl⟩ := ofInstant_eq_ok_ofMonday checked windowed
  obtain ⟨nonneg', rfl⟩ := ofInstant_eq_ok_ofMonday checked' windowed'
  rw [isoWeekOf_eq_iff]
  exact weeks_eq_of_finish_label_eq nonneg nonneg' same

end Window

end Calendar

namespace Source

open Store Calendar

/-- The first cell of each row: the key that planning matches the row by. -/
def firstCells (rows : List (List String)) : List String := rows.map (·.headD "")

@[simp] theorem firstCells_cons (row : List String) (rows : List (List String)) :
    firstCells (row :: rows) = row.headD "" :: firstCells rows := rfl

/-- Whether a row builder keys each row by dimensions read from the row's own cells, a blank and
the window's label. -/
def KeyedBy (row : String → List Value → List String) (dims : List String → String) : Prop :=
  ∀ window values, (row window values).headD "" = dims (row window values) ++ " " ++ window

/-- The dimensions of a charity row, `<charity>:<event type>`. -/
def charityDims (row : List String) : String := row.getD 1 "" ++ ":" ++ row.getD 2 ""

/-- The dimensions of a widget row, its event type. -/
def widgetDims (row : List String) : String := row.getD 1 ""

theorem charityRow_keyedBy : KeyedBy charityRow charityDims := fun _ _ => rfl

theorem widgetRow_keyedBy : KeyedBy widgetRow widgetDims := fun _ _ => rfl

/-- A weekly summary is its period row and one built row per group that its query returns. -/
theorem weeklySummary_eq_ok {query : String} {row : String → List Value → List String}
    {db : Database} {start finish : DateTime} {rows : List (List String)}
    (summary : weeklySummary query row db start finish = .ok rows) :
    ∃ groups : List (List Value),
      rows = [Window.periodLabel start finish] :: groups.map (row (Window.label start finish)) := by
  unfold weeklySummary at summary
  obtain ⟨parameters, -, read⟩ := bind_eq_ok.mp summary
  obtain ⟨groups, -, built⟩ := bind_eq_ok.mp read
  exact ⟨groups, (Except.ok.inj built).symm⟩

/-- Under the period row, every row of a weekly summary is keyed by its dimensions and the
window's label. -/
theorem weeklySummary_keys {query : String} {row : String → List Value → List String}
    {dims : List String → String} {db : Database} {start finish : DateTime}
    {rows : List (List String)} (keyed : KeyedBy row dims)
    (summary : weeklySummary query row db start finish = .ok rows) :
    ∃ body, rows = [Window.periodLabel start finish] :: body ∧
      ∀ r ∈ body, r.headD "" = dims r ++ " " ++ Window.label start finish := by
  obtain ⟨groups, rfl⟩ := weeklySummary_eq_ok summary
  refine ⟨_, rfl, ?_⟩
  intro r member
  obtain ⟨values, -, rfl⟩ := List.mem_map.1 member
  exact keyed _ values

section KeyColumn

variable {body : List (List String)} {dims : List String → String}

/-- Keys that end in one window's label are pairwise distinct exactly when their dimensions are. -/
theorem nodup_firstCells_iff {window : String}
    (keyed : ∀ r ∈ body, r.headD "" = dims r ++ " " ++ window) :
    (firstCells body).Nodup ↔ (body.map dims).Nodup := by
  have suffixed : firstCells body = (body.map dims).map (· ++ " " ++ window) := by
    rw [List.map_map]
    exact List.map_congr_left keyed
  rw [suffixed]
  exact List.nodup_map_iff fun text text' same => by simpa using same

theorem periodLabel_not_mem_firstCells {start finish : DateTime}
    (keyed : ∀ r ∈ body, r.headD "" = dims r ++ " " ++ Window.label start finish) :
    Window.periodLabel start finish ∉ firstCells body := by
  simp only [firstCells, List.mem_map, not_exists, not_and]
  intro r member same
  exact Window.key_ne_periodLabel (dims r) start finish start finish
    ((keyed r member).symm.trans same)

end KeyColumn

/-- The key column of a week's summary: the period row, then keys that are pairwise distinct
exactly when the rows' dimensions are, none of them the period row. -/
def KeysWithinWeek (dims : List String → String) (start finish : DateTime)
    (rows : List (List String)) : Prop :=
  ∃ body, rows = [Window.periodLabel start finish] :: body ∧
    ((firstCells body).Nodup ↔ (body.map dims).Nodup) ∧
    Window.periodLabel start finish ∉ firstCells body

theorem weeklySummary_keysWithinWeek {query : String} {row : String → List Value → List String}
    {dims : List String → String} {db : Database} {start finish : DateTime}
    {rows : List (List String)} (keyed : KeyedBy row dims)
    (summary : weeklySummary query row db start finish = .ok rows) :
    KeysWithinWeek dims start finish rows := by
  obtain ⟨body, rfl, keys⟩ := weeklySummary_keys keyed summary
  exact ⟨body, rfl, nodup_firstCells_iff keys, periodLabel_not_mem_firstCells keys⟩

theorem inKeyColumn_of_mem_firstCells {query : String} {row : String → List Value → List String}
    {dims : List String → String} {db : Database} {start finish : DateTime}
    {rows : List (List String)} (keyed : KeyedBy row dims)
    (summary : weeklySummary query row db start finish = .ok rows) :
    ∀ text ∈ firstCells rows, Window.InKeyColumn start finish text := by
  obtain ⟨body, rfl, keys⟩ := weeklySummary_keys keyed summary
  intro text member
  rw [firstCells_cons, List.headD_cons, List.mem_cons] at member
  rcases member with period | key
  · exact .inl period
  · obtain ⟨r, inBody, rfl⟩ := List.mem_map.1 key
    exact .inr ⟨dims r, keys r inBody⟩

/-- Without a colon in the charity, `<charity>:<event type>` names the pair. -/
theorem charity_eq_of_dims_eq {charity charity' eventType eventType' : String}
    (plain : ':' ∉ charity.toList) (plain' : ':' ∉ charity'.toList)
    (same : charity ++ ":" ++ eventType = charity' ++ ":" ++ eventType') :
    charity = charity' ∧ eventType = eventType' := by
  have chars := congrArg String.toList same
  simp only [String.toList_append, List.append_assoc] at chars
  obtain ⟨charities, events⟩ := append_cons_inj_of_not_mem_left plain plain' chars
  exact ⟨String.ext_iff.2 charities, String.ext_iff.2 events⟩

/-- Rows with distinct pairs of charity and event type, and no colon in a charity, have distinct
dimensions. -/
theorem nodup_charityDims {body : List (List String)}
    (plain : ∀ r ∈ body, ':' ∉ (r.getD 1 "").toList)
    (distinct : (body.map fun r => (r.getD 1 "", r.getD 2 "")).Nodup) :
    (body.map charityDims).Nodup := by
  have joined : body.map charityDims =
      (body.map fun r => (r.getD 1 "", r.getD 2 "")).map fun pair => pair.1 ++ ":" ++ pair.2 := by
    rw [List.map_map]
    rfl
  rw [joined]
  refine distinct.map_on ?_
  simp only [List.mem_map]
  rintro _ ⟨r, member, rfl⟩ _ ⟨r', member', rfl⟩ same
  obtain ⟨charities, events⟩ := charity_eq_of_dims_eq (plain r member) (plain r' member') same
  exact Prod.ext charities events

/-- A colon inside a charity or an event type makes two groups share one key: in the first week of
2024, the charity `a` with the event type `b:c`, and the charity `a:b` with the event type `c`,
both write `a:b:c January-1-2024 to January-7-2024`. -/
theorem charityRow_keys_collide :
    let week := Window.ofMonday (7 * 105555 + 1)
    let window := Window.label week.start week.finish
    let row := charityRow window [Value.ofString "a", Value.ofString "b:c", .integer 1]
    let row' := charityRow window [Value.ofString "a:b", Value.ofString "c", .integer 1]
    (row.getD 1 "", row.getD 2 "") ≠ (row'.getD 1 "", row'.getD 2 "") ∧
      row.headD "" = row'.headD "" := by
  have texts : (Value.ofString "a").cellText = "a" ∧ (Value.ofString "b:c").cellText = "b:c" ∧
      (Value.ofString "a:b").cellText = "a:b" ∧ (Value.ofString "c").cellText = "c" := by
    decide +kernel
  obtain ⟨a, bc, ab, c⟩ := texts
  intro week window row row'
  simp only [row, row', charityRow, List.getD_cons_succ, List.getD_cons_zero, List.headD_cons, a,
    bc, ab, c]
  exact ⟨by decide, congrArg (· ++ " " ++ window) (by decide)⟩

/-- The rows that one of the two weekly summaries gives for a window. -/
def SummaryRows (db : Database) (window : Window) (rows : List (List String)) : Prop :=
  charityEventSummary db window.start window.finish = .ok rows ∨
    widgetEventSummary db window.start window.finish = .ok rows

theorem inKeyColumn_of_summaryRows {db : Database} {window : Window} {rows : List (List String)}
    (summary : SummaryRows db window rows) :
    ∀ text ∈ firstCells rows, Window.InKeyColumn window.start window.finish text := by
  rcases summary with charity | widget
  · exact inKeyColumn_of_mem_firstCells charityRow_keyedBy charity
  · exact inKeyColumn_of_mem_firstCells widgetRow_keyedBy widget

/-- The key columns of the weekly summaries for the windows of two bases. Within a week, the first
row is the period row and no key equals it; the charity keys are pairwise distinct exactly when
the rows' texts `<charity>:<event type>` are, so in particular when the pairs of charity and event
type are distinct and no charity holds a colon; and the widget keys exactly when the rows' event
types are. Across bases in different ISO weeks, no first cell of a summary of the one week is a
first cell of a summary of the other. -/
def WeeklyKeyColumns (db db' : Database) (base base' : DateTime) (window window' : Window) :
    Prop :=
  (∀ rows, charityEventSummary db window.start window.finish = .ok rows →
    KeysWithinWeek charityDims window.start window.finish rows ∧
      ((∀ r ∈ rows.tail, ':' ∉ (r.getD 1 "").toList) →
        (rows.tail.map fun r => (r.getD 1 "", r.getD 2 "")).Nodup → (firstCells rows).Nodup)) ∧
  (∀ rows, widgetEventSummary db window.start window.finish = .ok rows →
    KeysWithinWeek widgetDims window.start window.finish rows) ∧
  (Window.isoWeekOf base.utcMicros ≠ Window.isoWeekOf base'.utcMicros →
    ∀ rows rows', SummaryRows db window rows → SummaryRows db' window' rows' →
      ∀ text ∈ firstCells rows, text ∉ firstCells rows')

/-- The weekly summaries of the windows of valid bases have key columns that tell their groups
apart as far as the groups' texts differ, and tell their weeks apart. -/
theorem summary_keys_distinct_iff_dimensions (db db' : Database) {base base' : DateTime}
    {window window' : Window} (checked : base.check = .ok base)
    (checked' : base'.check = .ok base') (windowed : Window.ofInstant base = .ok window)
    (windowed' : Window.ofInstant base' = .ok window') :
    WeeklyKeyColumns db db' base base' window window' := by
  refine ⟨fun rows summary => ?charity, fun rows summary => ?widget, ?apart⟩
  case charity =>
    have within := weeklySummary_keysWithinWeek charityRow_keyedBy summary
    refine ⟨within, fun plain distinct => ?_⟩
    obtain ⟨body, rfl, distinctIff, fresh⟩ := within
    rw [firstCells_cons, List.nodup_cons]
    exact ⟨fresh, distinctIff.2 (nodup_charityDims plain distinct)⟩
  case widget => exact weeklySummary_keysWithinWeek widgetRow_keyedBy summary
  case apart =>
    intro weeks rows rows' summary summary' text member member'
    exact weeks (Window.isoWeekOf_eq_of_finish_label_eq checked checked' windowed windowed'
      (Window.finish_label_eq_of_inKeyColumn (inKeyColumn_of_summaryRows summary text member)
        (inKeyColumn_of_summaryRows summary' text member')))

/-- The bases of Wednesday, January 3, 2024 and Wednesday, January 10, 2024 fall in two ISO
weeks, whose summaries share no first cell. -/
theorem summary_keys_distinct_iff_dimensions_in_january_2024 :
    Window.isoWeekOf (DateTime.mk ⟨2024, 1, 3⟩ 10 0 0 0 (some 0)).utcMicros ≠
        Window.isoWeekOf (DateTime.mk ⟨2024, 1, 10⟩ 10 0 0 0 (some 0)).utcMicros ∧
      WeeklyKeyColumns Database.empty Database.empty (DateTime.mk ⟨2024, 1, 3⟩ 10 0 0 0 (some 0))
        (DateTime.mk ⟨2024, 1, 10⟩ 10 0 0 0 (some 0)) (Window.ofMonday (7 * 105555 + 1))
        (Window.ofMonday (7 * 105556 + 1)) :=
  ⟨by decide, summary_keys_distinct_iff_dimensions _ _ (by decide) (by decide) (by decide)
    (by decide)⟩

end Source

end SheetExport
