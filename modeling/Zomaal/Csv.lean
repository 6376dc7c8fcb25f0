/-
**CSV texts.**

A cell that has a quote, a comma or the end of a line in it is quoted, and its quotes are doubled; a
cell that a spreadsheet would take for a formula gets an apostrophe.  This module embeds `parseCsv`
and `toCsv` from `csv.util.ts`.

Main results:

* `csvRoundTrip` — **a table comes back**.
-/

import Zomaal.JsText

set_option autoImplicit false

namespace Zomaal

open JsText

/-! ### Writing -/

/-- `/^[=+\-@]/`. -/
def isFormula : List Char → Bool
  | c :: _ => c = '=' || c = '+' || c = '-' || c = '@'
  | [] => false

def safeCell (cell : List Char) : List Char := if isFormula cell then '\'' :: cell else cell

def csvSpecial (c : Char) : Bool := c = '"' || c = ',' || c = '\r' || c = '\n'

/-- `.replace(/"/g, '""')`. -/
def doubleQuotes (cell : List Char) : List Char :=
  cell.flatMap fun c => if c = '"' then ['"', '"'] else [c]

def writeCell (cell : List Char) : List Char :=
  if (safeCell cell).any csvSpecial then '"' :: doubleQuotes (safeCell cell) ++ ['"']
  else safeCell cell

def writeRow (row : List (List Char)) : List Char := [','].intercalate (row.map writeCell)

/-- **`toCsv`**; a number is given as its text. -/
def toCsv (rows : List (List (Option String))) : String :=
  String.ofList (['\r', '\n'].intercalate (rows.map fun row =>
    writeRow (row.map fun value => (value.getD "").toList)))

/-! ### Reading -/

structure CsvState where
  rows : List (List String) := []
  row : List String := []
  field : List Char := []
  inQuotes : Bool := false

namespace CsvState

def pushField (s : CsvState) : CsvState :=
  { s with row := s.row ++ [String.ofList s.field], field := [] }

def pushRow (s : CsvState) : CsvState := { s with rows := s.rows ++ [s.row], row := [] }

def read (s : CsvState) : List Char → CsvState
  | [] => s
  | c :: text =>
    if s.inQuotes then
      if c = '"' then
        match text with
        | '"' :: text => read { s with field := s.field ++ ['"'] } text
        | text => read { s with inQuotes := false } text
      else read { s with field := s.field ++ [c] } text
    else if c = '"' then read { s with inQuotes := true } text
    else if c = ',' then read s.pushField text
    else if c = '\r' then
      match text with
      | '\n' :: text => read s.pushField.pushRow text
      | text => read s.pushField.pushRow text
    else if c = '\n' then read s.pushField.pushRow text
    else read { s with field := s.field ++ [c] } text

/-- What is left at the end of the text is a row, unless it is nothing. -/
def finish (s : CsvState) : List (List String) :=
  if s.field ≠ [] ∨ s.row ≠ [] then s.pushField.pushRow.rows else s.rows

end CsvState

def byteOrderMark : Char := Char.ofNat 0xfeff

/-- `row.some((cell) => cell.trim() !== '')`. -/
def hasContent (row : List String) : Bool := row.any fun cell => trim cell ≠ ""

/-- **`parseCsv`**: fully blank lines are dropped. -/
def parseCsv (input : String) : List (List String) :=
  let text := if input.toList.head? = some byteOrderMark then input.toList.tail else input.toList
  ((({} : CsvState).read text).finish).filter hasContent

example : parseCsv "name,desc\n\"Box, large\",\"Say \"\"hi\"\"\nline two\"" =
    [["name", "desc"], ["Box, large", "Say \"hi\"\nline two"]] := by
  decide +kernel

example : parseCsv "a,b\r\n1,2\r\n\r\n,\r\n" = [["a", "b"], ["1", "2"]] := by decide +kernel

/-! ### Reading what was written -/

namespace CsvState

variable {s : CsvState} {text : List Char}

theorem read_cons (c : Char) : s.read (c :: text) =
    if s.inQuotes then
      if c = '"' then
        match text with
        | '"' :: text => ({ s with field := s.field ++ ['"'] } : CsvState).read text
        | text => ({ s with inQuotes := false } : CsvState).read text
      else ({ s with field := s.field ++ [c] } : CsvState).read text
    else if c = '"' then ({ s with inQuotes := true } : CsvState).read text
    else if c = ',' then s.pushField.read text
    else if c = '\r' then
      match text with
      | '\n' :: text => s.pushField.pushRow.read text
      | text => s.pushField.pushRow.read text
    else if c = '\n' then s.pushField.pushRow.read text
    else ({ s with field := s.field ++ [c] } : CsvState).read text := by
  rw [read.eq_def]

theorem read_inQuotes {c : Char} (hquotes : s.inQuotes = true) (hc : c ≠ '"') :
    s.read (c :: text) = ({ s with field := s.field ++ [c] } : CsvState).read text := by
  rw [read_cons, if_pos hquotes, if_neg hc]

theorem read_doubled (hquotes : s.inQuotes = true) :
    s.read ('"' :: '"' :: text) = ({ s with field := s.field ++ ['"'] } : CsvState).read text := by
  rw [read_cons, if_pos hquotes, if_pos rfl]
  rfl

theorem read_endQuote (hquotes : s.inQuotes = true) (htext : text.head? ≠ some '"') :
    s.read ('"' :: text) = ({ s with inQuotes := false } : CsvState).read text := by
  rw [read_cons, if_pos hquotes, if_pos rfl]
  split
  · exact absurd rfl htext
  · rfl

theorem read_openQuote (hquotes : s.inQuotes = false) :
    s.read ('"' :: text) = ({ s with inQuotes := true } : CsvState).read text := by
  rw [read_cons, hquotes, if_neg Bool.false_ne_true, if_pos rfl]

theorem read_comma (hquotes : s.inQuotes = false) :
    s.read (',' :: text) = s.pushField.read text := by
  rw [read_cons, hquotes, if_neg Bool.false_ne_true, if_neg (by decide), if_pos rfl]

theorem read_newline (hquotes : s.inQuotes = false) :
    s.read ('\r' :: '\n' :: text) = s.pushField.pushRow.read text := by
  rw [read_cons, hquotes, if_neg Bool.false_ne_true, if_neg (by decide), if_neg (by decide),
    if_pos rfl]
  rfl

theorem read_char {c : Char} (hquotes : s.inQuotes = false) (hc : csvSpecial c = false) :
    s.read (c :: text) = ({ s with field := s.field ++ [c] } : CsvState).read text := by
  simp only [csvSpecial, Bool.or_eq_false_iff, decide_eq_false_iff_not] at hc
  obtain ⟨⟨⟨hquote, hcomma⟩, hreturn⟩, hnewline⟩ := hc
  rw [read_cons, hquotes, if_neg Bool.false_ne_true, if_neg hquote, if_neg hcomma, if_neg hreturn,
    if_neg hnewline]

theorem read_quoted (cell : List Char) (hquotes : s.inQuotes = true)
    (htext : text.head? ≠ some '"') :
    s.read (doubleQuotes cell ++ '"' :: text) =
      ({ s with field := s.field ++ cell, inQuotes := false } : CsvState).read text := by
  induction cell generalizing s with
  | nil =>
    refine (read_endQuote hquotes htext).trans ?_
    rw [List.append_nil]
  | cons c cell ih =>
    by_cases hc : c = '"'
    · have hdoubled : doubleQuotes (c :: cell) = '"' :: '"' :: doubleQuotes cell := by
        rw [doubleQuotes, List.flatMap_cons, if_pos hc]
        rfl
      rw [hdoubled, List.cons_append, List.cons_append, read_doubled hquotes]
      rw [ih (s := { s with field := s.field ++ ['"'] }) hquotes, List.append_assoc, hc]
      rfl
    · have hsame : doubleQuotes (c :: cell) = c :: doubleQuotes cell := by
        rw [doubleQuotes, List.flatMap_cons, if_neg hc]
        rfl
      rw [hsame, List.cons_append, read_inQuotes hquotes hc]
      rw [ih (s := { s with field := s.field ++ [c] }) hquotes, List.append_assoc]
      rfl

theorem read_plain (cell : List Char) (hquotes : s.inQuotes = false)
    (hcell : cell.any csvSpecial = false) :
    s.read (cell ++ text) = ({ s with field := s.field ++ cell } : CsvState).read text := by
  induction cell generalizing s with
  | nil => rw [List.nil_append, List.append_nil]
  | cons c cell ih =>
    rw [List.any_cons, Bool.or_eq_false_iff] at hcell
    obtain ⟨hc, hrest⟩ := hcell
    rw [List.cons_append, read_char hquotes hc]
    rw [ih (s := { s with field := s.field ++ [c] }) hquotes hrest, List.append_assoc]
    rfl

theorem read_cell (cell : List Char) (hquotes : s.inQuotes = false) (hfield : s.field = [])
    (htext : text.head? ≠ some '"') :
    s.read (writeCell cell ++ text) = ({ s with field := safeCell cell } : CsvState).read text := by
  rw [writeCell]
  split
  · have hopened : s.read ('"' :: doubleQuotes (safeCell cell) ++ ['"'] ++ text) =
        ({ s with inQuotes := true } : CsvState).read
          (doubleQuotes (safeCell cell) ++ '"' :: text) := by
      rw [List.cons_append, List.cons_append, read_openQuote hquotes, List.append_assoc]
      rfl
    refine hopened.trans ((read_quoted (safeCell cell) rfl htext).trans ?_)
    rw [hfield, hquotes]
    rfl
  · rename_i hplain
    refine (read_plain (safeCell cell) hquotes (Bool.eq_false_iff.2 hplain)).trans ?_
    rw [hfield]
    rfl

def readBack (row : List (List Char)) : List String :=
  row.map fun cell => String.ofList (safeCell cell)

theorem read_row {row : List (List Char)} (hrow : row ≠ []) (hquotes : s.inQuotes = false)
    (hfield : s.field = []) (htext : text.head? ≠ some '"') :
    ∃ t : CsvState, s.read (writeRow row ++ text) = t.read text ∧ t.inQuotes = false ∧
      t.pushField = { s with row := s.row ++ readBack row } := by
  induction row generalizing s with
  | nil => exact absurd rfl hrow
  | cons cell row ih =>
    cases row with
    | nil =>
      refine ⟨{ s with field := safeCell cell }, ?_, hquotes, ?_⟩
      · have hwritten : writeRow [cell] = writeCell cell := List.append_nil _
        rw [hwritten]
        exact read_cell cell hquotes hfield htext
      · rw [pushField, hfield]
        rfl
    | cons next row =>
      have hwritten : writeRow (cell :: next :: row) ++ text =
          writeCell cell ++ ',' :: (writeRow (next :: row) ++ text) := by
        rw [writeRow, writeRow, List.map_cons, List.map_cons, List.intercalate_cons_cons]
        simp
      obtain ⟨t, hread, hout, hpushed⟩ := ih (s := { s with
        row := s.row ++ [String.ofList (safeCell cell)], field := [] })
        (List.cons_ne_nil _ _) hquotes rfl
      refine ⟨t, ?_, hout, hpushed.trans ?_⟩
      · rw [hwritten, read_cell cell hquotes hfield (by simp),
          read_comma (s := { s with field := safeCell cell }) hquotes]
        exact hread
      · rw [hfield, List.append_assoc]
        rfl

theorem read_rows {rows : List (List (List Char))}
    (hrows : ∀ row ∈ rows, hasContent (readBack row) = true) (done : List (List String)) :
    (({ rows := done } : CsvState).read
      (['\r', '\n'].intercalate (rows.map writeRow))).finish = done ++ rows.map readBack := by
  induction rows generalizing done with
  | nil =>
    rw [List.map_nil, List.map_nil, List.append_nil]
    rfl
  | cons row rows ih =>
    have hcontent := hrows row (List.mem_cons_self ..)
    have hne : row ≠ [] := by
      rintro rfl
      cases hcontent
    have hrest := fun other hother => hrows other (List.mem_cons_of_mem _ hother)
    cases rows with
    | nil =>
      obtain ⟨t, hread, -, hpushed⟩ :=
        @read_row { rows := done } [] row hne rfl rfl (by simp)
      rw [List.append_nil] at hread
      -- a row of one empty cell has no content
      have hleft : t.field ≠ [] ∨ t.row ≠ [] := by
        by_contra hnone
        rw [not_or, not_not, not_not] at hnone
        have hback : [""] = readBack row := by
          have hcells := congrArg CsvState.row hpushed
          rw [pushField, hnone.1, hnone.2] at hcells
          exact hcells
        rw [← hback] at hcontent
        exact absurd hcontent (by decide)
      rw [List.map_singleton, List.intercalate_singleton, hread, read, finish, if_pos hleft,
        hpushed]
      rfl
    | cons next rows =>
      obtain ⟨t, hread, hout, hpushed⟩ := @read_row { rows := done }
        ('\r' :: '\n' :: ['\r', '\n'].intercalate ((next :: rows).map writeRow)) row
        hne rfl rfl (by simp)
      have hnext : t.pushField.pushRow = { rows := done ++ [readBack row] } := by
        rw [hpushed]
        rfl
      rw [List.map_cons, List.map_cons, List.intercalate_cons_cons, List.append_assoc]
      refine (congrArg finish hread).trans ?_
      rw [read_newline hout, hnext, ih hrest, List.map_cons, List.append_assoc]
      rfl

end CsvState

/-! ### A table comes back -/

/-- A cell as it comes back: one that starts like a formula has an apostrophe before it. -/
def comesBack (cell : String) : String :=
  if cell.toList.head? ∈ [some '=', some '+', some '-', some '@'] then "'" ++ cell else cell

theorem ofList_safeCell (cell : String) :
    String.ofList (safeCell cell.toList) = comesBack cell := by
  have hformula : isFormula cell.toList = true ↔
      cell.toList.head? ∈ [some '=', some '+', some '-', some '@'] := by
    cases cell.toList with
    | nil => simp [isFormula]
    | cons c text => simp [isFormula, or_assoc]
  rw [safeCell, comesBack]
  by_cases h : isFormula cell.toList = true
  · rw [if_pos h, if_pos (hformula.1 h)]
    exact String.toList_injective (by simp)
  · rw [if_neg h, if_neg (mt hformula.2 h), String.ofList_toList]

theorem trim_ne_empty_iff {text : String} :
    trim text ≠ "" ↔ ∃ c ∈ text.toList, isSpace c = false := by
  have hnil : trim text = "" ↔ ∀ c ∈ text.toList, isSpace c = true := by
    rw [trim, ← String.toList_inj, String.toList_ofList, String.toList_empty,
      List.reverse_eq_nil_iff, List.dropWhile_eq_nil_iff]
    constructor
    · intro h
      have hdropped : text.toList.dropWhile isSpace = [] := by
        cases hrest : text.toList.dropWhile isSpace with
        | nil => rfl
        | cons c rest =>
          have hspace := h c (List.mem_reverse.2 (hrest ▸ List.mem_cons_self ..))
          have hstop := List.head?_dropWhile_not isSpace text.toList
          rw [hrest, List.head?_cons] at hstop
          exact absurd hspace (Bool.eq_false_iff.1 hstop)
      exact List.dropWhile_eq_nil_iff.1 hdropped
    · intro h c hc
      exact h c ((List.dropWhile_sublist isSpace).subset (List.mem_reverse.1 hc))
  rw [Ne, hnil]
  simp

theorem trim_comesBack {cell : String} (h : trim cell ≠ "") : trim (comesBack cell) ≠ "" := by
  rw [comesBack]
  split
  · refine trim_ne_empty_iff.2 ⟨'\'', ?_, by decide⟩
    rw [String.toList_append]
    exact List.mem_append_left _ (List.mem_singleton_self _)
  · exact h

theorem head_writeCell {cell : List Char} (hmark : cell.head? ≠ some byteOrderMark) :
    (writeCell cell).head? ≠ some byteOrderMark ∧ (writeCell cell = [] → cell = []) := by
  rw [writeCell]
  split
  · exact ⟨by rw [List.cons_append, List.head?_cons]; decide, fun h => nomatch h⟩
  · rw [safeCell]
    split
    · exact ⟨by rw [List.head?_cons]; decide, fun h => nomatch h⟩
    · exact ⟨hmark, id⟩

theorem head_writeRow {row : List (List Char)} (hcontent : ∃ cell ∈ row, cell ≠ [])
    (hmark : ∀ cell ∈ row.head?, cell.head? ≠ some byteOrderMark) :
    (writeRow row).head? ≠ some byteOrderMark ∧ writeRow row ≠ [] := by
  cases row with
  | nil => exact absurd hcontent (by simp)
  | cons cell row =>
    obtain ⟨hhead, hempty⟩ := head_writeCell (hmark cell rfl)
    cases row with
    | nil =>
      obtain ⟨own, hown, hne⟩ := hcontent
      obtain rfl := List.mem_singleton.1 hown
      rw [writeRow, List.map_singleton, List.intercalate_singleton]
      exact ⟨hhead, mt hempty hne⟩
    | cons next row =>
      rw [writeRow, List.map_cons, List.map_cons, List.intercalate_cons_cons]
      refine ⟨?_, by simp⟩
      rw [List.append_assoc, List.head?_append]
      cases hwritten : (writeCell cell).head? with
      | none => exact (by decide : some ',' ≠ some byteOrderMark)
      | some c =>
        rw [hwritten] at hhead
        exact hhead

/-- **A table comes back**, row by row and cell by cell, with an apostrophe before the cells that
start like a formula. -/
theorem csvRoundTrip {table : List (List String)}
    (hcontent : ∀ row ∈ table, ∃ cell ∈ row, trim cell ≠ "")
    (hmark : ∀ row ∈ table.head?, ∀ cell ∈ row.head?, cell.toList.head? ≠ some byteOrderMark) :
    parseCsv (toCsv (table.map (List.map some))) = table.map (List.map comesBack) := by
  have hwritten : toCsv (table.map (List.map some)) =
      String.ofList (['\r', '\n'].intercalate
        ((table.map (List.map String.toList)).map writeRow)) := by
    simp only [toCsv, List.map_map, Function.comp_def, Option.getD_some]
  have hback : ∀ row : List String,
      (CsvState.readBack ∘ List.map String.toList) row = row.map comesBack := fun row => by
    rw [Function.comp_apply, CsvState.readBack, List.map_map]
    exact List.map_congr_left fun cell _ => ofList_safeCell cell
  have hkept : ∀ row ∈ table, hasContent (row.map comesBack) = true := by
    intro row hrow
    obtain ⟨cell, hcell, hsays⟩ := hcontent row hrow
    exact List.any_eq_true.2 ⟨comesBack cell, List.mem_map_of_mem hcell,
      decide_eq_true (trim_comesBack hsays)⟩
  have hrows : ∀ row ∈ table.map (List.map String.toList),
      hasContent (CsvState.readBack row) = true := by
    intro row hrow
    obtain ⟨own, hown, rfl⟩ := List.mem_map.1 hrow
    exact (congrArg hasContent (hback own)).trans (hkept own hown)
  have hstart : (['\r', '\n'].intercalate
      ((table.map (List.map String.toList)).map writeRow)).head? ≠ some byteOrderMark := by
    cases table with
    | nil => exact fun h => nomatch h
    | cons row table =>
      obtain ⟨cell, hcell, hsays⟩ := hcontent row (List.mem_cons_self ..)
      have hempty : ¬ trim "" ≠ "" := by decide
      have hfirst := @head_writeRow (row.map String.toList)
        ⟨cell.toList, List.mem_map_of_mem hcell, fun h =>
          hempty ((String.toList_eq_nil_iff.1 h) ▸ hsays)⟩ ?_
      · obtain ⟨hhead, hne⟩ := hfirst
        cases table with
        | nil =>
          rw [List.map_singleton, List.map_singleton, List.intercalate_singleton]
          exact hhead
        | cons next table =>
          rw [List.map_cons, List.map_cons, List.map_cons, List.map_cons,
            List.intercalate_cons_cons, List.append_assoc, List.head?_append_of_ne_nil _ hne]
          exact hhead
      · intro own hown
        rw [List.head?_map] at hown
        obtain ⟨first, hfirst, rfl⟩ := Option.map_eq_some_iff.1 hown
        exact hmark row rfl first hfirst
  rw [parseCsv, hwritten, String.toList_ofList, if_neg hstart, CsvState.read_rows hrows,
    List.nil_append, List.map_map, funext hback]
  refine List.filter_eq_self.2 fun row hrow => ?_
  obtain ⟨own, hown, rfl⟩ := List.mem_map.1 hrow
  exact hkept own hown

/-- A table with quotes, commas, ends of lines, empty cells and a formula. -/
theorem csvRoundTrip_cells :
    parseCsv (toCsv ([["=1+1", "say \"hi\", twice", ""], ["", " a\r\nb\rc ", "-"]].map
      (List.map some))) =
        [["'=1+1", "say \"hi\", twice", ""], ["", " a\r\nb\rc ", "'-"]] := by
  refine (csvRoundTrip ?_ ?_).trans (by decide +kernel)
  · intro row hrow
    rcases List.mem_cons.1 hrow with rfl | hrow
    · exact ⟨"=1+1", by decide, by decide +kernel⟩
    · obtain rfl := List.mem_singleton.1 hrow
      exact ⟨"-", by decide, by decide +kernel⟩
  · intro row hrow cell hcell
    obtain rfl := Option.some.inj hrow
    obtain rfl := Option.some.inj hcell
    decide +kernel

end Zomaal
