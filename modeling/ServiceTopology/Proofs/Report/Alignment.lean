import Mathlib.Algebra.BigOperators.Group.List.Basic
import Mathlib.Algebra.GroupWithZero.Nat
import Mathlib.Data.List.Forall2
import Mathlib.Data.List.GetD
import Mathlib.Order.Bounds.Basic
import ServiceTopology.Report.BorderedTable

/-!
# Aligned columns

The lines of a bordered table are as long as one another, and each column takes the same positions in all of them. There
a line of the headers or of a row shows the whole text that it has for the column, followed by blanks; what a row has
beyond the columns is in no line. No table with narrower columns would have room for the same texts.

Lines of rows and borders are put together from different pieces. Both are seen here as texts that are framed one by
one, so that lengths and positions are counted in one way. Lengths count characters; how wide a terminal shows them is
not considered.
-/

namespace ServiceTopology.BorderedTable

/-! ## Framed texts -/

/-- Texts side by side, each behind an edge and between two fillings. -/
def framed (edge : Char) (filling : List Char) (texts : List (List Char)) : List Char :=
  texts.flatMap fun text => edge :: (filling ++ text ++ filling)

/-- Joining texts by an edge between two fillings, with half of that at each end, frames them. -/
theorem intercalate_eq_framed (edge : Char) (filling : List Char) {texts : List (List Char)} (h : texts ≠ []) :
    edge :: (filling ++ ((filling ++ edge :: filling).intercalate texts ++ (filling ++ [edge]))) =
      framed edge filling texts ++ [edge] := by
  induction texts with
  | nil => exact absurd rfl h
  | cons text rest ih =>
    cases rest with
    | nil => simp [framed]
    | cons next rest =>
      have hrest := ih (List.cons_ne_nil next rest)
      rw [framed, List.flatMap_cons, ← framed, List.append_assoc (edge :: _), ← hrest, List.intercalate_cons_cons]
      simp only [List.append_assoc, List.cons_append]

/-- Each framed text takes its own length, that of two fillings and an edge. -/
theorem length_framed (edge : Char) (filling : List Char) (texts : List (List Char)) :
    (framed edge filling texts).length =
      (texts.map List.length).sum + (2 * filling.length + 1) * texts.length := by
  induction texts with
  | nil => rfl
  | cons text rest ih =>
    rw [framed, List.flatMap_cons, ← framed, List.length_append, ih, List.map_cons, List.sum_cons, List.length_cons,
      List.length_cons, Nat.mul_add, List.length_append, List.length_append]
    omega

/-- Framed texts before a text, the text itself and framed texts after it. -/
theorem framed_append_cons (edge : Char) (filling : List Char) (before after : List (List Char)) (text : List Char) :
    framed edge filling (before ++ text :: after) =
      framed edge filling before ++ (edge :: (filling ++ text ++ filling) ++ framed edge filling after) := by
  simp only [framed, List.flatMap_append, List.flatMap_cons]

/-- Where the text of a column starts in a line: behind the columns before it, each with an edge and two blanks, and
behind an edge and a blank of its own. -/
def columnStart (widths : List Nat) (column : Nat) : Nat := (widths.take column).sum + 3 * column + 2

/-- A line of framed texts goes on from the start of a column with its text, a blank, the texts after it and an edge. -/
theorem drop_columnStart {texts : List (List Char)} {column : Nat} (h : column < texts.length) :
    (framed '|' [' '] texts ++ ['|']).drop (columnStart (texts.map List.length) column) =
      texts[column] ++ ' ' :: (framed '|' [' '] (texts.drop (column + 1)) ++ ['|']) := by
  have hstart : columnStart (texts.map List.length) column =
      (framed '|' [' '] (texts.take column)).length + 2 := by
    rw [columnStart, length_framed, List.map_take, List.length_take, Nat.min_eq_left (Nat.le_of_lt h)]
    rfl
  have hframed : framed '|' [' '] texts ++ ['|'] = framed '|' [' '] (texts.take column) ++
      '|' :: ' ' :: (texts[column] ++ ' ' :: (framed '|' [' '] (texts.drop (column + 1)) ++ ['|'])) := by
    conv_lhs => rw [← List.take_append_drop column texts, List.drop_eq_getElem_cons h, framed_append_cons]
    simp only [List.append_assoc, List.cons_append, List.nil_append]
  rw [hstart, hframed, List.drop_length_add_append]
  rfl

/-! ## Rows -/

/-- Text that a row has for a column; a short row has none. -/
def cellAt (row : List (List Char)) (column : Nat) : List Char := row.getD column []

/-- A row that was cut or filled has as many cells as there are columns. -/
theorem length_fitRow (count : Nat) (row : List (List Char)) : (fitRow count row).length = count := by
  rw [fitRow, List.length_take, List.length_append, List.length_replicate]
  omega

/-- A row that was cut or filled has the cells of the row in the columns that there are. -/
theorem cellAt_fitRow {count column : Nat} (row : List (List Char)) (h : column < count) :
    cellAt (fitRow count row) column = cellAt row column := by
  rw [cellAt, cellAt, fitRow, List.getD_eq_getElem?_getD, List.getElem?_take_of_lt h, List.getD_eq_getElem?_getD]
  by_cases hrow : column < row.length
  · rw [List.getElem?_append_left hrow]
  · have hbeyond : row.length ≤ column := Nat.not_lt.mp hrow
    rw [List.getElem?_append_right hbeyond, List.getElem?_replicate, List.getElem?_eq_none hbeyond]
    split <;> rfl

/-- A cell that fits is filled to the width of its column. -/
theorem length_padCell {width : Nat} {cell : List Char} (h : cell.length ≤ width) :
    (padCell width cell).length = width := by
  rw [padCell, List.length_append, List.length_replicate]
  omega

/-! ## Lines -/

/-- A line shows a text in each column: the whole text, with blanks up to the width of the column. Bars with blanks
stand between the columns and at both ends, and nothing else is in the line. -/
structure Shows (widths : List Nat) (text : Nat → List Char) (line : List Char) : Prop where
  length : line.length = widths.sum + 3 * widths.length + 1
  opens : line.take 2 = ['|', ' ']
  fits : ∀ column width, widths[column]? = some width → (text column).length ≤ width
  column : ∀ column width, widths[column]? = some width →
    (line.drop (columnStart widths column)).take width =
      text column ++ List.replicate (width - (text column).length) ' '
  closes : ∀ column width, widths[column]? = some width →
    (line.drop (columnStart widths column + width)).take 3 =
      if column + 1 < widths.length then [' ', '|', ' '] else [' ', '|']

/-- A line that shows some texts shows others that are the same in every column. -/
theorem Shows.congr {widths : List Nat} {text other : Nat → List Char} {line : List Char}
    (h : Shows widths text line) (hsame : ∀ column < widths.length, text column = other column) :
    Shows widths other line := by
  have htext {column width : Nat} (hwidth : widths[column]? = some width) : text column = other column :=
    hsame column (List.getElem?_eq_some_iff.mp hwidth).1
  exact ⟨h.length, h.opens, fun column width hwidth => htext hwidth ▸ h.fits column width hwidth,
    fun column width hwidth => htext hwidth ▸ h.column column width hwidth, h.closes⟩

/-- A row with columns is a line of framed texts. -/
theorem rowLine_eq {widths : List Nat} {cells : List (List Char)} (hne : widths ≠ [])
    (hlength : cells.length = widths.length) :
    rowLine widths cells = framed '|' [' '] (List.zipWith padCell widths cells) ++ ['|'] := by
  refine intercalate_eq_framed '|' [' '] fun hnone => ?_
  obtain hwidths | hcells := List.zipWith_eq_nil_iff.mp hnone
  · exact hne hwidths
  · exact hne (List.length_eq_zero_iff.mp (hlength.symm.trans (congrArg List.length hcells)))

/-- A border of columns is a line of framed dashes. -/
theorem borderLine_eq {widths : List Nat} (hne : widths ≠ []) :
    borderLine widths = framed '+' [] (widths.map fun width => List.replicate (width + 2) '-') ++ ['+'] :=
  intercalate_eq_framed '+' [] (mt List.map_eq_nil_iff.mp hne)

section Fitting

variable {widths : List Nat} {cells : List (List Char)} (hlength : cells.length = widths.length)
  (hfits : ∀ column width, widths[column]? = some width → (cellAt cells column).length ≤ width)

include hlength hfits

/-- Cells that fit are filled to the widths of their columns. -/
theorem map_length_padCell : (List.zipWith padCell widths cells).map List.length = widths := by
  refine List.ext_getElem (by simp [hlength]) fun column _ hcolumn => ?_
  have hcell := hfits column widths[column] (List.getElem?_eq_getElem hcolumn)
  rw [cellAt, List.getD_eq_getElem _ _ (hlength ▸ hcolumn)] at hcell
  rw [List.getElem_map, List.getElem_zipWith, length_padCell hcell]

/-- The line of a row of cells that fit shows them in the columns. -/
theorem shows_rowLine (hne : widths ≠ []) : Shows widths (cellAt cells) (rowLine widths cells) := by
  have hpadded := map_length_padCell hlength hfits
  have hcount : (List.zipWith padCell widths cells).length = widths.length := by
    rw [← List.length_map List.length, hpadded]
  have hline := rowLine_eq hne hlength
  have hdrop (column width : Nat) (h : widths[column]? = some width) :
      (rowLine widths cells).drop (columnStart widths column) = padCell width (cellAt cells column) ++
        ' ' :: (framed '|' [' '] ((List.zipWith padCell widths cells).drop (column + 1)) ++ ['|']) := by
    obtain ⟨hcolumn, rfl⟩ := List.getElem?_eq_some_iff.mp h
    have hcell : cellAt cells column = cells[column] := List.getD_eq_getElem _ _ (hlength ▸ hcolumn)
    have hshown := drop_columnStart (hcount ▸ hcolumn)
    rwa [hpadded, ← hline, List.getElem_zipWith, ← hcell] at hshown
  refine ⟨?_, rfl, hfits, fun column width h => ?_, fun column width h => ?_⟩
  · rw [hline, List.length_append, length_framed, hpadded, hcount]
    rfl
  · rw [hdrop column width h, List.take_left' (length_padCell (hfits column width h))]
    rfl
  · rw [← List.drop_drop, hdrop column width h, List.drop_left' (length_padCell (hfits column width h))]
    by_cases hlast : column + 1 < widths.length
    · rw [if_pos hlast, List.drop_eq_getElem_cons (hcount ▸ hlast)]
      rfl
    · rw [if_neg hlast, List.drop_eq_nil_of_le (hcount ▸ Nat.not_lt.mp hlast)]
      rfl

end Fitting

/-- Two dashes more in each column. -/
theorem sum_map_add_two (widths : List Nat) : (widths.map (· + 2)).sum = widths.sum + 2 * widths.length := by
  induction widths with
  | nil => rfl
  | cons width rest ih =>
    rw [List.map_cons, List.sum_cons, List.sum_cons, List.length_cons, ih]
    omega

/-- The line above and below the headers is as long as the lines of rows. -/
theorem length_borderLine {widths : List Nat} (hne : widths ≠ []) :
    (borderLine widths).length = widths.sum + 3 * widths.length + 1 := by
  rw [borderLine_eq hne, List.length_append, length_framed, List.map_map, List.length_map, Function.comp_def]
  simp only [List.length_replicate, sum_map_add_two, List.length_nil, List.length_cons]
  omega

/-! ## Widths of columns -/

/-- Starting with some widths, columns become as wide as the widest cell of the rows, and no wider than that. -/
theorem isLeast_foldl_max {widths : List Nat} {rows : List (List (List Char))}
    (hlength : ∀ row ∈ rows, row.length = widths.length) :
    let wide := rows.foldl (fun widths row => List.zipWith max widths (row.map List.length)) widths
    wide.length = widths.length ∧
      ∀ column, IsLeast {width | widths.getD column 0 ≤ width ∧ ∀ row ∈ rows, (cellAt row column).length ≤ width}
        (wide.getD column 0) := by
  induction rows generalizing widths with
  | nil =>
    refine ⟨rfl, fun column => ⟨⟨Nat.le_refl _, fun row hrow => (nomatch hrow)⟩, fun width hwidth => hwidth.1⟩⟩
  | cons row rest ih =>
    obtain ⟨hrow, hrest⟩ := List.forall_mem_cons.mp hlength
    have hstep : (List.zipWith max widths (row.map List.length)).length = widths.length := by
      rw [List.length_zipWith, List.length_map, hrow, Nat.min_self]
    obtain ⟨hcount, hleast⟩ := ih fun other hother => (hrest other hother).trans hstep.symm
    refine ⟨hcount.trans hstep, fun column => ?_⟩
    have hmax : (List.zipWith max widths (row.map List.length)).getD column 0 =
        max (widths.getD column 0) (cellAt row column).length := by
      by_cases h : column < widths.length
      · rw [List.getD_eq_getElem _ _ (hstep ▸ h), List.getD_eq_getElem _ _ h, List.getElem_zipWith, List.getElem_map,
          cellAt, List.getD_eq_getElem _ _ (hrow ▸ h)]
      · rw [List.getD_eq_default _ _ (hstep ▸ Nat.not_lt.mp h), List.getD_eq_default _ _ (Nat.not_lt.mp h), cellAt,
          List.getD_eq_default _ _ (hrow ▸ Nat.not_lt.mp h)]
        rfl
    have hset : {width | widths.getD column 0 ≤ width ∧ ∀ other ∈ row :: rest, (cellAt other column).length ≤ width} =
        {width | (List.zipWith max widths (row.map List.length)).getD column 0 ≤ width ∧
          ∀ other ∈ rest, (cellAt other column).length ≤ width} := by
      ext width
      rw [Set.mem_ofPred_eq, Set.mem_ofPred_eq, hmax, Nat.max_le, List.forall_mem_cons, and_assoc]
    rw [hset]
    exact hleast column

/-- Widths of the columns of a table, whose rows are cut or filled first. -/
def tableWidths (headers : List (List Char)) (rows : List (List (List Char))) : List Nat :=
  columnWidths headers (rows.map (fitRow headers.length))

section Table

variable {headers : List (List Char)} {rows : List (List (List Char))}

/-- The rows of a table were cut or filled to the number of its headers. -/
theorem length_of_mem_fitted (headers : List (List Char)) (rows : List (List (List Char))) :
    ∀ row ∈ rows.map (fitRow headers.length), row.length = (headers.map List.length).length := by
  intro row hrow
  obtain ⟨source, -, rfl⟩ := List.mem_map.mp hrow
  rw [length_fitRow, List.length_map]

/-- A table has a column for each header. -/
theorem length_tableWidths : (tableWidths headers rows).length = headers.length :=
  (isLeast_foldl_max (length_of_mem_fitted headers rows)).1.trans (List.length_map _)

/-- A table with headers has columns. -/
theorem tableWidths_ne_nil (h : headers ≠ []) : tableWidths headers rows ≠ [] := by
  rw [← List.length_pos_iff_ne_nil, length_tableWidths]
  exact List.length_pos_iff_ne_nil.mpr h

/-- Columns are as wide as the widest header or cell, and no wider than that. -/
theorem isLeast_tableWidths {column width : Nat} (hwidth : (tableWidths headers rows)[column]? = some width) :
    IsLeast {width | (cellAt headers column).length ≤ width ∧ ∀ row ∈ rows, (cellAt row column).length ≤ width}
      width := by
  obtain ⟨hcolumn, rfl⟩ := List.getElem?_eq_some_iff.mp hwidth
  have hleast := (isLeast_foldl_max (length_of_mem_fitted headers rows)).2 column
  have hheader : (headers.map List.length).getD column 0 = (cellAt headers column).length :=
    List.getD_map headers [] List.length
  have hset : {width | (cellAt headers column).length ≤ width ∧ ∀ row ∈ rows, (cellAt row column).length ≤ width} =
      {width | (headers.map List.length).getD column 0 ≤ width ∧
        ∀ row ∈ rows.map (fitRow headers.length), (cellAt row column).length ≤ width} := by
    ext width
    rw [Set.mem_ofPred_eq, Set.mem_ofPred_eq, hheader, List.forall_mem_map]
    simp only [cellAt_fitRow _ (length_tableWidths ▸ hcolumn)]
  rw [hset, ← List.getD_eq_getElem (tableWidths headers rows) 0 hcolumn]
  exact hleast

/-! ## Tables -/

/-- The lines of a table with headers are those of the headers and of the rows, with borders around each of the two. -/
theorem lines_eq (h : headers ≠ []) (rows : List (List (List Char))) :
    lines headers rows =
      borderLine (tableWidths headers rows) :: rowLine (tableWidths headers rows) headers ::
        borderLine (tableWidths headers rows) ::
          (rows.map (fun row => rowLine (tableWidths headers rows) (fitRow headers.length row)) ++
            [borderLine (tableWidths headers rows)]) := by
  have hempty : headers.isEmpty = false := List.isEmpty_eq_false_iff.mpr h
  simp only [lines, hempty, Bool.false_eq_true, if_false, List.map_map]
  rfl

/-- What holds of the border and of the lines of the headers and of the rows holds of all lines of a table. -/
theorem forall_mem_lines {p : List Char → Prop} (h : headers ≠ []) (hborder : p (borderLine (tableWidths headers rows)))
    (hheader : p (rowLine (tableWidths headers rows) headers))
    (hrows : ∀ row ∈ rows, p (rowLine (tableWidths headers rows) (fitRow headers.length row))) :
    ∀ line ∈ lines headers rows, p line := by
  rw [lines_eq h, List.forall_mem_cons, List.forall_mem_cons, List.forall_mem_cons, List.forall_mem_append,
    List.forall_mem_map, List.forall_mem_singleton]
  exact ⟨hborder, hheader, hborder, hrows, hborder⟩

/-- The line of the headers shows them in the columns. -/
theorem shows_headers (h : headers ≠ []) :
    Shows (tableWidths headers rows) (cellAt headers) (rowLine (tableWidths headers rows) headers) :=
  shows_rowLine length_tableWidths.symm (fun _ _ hwidth => (isLeast_tableWidths hwidth).1.1) (tableWidths_ne_nil h)

/-- The line of a row shows its cells in the columns. -/
theorem shows_row (h : headers ≠ []) {row : List (List Char)} (hrow : row ∈ rows) :
    Shows (tableWidths headers rows) (cellAt row)
      (rowLine (tableWidths headers rows) (fitRow headers.length row)) := by
  have hcell (column : Nat) (hcolumn : column < (tableWidths headers rows).length) :
      cellAt (fitRow headers.length row) column = cellAt row column :=
    cellAt_fitRow row (length_tableWidths ▸ hcolumn)
  have hfits (column width : Nat) (hwidth : (tableWidths headers rows)[column]? = some width) :
      (cellAt (fitRow headers.length row) column).length ≤ width := by
    rw [hcell column (List.getElem?_eq_some_iff.mp hwidth).1]
    exact (isLeast_tableWidths hwidth).1.2 row hrow
  exact (shows_rowLine ((length_fitRow _ row).trans length_tableWidths.symm) hfits (tableWidths_ne_nil h)).congr hcell

/-! ## Printing -/

/-- Framed texts have no characters but those of the texts, of the filling and of the edge. -/
theorem notMem_framed {c edge : Char} {filling : List Char} {texts : List (List Char)} (hedge : c ≠ edge)
    (hfilling : c ∉ filling) (htexts : ∀ text ∈ texts, c ∉ text) : c ∉ framed edge filling texts ++ [edge] := by
  intro hc
  simp only [framed, List.mem_append, List.mem_flatMap, List.mem_cons, List.not_mem_nil, or_false] at hc
  obtain ⟨text, htext, heq | (hc | hc) | hc⟩ | heq := hc
  · exact hedge heq
  · exact hfilling hc
  · exact htexts text htext hc
  · exact hfilling hc
  · exact hedge heq

/-- A border has no escape characters. -/
theorem escape_notMem_borderLine {widths : List Nat} (hne : widths ≠ []) : '\x1b' ∉ borderLine widths := by
  rw [borderLine_eq hne]
  refine notMem_framed (by decide) List.not_mem_nil fun text htext hc => ?_
  obtain ⟨width, -, rfl⟩ := List.mem_map.mp htext
  cases List.eq_of_mem_replicate hc

/-- Without escape characters in its cells, the line of a row has none. -/
theorem escape_notMem_rowLine {widths : List Nat} {cells : List (List Char)} (hne : widths ≠ [])
    (hlength : cells.length = widths.length) (h : ∀ cell ∈ cells, '\x1b' ∉ cell) : '\x1b' ∉ rowLine widths cells := by
  rw [rowLine_eq hne hlength, ← List.map_uncurry_zip_eq_zipWith]
  refine notMem_framed (by decide) (by decide) fun text htext hc => ?_
  obtain ⟨⟨width, cell⟩, hpair, rfl⟩ := List.mem_map.mp htext
  obtain hcell | hblank := List.mem_append.mp hc
  · exact h cell (List.of_mem_zip hpair).2 hcell
  · cases List.eq_of_mem_replicate hblank

/-- A table without escape characters in its texts is printed line by line as it is. -/
theorem print_eq (h : ∀ text ∈ headers ++ rows.flatten, '\x1b' ∉ text) :
    print headers rows = (lines headers rows).flatMap (· ++ ['\n']) := by
  by_cases hempty : headers = []
  · rw [hempty]
    rfl
  have hne : tableWidths headers rows ≠ [] := tableWidths_ne_nil hempty
  have hrow (row : List (List Char)) (hmem : row ∈ rows) :
      '\x1b' ∉ rowLine (tableWidths headers rows) (fitRow headers.length row) := by
    refine escape_notMem_rowLine hne ((length_fitRow _ row).trans length_tableWidths.symm) fun cell hcell => ?_
    obtain hcell | hblank := List.mem_append.mp (List.mem_of_mem_take hcell)
    · exact h cell (List.mem_append_right _ (List.mem_flatten.mpr ⟨row, hmem, hcell⟩))
    · rw [List.eq_of_mem_replicate hblank]
      exact List.not_mem_nil
  have hlines : ∀ line ∈ lines headers rows, '\x1b' ∉ line :=
    forall_mem_lines hempty (escape_notMem_borderLine hne)
      (escape_notMem_rowLine hne length_tableWidths.symm fun cell hcell => h cell (List.mem_append_left _ hcell)) hrow
  exact List.flatMap_congr fun line hline => congrArg (· ++ ['\n'])
    (Text.withoutControls_eq_self line (hlines line hline))

end Table

/-- A table without headers has no lines. One with headers has a width for each column, the least one that no header or
cell of the column exceeds, and four lines more than rows: a border, the line of the headers, the border, the lines of
the rows in their order and the border. All of them have the length of the widths with three characters for each column
and one more. The line of the headers and that of each row show in every column, at its place, the whole header or cell,
or nothing where the row has none, filled with blanks to the width; besides they have nothing but bars and blanks
between columns and at both ends. Where no text has an escape character, printing echoes the lines as they are, each
with a line end. -/
theorem columns_aligned (headers : List (List Char)) (rows : List (List (List Char))) :
    (headers = [] → lines headers rows = []) ∧
    (headers ≠ [] → ∃ widths : List Nat, widths.length = headers.length ∧
      (∀ column width, widths[column]? = some width →
        IsLeast {width | (cellAt headers column).length ≤ width ∧ ∀ row ∈ rows, (cellAt row column).length ≤ width}
          width) ∧
      (lines headers rows).length = rows.length + 4 ∧
      (∀ line ∈ lines headers rows, line.length = widths.sum + 3 * headers.length + 1) ∧
      ∃ border header body, lines headers rows = border :: header :: border :: (body ++ [border]) ∧
        Shows widths (cellAt headers) header ∧
        List.Forall₂ (fun row line => Shows widths (cellAt row) line) rows body) ∧
    ((∀ text ∈ headers ++ rows.flatten, '\x1b' ∉ text) →
      print headers rows = (lines headers rows).flatMap (· ++ ['\n'])) := by
  refine ⟨fun h => by rw [h]; rfl, fun h => ?_, print_eq⟩
  have hlines := lines_eq h rows
  have hbody : List.Forall₂ (fun row line => Shows (tableWidths headers rows) (cellAt row) line) rows
      (rows.map fun row => rowLine (tableWidths headers rows) (fitRow headers.length row)) := by
    rw [List.forall₂_map_right_iff, List.forall₂_same]
    exact fun row => shows_row h
  refine ⟨tableWidths headers rows, length_tableWidths, fun column width => isLeast_tableWidths, ?_, ?_, _, _, _,
    hlines, shows_headers h, hbody⟩
  · rw [hlines]
    simp only [List.length_cons, List.length_append, List.length_map, List.length_nil]
  · have hcount : (tableWidths headers rows).length = headers.length := length_tableWidths
    rw [← hcount]
    exact forall_mem_lines h (length_borderLine (tableWidths_ne_nil h)) (shows_headers h).length
      fun row hrow => (shows_row h hrow).length

/-- A table with one row that is too long and one that is too short. -/
theorem columns_aligned_ragged :
    let headers := ["ID".toList, "Name".toList]
    let rows := [["1".toList, "orders".toList, "dropped".toList], ["22".toList]]
    headers ≠ [] ∧ (∀ text ∈ headers ++ rows.flatten, '\x1b' ∉ text) ∧
      lines headers rows = ["+----+--------+".toList, "| ID | Name   |".toList, "+----+--------+".toList,
        "| 1  | orders |".toList, "| 22 |        |".toList, "+----+--------+".toList] ∧
      (lines headers rows).length = 6 ∧ print headers rows = (lines headers rows).flatMap (· ++ ['\n']) := by
  intro headers rows
  have hheaders : headers ≠ [] := by decide
  have htexts : ∀ text ∈ headers ++ rows.flatten, '\x1b' ∉ text := by decide
  obtain ⟨-, htable, hprinted⟩ := columns_aligned headers rows
  obtain ⟨widths, -, -, hcount, -⟩ := htable hheaders
  exact ⟨hheaders, htexts, by decide, hcount, hprinted htexts⟩

end ServiceTopology.BorderedTable
