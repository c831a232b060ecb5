import ServiceTopology.Report.Printed
import ServiceTopology.Text.Terminal

/-!
# Bordered tables

Print rows of cells under headers, each column as wide as its widest cell. Rows are cut or filled with
blank cells to the number of headers; a table without headers prints nothing.

Widths count characters. Control sequences count for the width and are removed from a line only when it
is echoed.
-/

namespace ServiceTopology.BorderedTable

/-- Cut a row to a number of cells, or fill it with blank ones. -/
def fitRow (count : Nat) (row : List (List Char)) : List (List Char) :=
  (row ++ List.replicate count []).take count

/-- Widths of the columns of a table. -/
def columnWidths (headers : List (List Char)) (rows : List (List (List Char))) : List Nat :=
  rows.foldl (fun widths row => List.zipWith max widths (row.map List.length))
    (headers.map List.length)

/-- Fill a cell with blanks on the right. -/
def padCell (width : Nat) (cell : List Char) : List Char :=
  cell ++ List.replicate (width - cell.length) ' '

/-- Line of a row. -/
def rowLine (widths : List Nat) (cells : List (List Char)) : List Char :=
  '|' :: ' ' :: ([' ', '|', ' '].intercalate (List.zipWith padCell widths cells) ++ [' ', '|'])

/-- Line above and below the headers and at the end. -/
def borderLine (widths : List Nat) : List Char :=
  '+' :: (['+'].intercalate (widths.map fun width => List.replicate (width + 2) '-') ++ ['+'])

/-- Number of lines above the first row: the headers between two borders. -/
def headLines : Nat := 3

/-- Lines of a table. -/
def lines (headers : List (List Char)) (rows : List (List (List Char))) : List (List Char) :=
  if headers.isEmpty then []
  else
    let fitted := rows.map (fitRow headers.length)
    let widths := columnWidths headers fitted
    let border := borderLine widths
    border :: rowLine widths headers :: border :: (fitted.map (rowLine widths) ++ [border])

/-- Print a table. -/
def print (headers : List (List Char)) (rows : List (List (List Char))) : List Char :=
  (lines headers rows).flatMap Text.echo

end ServiceTopology.BorderedTable
