import ServiceTopology.Graph.Topology
import ServiceTopology.Report.Ratio
import ServiceTopology.Report.BorderedTable

/-!
# Topologies as tables

Print the nodes of a topology as one table and its calls as another one below it. Only application nodes
fill the columns of metrics.

All rows of a table are prepared before any of it is printed, and the calls only after the nodes were
printed. So a number that cannot be printed stops the report before its own table; a name with a surrogate that
stands alone stops it at the row of the name.
-/

namespace ServiceTopology

/-- Headers of the table of nodes. -/
def nodeHeaders : List String :=
  ["ID", "Kind", "Name", "Type", "SLA", "CPM", "Avg RT", "Apdex", "Alarm", "Servers"]

/-- Headers of the table of calls. -/
def callHeaders : List String := ["Source", "Target", "Call Type", "CPM", "Avg RT"]

/-- A cell of a table. -/
abbrev Cell := List CodePoint

/-- Cell with a string. -/
def cell (text : List Char) : Cell := text.map .char

/-- Cells of the metrics of a node. -/
def metricCells (metrics : NodeMetrics) : Except PrintFault (List Cell) := do
  let sla ← printInteger metrics.sla
  let cpm ← printInteger metrics.cpm
  let average ← printRatio metrics.averageResponseTime
  let apdex ← printInteger metrics.apdex
  let servers ← printInteger metrics.servers
  let alarm := if metrics.alarm then "yes" else "no"
  return [cell sla, cell cpm, cell average, cell apdex, cell alarm.toList, cell servers]

/-- Cells of a node. -/
def nodeCells (node : Node) : Except PrintFault (List Cell) := do
  let id ← printInteger node.id
  let head := [cell id, cell node.kind.tag.toList, node.name.codePoints, node.type.codePoints]
  match node.kind with
  | .application metrics => return head ++ (← metricCells metrics)
  | .conjectural => return head
  | .user => return head

/-- A name followed by an id in parentheses. -/
def nameAndId (name : WideText) (id : Int) : Except PrintFault Cell := do
  let digits ← printInteger id
  return name.codePoints ++ cell (' ' :: '(' :: (digits ++ [')']))

/-- Cells of a call. -/
def callCells (call : Call) : Except PrintFault (List Cell) := do
  let source ← nameAndId call.sourceName call.source
  let target ← nameAndId call.targetName call.target
  let cpm ← printInteger call.cpm
  let average ← printRatio call.averageResponseTime
  return [source, target, call.callType.codePoints, cell cpm, cell average]

/-- Print a table of rows, up to the first row in which a surrogate stands alone. -/
def printCells (headers : List String) (rows : List (List Cell)) : Printed :=
  let lines := BorderedTable.lines (headers.map String.toList) (rows.map fun row => row.map (·.map CodePoint.shown))
  match rows.findIdx? (·.any (·.any CodePoint.isSurrogate)) with
  | none => .ofText (lines.flatMap Text.echo)
  | some index => ⟨(lines.take (BorderedTable.headLines + index)).flatMap Text.echo, some .loneSurrogate⟩

/-- Print a table of things, each with its cells. -/
def printRows {α : Type} (headers : List String) (cells : α → Except PrintFault (List Cell))
    (things : List α) : Printed :=
  match things.mapM cells with
  | .ok rows => printCells headers rows
  | .error fault => ⟨[], some fault⟩

/-- Print a topology as two tables. -/
def printTopology (topology : Topology) : Printed :=
  printRows nodeHeaders nodeCells topology.nodes ++ printRows callHeaders callCells topology.calls

end ServiceTopology
