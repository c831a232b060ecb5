import ServiceTopology.Graph.Topology
import ServiceTopology.Json.Printer

/-!
# Topologies as documents

Print a topology as an indented JSON document. The ratios in it are texts of exact quotients, so a ratio
with a part beyond the digit limit has no text; it is found before anything is printed.

An integer beyond the limit is found only where it would be printed.
-/

namespace ServiceTopology

namespace Topology

/-- Ratios of the nodes and of the calls. -/
def ratios (topology : Topology) : List Rat :=
  (topology.nodes.filterMap fun node =>
    match node.kind with
    | .application metrics => some metrics.averageResponseTime
    | .conjectural => none
    | .user => none) ++ topology.calls.map (·.averageResponseTime)

/-- Write a topology whose ratios stay within the digit limit. -/
def written (topology : Topology) : Except PrintFault Json :=
  if topology.ratios.all fun q => Text.Writable q.num && Text.Writable q.den then .ok topology.toJson
  else .error .integerTooLong

end Topology

/-- Print a topology as a document. -/
def printDocument (topology : Topology) : Printed :=
  match topology.written with
  | .ok value => value.document
  | .error fault => ⟨[], some fault⟩

end ServiceTopology
