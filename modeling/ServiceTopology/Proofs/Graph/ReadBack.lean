import ServiceTopology.Proofs.Schema.ReadBack
import ServiceTopology.Report.TopologyDocument

/-!
# Topologies read back

Decoding a written topology gives it back. A node is found again under its tag, so it keeps its kind and its
place, and ratios keep their exact value because they travel as text.

Only ratios are bounded: one with a part beyond the digit limit is never written. Integers of a topology stay
integers on the way, however large they are.
-/

namespace ServiceTopology

open Schema Text

/-- Metrics of a node are read back from among the members that every node has. -/
theorem NodeMetrics.ofMembers_members {metrics : NodeMetrics}
    (hnum : Writable metrics.averageResponseTime.num) (hden : Writable metrics.averageResponseTime.den)
    (kind id name type : Json) :
    NodeMetrics.ofMembers
      (("kind", kind) :: ("id", id) :: ("name", name) :: ("type", type) :: metrics.members) =
        .valid metrics := by
  simp [NodeMetrics.ofMembers, NodeMetrics.members, ratio_ratioText hnum hden]

/-- A node is read back under its tag. -/
theorem Node.ofJson_toJson {node : Node}
    (hratio : ∀ metrics, node.kind = .application metrics →
      Writable metrics.averageResponseTime.num ∧ Writable metrics.averageResponseTime.den) :
    Node.ofJson node.toJson = .valid node := by
  obtain ⟨id, name, type, kind⟩ := node
  cases kind with
  | application metrics =>
    obtain ⟨hnum, hden⟩ := hratio metrics rfl
    simp [Node.ofJson, Node.toJson, Node.ofTagged, Node.ofMembers, NodeKind.tag,
      NodeMetrics.ofMembers_members hnum hden]
  | conjectural => simp [Node.ofJson, Node.toJson, Node.ofTagged, Node.ofMembers, NodeKind.tag]
  | user => simp [Node.ofJson, Node.toJson, Node.ofTagged, Node.ofMembers, NodeKind.tag]

/-- A call is read back. -/
theorem Call.ofJson_toJson {call : Call} (hnum : Writable call.averageResponseTime.num)
    (hden : Writable call.averageResponseTime.den) : Call.ofJson call.toJson = .valid call := by
  simp [Call.ofJson, Call.toJson, record, ratio_ratioText hnum hden]

namespace Topology

/-- The average response time of an application node is one of the topology's ratios. -/
theorem mem_ratios_of_node {topology : Topology} {node : Node} {metrics : NodeMetrics}
    (hnode : node ∈ topology.nodes) (hkind : node.kind = .application metrics) :
    metrics.averageResponseTime ∈ topology.ratios :=
  List.mem_append_left _ (List.mem_filterMap.mpr ⟨node, hnode, by rw [hkind]⟩)

/-- The average response time of a call is one of the topology's ratios. -/
theorem mem_ratios_of_call {topology : Topology} {call : Call} (hcall : call ∈ topology.calls) :
    call.averageResponseTime ∈ topology.ratios :=
  List.mem_append_right _ (List.mem_map_of_mem hcall)

/-- A topology whose ratios are writable is read back from what it is written as. -/
theorem ofJson_toJson {topology : Topology}
    (hratios : ∀ q ∈ topology.ratios, Writable q.num ∧ Writable q.den) :
    Topology.ofJson topology.toJson = .valid topology := by
  have hnodes : list Node.ofJson (.arr (topology.nodes.map Node.toJson)) = .valid topology.nodes :=
    list_map fun node hnode => Node.ofJson_toJson fun metrics hkind =>
      hratios _ (mem_ratios_of_node hnode hkind)
  have hcalls : list Call.ofJson (.arr (topology.calls.map Call.toJson)) = .valid topology.calls :=
    list_map fun call hcall =>
      have hratio := hratios _ (mem_ratios_of_call hcall)
      Call.ofJson_toJson hratio.1 hratio.2
  simp [Topology.ofJson, Topology.toJson, record, hnodes, hcalls]

/-- A topology whose ratios are writable is written, and what is written is decoded to the same topology. -/
theorem written_read_back {topology : Topology}
    (hratios : ∀ q ∈ topology.ratios, Writable q.num ∧ Writable q.den) :
    topology.written = .ok topology.toJson ∧ Topology.ofJson topology.toJson = .valid topology := by
  refine ⟨?_, ofJson_toJson hratios⟩
  have hall : (topology.ratios.all fun q => Text.Writable q.num && Text.Writable q.den) = true := by
    simpa using hratios
  rw [written, if_pos hall]

/-- A topology with every kind of node, a negative ratio and a call between nodes that differ from it. -/
def mixed : Topology :=
  { nodes :=
      [⟨1, "User", "USER", .user⟩,
        ⟨-2, "cart \x22α\x22", "Tomcat", .application ⟨98, -3, mkRat (-10) 3, 87, true, 2, 1, 0⟩⟩,
        ⟨3, "", "MySQL", .conjectural⟩]
    calls := [⟨1, "User", -2, "cart", "", 7, 0, false⟩, ⟨-2, "cart", 9, "gone", "JDBC", 0, mkRat 7 2, true⟩] }

/-- The topology with every kind of node is read back. -/
theorem written_read_back_mixed :
    (∀ q ∈ mixed.ratios, Writable q.num ∧ Writable q.den) ∧
      mixed.written = .ok mixed.toJson ∧ Topology.ofJson mixed.toJson = .valid mixed := by
  have hratios : ∀ q ∈ mixed.ratios, Writable q.num ∧ Writable q.den := by decide +kernel
  exact ⟨hratios, written_read_back hratios⟩

end Topology

end ServiceTopology
