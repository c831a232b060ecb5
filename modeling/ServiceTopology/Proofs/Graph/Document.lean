import ServiceTopology.Proofs.Graph.ReadBack
import ServiceTopology.Proofs.Json.Indented
import ServiceTopology.Proofs.Json.ReadBack

/-!
# Printed topologies

A topology within the digit limit is printed in full, as one JSON document with a line feed after it. The
document is read as the written topology, with and without the line feed, so that the printed text and the
topology determine each other.

Beyond the limit printing stops, and nothing is claimed of what was printed before.
-/

namespace ServiceTopology

open Json Text

/-! ## Nesting -/

/-- A written node is a single object. -/
theorem Node.fits_toJson (depth : Nat) (node : Node) : node.toJson.Fits (depth + 1) := by
  obtain ⟨id, name, type, kind⟩ := node
  cases kind with
  | application metrics => simp [Node.toJson, NodeMetrics.members]
  | conjectural => simp [Node.toJson]
  | user => simp [Node.toJson]

/-- A written call is a single object. -/
theorem Call.fits_toJson (depth : Nat) (call : Call) : call.toJson.Fits (depth + 1) := by
  simp [Call.toJson]

namespace Topology

/-- A written topology is an object of lists of objects. -/
theorem fits_toJson (depth : Nat) (topology : Topology) : topology.toJson.Fits (depth + 3) := by
  simp [Topology.toJson, Node.fits_toJson, Call.fits_toJson]

/-! ## Documents -/

/-- A topology whose integers stay within the digit limit, those in its ratios included. -/
structure Writable (topology : Topology) : Prop where
  integers : ∀ n ∈ topology.toJson.integers, Text.Writable n
  ratios : ∀ q ∈ topology.ratios, Text.Writable q.num ∧ Text.Writable q.den

/-- A text is a JSON document with containers at most three deep, and decoding its value gives the topology. -/
def ReadFrom (topology : Topology) (text : List Char) : Prop :=
  ∃ value, (∀ depth, Json.read (depth + 3) text = .ok value) ∧ Topology.ofJson value = .valid topology

/-- A topology within the digit limit is written. -/
theorem Writable.written_eq {topology : Topology} (h : topology.Writable) :
    topology.written = .ok topology.toJson := by
  have hall : (topology.ratios.all fun q => Text.Writable q.num && Text.Writable q.den) = true := by
    simpa using h.ratios
  rw [written, if_pos hall]

/-- A document of a written topology gives the topology. -/
theorem Writable.readFrom {topology : Topology} (h : topology.Writable) {text : List Char}
    (htext : ∀ depth, DocumentText (depth + 3) topology.toJson text) : topology.ReadFrom text :=
  ⟨topology.toJson, fun depth => read_documentText (htext depth) h.integers, ofJson_toJson h.ratios⟩

/-- A topology within the digit limit is printed as a document and a line feed, and is read from the document
with and without the line feed. -/
theorem Writable.exists_printed {topology : Topology} (h : topology.Writable) :
    ∃ text, printDocument topology = .ofText (text ++ ['\n']) ∧ topology.ReadFrom text ∧
      topology.ReadFrom (text ++ ['\n']) := by
  have hindented (depth : Nat) : IndentedAs (Spells (depth + 3)) 0 topology.toJson :=
    indentedAs_spells (fits_toJson depth topology) h.integers
  obtain ⟨text, htext, -⟩ := hindented 0
  -- What is printed does not depend on how deep a reader can follow.
  have hspells (depth : Nat) : Spells (depth + 3) topology.toJson text := by
    obtain ⟨other, hother, hspells⟩ := hindented depth
    obtain rfl : text = other := congrArg Printed.text (htext.symm.trans hother)
    exact hspells
  have hfeed : Gap ['\n'] := gap_newLine 0
  refine ⟨text, ?_,
    h.readFrom fun depth => ⟨[], [], text, gap_nil, gap_nil, hspells depth, (List.append_nil _).symm⟩,
    h.readFrom fun depth => ⟨[], ['\n'], text, gap_nil, hfeed, hspells depth, rfl⟩⟩
  simp only [printDocument, h.written_eq, document, htext, Printed.ofText_append_ofText]

end Topology

end ServiceTopology
