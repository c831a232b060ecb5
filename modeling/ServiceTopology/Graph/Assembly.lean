import ServiceTopology.Graph.Topology

/-!
# Assembling a topology

A topology under construction, with the ids of its nodes so far. Metric nodes are added whether their id
is new or not; a discovered node is added only when its id is new.

The ids of an assembly are meant to be those of its nodes; every operation here keeps that.
-/

namespace ServiceTopology

/-- Nodes and calls so far, and the ids of the nodes. -/
structure Assembly where
  nodes : List Node
  calls : List Call
  ids : List Int

namespace Assembly

/-- Nothing assembled yet. -/
def empty : Assembly := ⟨[], [], []⟩

/-- Add a node. -/
def addNode (assembly : Assembly) (node : Node) : Assembly :=
  { assembly with nodes := assembly.nodes ++ [node], ids := node.id :: assembly.ids }

/-- Add a node unless its id is known. -/
def discover (assembly : Assembly) (node : Node) : Assembly :=
  if assembly.ids.contains node.id then assembly else assembly.addNode node

/-- Discover nodes from left to right. -/
def discoverAll (assembly : Assembly) (nodes : List Node) : Assembly := nodes.foldl discover assembly

/-- Add a call. -/
def addCall (assembly : Assembly) (call : Call) : Assembly :=
  { assembly with calls := assembly.calls ++ [call] }

/-- The finished topology. -/
def topology (assembly : Assembly) : Topology := ⟨assembly.nodes, assembly.calls⟩

/-- A node with a known id is not added. -/
theorem discover_of_mem {assembly : Assembly} {node : Node} (h : node.id ∈ assembly.ids) :
    assembly.discover node = assembly := by simp [discover, h]

/-- A node with a new id is added. -/
theorem discover_of_not_mem {assembly : Assembly} {node : Node} (h : node.id ∉ assembly.ids) :
    assembly.discover node = assembly.addNode node := by simp [discover, h]

/-- Discovering nodes goes from the first one on to the others. -/
theorem discoverAll_cons (assembly : Assembly) (node : Node) (rest : List Node) :
    assembly.discoverAll (node :: rest) = (assembly.discover node).discoverAll rest := rfl

/-- Discovering two lists of nodes is discovering the second after the first. -/
theorem discoverAll_append (assembly : Assembly) (earlier later : List Node) :
    assembly.discoverAll (earlier ++ later) = (assembly.discoverAll earlier).discoverAll later :=
  List.foldl_append

/-- Discovering a node adds no calls. -/
theorem calls_discover (assembly : Assembly) (node : Node) :
    (assembly.discover node).calls = assembly.calls := by
  by_cases h : node.id ∈ assembly.ids
  · rw [discover_of_mem h]
  · rw [discover_of_not_mem h, addNode]

/-- Discovering nodes adds no calls. -/
theorem calls_discoverAll (assembly : Assembly) (nodes : List Node) :
    (assembly.discoverAll nodes).calls = assembly.calls := by
  induction nodes generalizing assembly with
  | nil => rfl
  | cons node rest ih => rw [discoverAll_cons, ih, calls_discover]

/-- Calls play no part in discovering a node. -/
theorem discover_withCalls (assembly : Assembly) (calls : List Call) (node : Node) :
    { assembly with calls }.discover node = { assembly.discover node with calls } := by
  by_cases h : node.id ∈ assembly.ids
  · rw [discover_of_mem h, discover_of_mem]
    exact h
  · rw [discover_of_not_mem h, discover_of_not_mem]
    · rfl
    · exact h

/-- Calls play no part in discovering nodes. -/
theorem discoverAll_withCalls (assembly : Assembly) (calls : List Call) (nodes : List Node) :
    { assembly with calls }.discoverAll nodes = { assembly.discoverAll nodes with calls } := by
  induction nodes generalizing assembly with
  | nil => rfl
  | cons node rest ih => rw [discoverAll_cons, discoverAll_cons, discover_withCalls, ih]

/-- When every item discovers nodes and then adds a call, the nodes are discovered in one sequence and the
calls follow one another, neither influencing the other. -/
theorem foldl_discoverAll_addCall {α : Type} (nodes : α → List Node) (call : α → Call)
    (items : List α) (assembly : Assembly) :
    items.foldl (fun assembly item => (assembly.discoverAll (nodes item)).addCall (call item))
        assembly =
      { assembly.discoverAll (items.flatMap nodes) with
        calls := assembly.calls ++ items.map call } := by
  induction items generalizing assembly with
  | nil => simp [discoverAll]
  | cons item rest ih =>
    rw [List.foldl_cons, ih, addCall, discoverAll_withCalls, List.flatMap_cons, discoverAll_append]
    simp [calls_discoverAll]

/-- The ids of an assembly are exactly those of its nodes. -/
def Coherent (assembly : Assembly) : Prop :=
  ∀ id, id ∈ assembly.ids ↔ id ∈ assembly.nodes.map (·.id)

/-- The empty assembly is coherent. -/
theorem coherent_empty : empty.Coherent := by simp [Coherent, empty]

/-- Adding a node keeps an assembly coherent. -/
theorem Coherent.addNode {assembly : Assembly} (h : assembly.Coherent) (node : Node) :
    (assembly.addNode node).Coherent := by
  intro id
  have hid := h id
  simp only [Assembly.addNode, List.map_append, List.mem_cons, List.mem_append, List.map_cons,
    List.map_nil, List.not_mem_nil, or_false]
  rw [hid, or_comm]

/-- Discovering a node keeps an assembly coherent. -/
theorem Coherent.discover {assembly : Assembly} (h : assembly.Coherent) (node : Node) :
    (assembly.discover node).Coherent := by
  unfold Assembly.discover
  split
  · exact h
  · exact h.addNode node

/-- Discovering nodes from left to right keeps an assembly coherent. -/
theorem Coherent.discoverAll {assembly : Assembly} (h : assembly.Coherent) (nodes : List Node) :
    (assembly.discoverAll nodes).Coherent := by
  induction nodes generalizing assembly with
  | nil => exact h
  | cons node rest ih => exact ih (h.discover node)

/-- Adding a call keeps an assembly coherent. -/
theorem Coherent.addCall {assembly : Assembly} (h : assembly.Coherent) (call : Call) :
    (assembly.addCall call).Coherent := h

/-- Asking a coherent assembly for an id answers what a scan of its nodes would. -/
theorem Coherent.contains_ids {assembly : Assembly} (h : assembly.Coherent) (id : Int) :
    assembly.ids.contains id = assembly.nodes.any (·.id == id) := by
  rw [Bool.eq_iff_iff, List.contains_iff_mem, h id]
  simp

end Assembly

end ServiceTopology
