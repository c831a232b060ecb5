import ServiceTopology.Proofs.Graph.CallRows
import ServiceTopology.Proofs.Graph.NodeIdentity

/-!
# Referential integrity

Calls and nodes of a built topology are produced apart and refer to each other by ids. A call comes from a
node; it reaches a node when a caller row reports an address that is shown under its own id. The names on both
ends of a call are those of the nodes with the ids.

The users are the exception to the names: their node has the name that the settings give it, whereas a call
shows what is known about their id. A call may reach an id without a node, which is not excluded here.
-/

namespace ServiceTopology

/-- A mentioned node that does not show the users has the name of its id. -/
theorem Measurements.mentionedNode_name (rows : Measurements) (settings : Settings) (services : Services)
    {mention : Mention} (hkind : (rows.mentionedNode settings services mention).kind ≠ .user) :
    (rows.mentionedNode settings services mention).name =
      (BuildContext.of settings services rows).nameOf mention.id := by
  rw [BuildContext.nameOf_eq]
  cases mention with
  | callerTarget id => rfl
  | callerSource id => rfl
  | calleeSource id target =>
    by_cases husers : id = settings.noneApplicationId
    · rw [husers, mentionedNode_users] at hkind
      exact absurd rfl hkind
    · rw [rows.mentionedNode_calleeSource settings services husers]
      rfl

section Build

variable (settings : Settings) (services : Services) (rows : Measurements)
  (hkeyed : services.Keyed)

include hkeyed

/-- A node of a build that does not show the users has the name of its id. -/
theorem name_of_mem_nodes {node : Node}
    (hnode : node ∈ (buildTopology settings services rows).value.nodes) (hkind : node.kind ≠ .user) :
    node.name = (BuildContext.of settings services rows).nameOf node.id := by
  rw [nodes_buildTopology settings services rows hkeyed, List.mem_append, List.mem_map,
    List.mem_map] at hnode
  obtain ⟨row, -, rfl⟩ | ⟨mention, -, rfl⟩ := hnode
  · obtain ⟨metrics, hmetric⟩ := value_metricNode settings services rows hkeyed row
    rw [hmetric]
  · rw [rows.mentionedNode_name settings services hkind, Measurements.mentionedNode_id]

/-- The nodes of a build have the ids of its metric rows and the mentioned ones. -/
theorem mem_ids_buildTopology (id : Int) :
    id ∈ (buildTopology settings services rows).value.nodes.map (·.id) ↔
      id ∈ rows.metrics.map (·.id) ∨ rows.Mentioned settings services id := by
  rw [ids_buildTopology settings services rows hkeyed, List.mem_append, rows.mem_ids_firstMentions]
  by_cases hmetric : id ∈ rows.metrics.map (·.id)
  · simp only [hmetric, true_or]
  · simp only [hmetric, false_or, not_false_eq_true, true_and]

/-- A call of a build has the names of its ends. -/
theorem names_of_mem_calls {call : Call}
    (hcall : call ∈ (buildTopology settings services rows).value.calls) :
    let context := BuildContext.of settings services rows
    call.sourceName = context.nameOf call.source ∧ call.targetName = context.nameOf call.target := by
  rw [calls_buildTopology settings services rows hkeyed, List.mem_append, List.mem_map,
    List.mem_map] at hcall
  obtain ⟨row, -, rfl⟩ | ⟨row, -, rfl⟩ := hcall
  · rw [callerRowCall_eq settings services rows hkeyed]
    exact ⟨rfl, rfl⟩
  · rw [calleeRowCall_eq settings services rows hkeyed]
    exact ⟨rfl, rfl⟩

/-- A call of a build comes from a mentioned id. -/
theorem mentioned_source_of_mem_calls {call : Call}
    (hcall : call ∈ (buildTopology settings services rows).value.calls) :
    rows.Mentioned settings services call.source := by
  rw [calls_buildTopology settings services rows hkeyed, List.mem_append, List.mem_map,
    List.mem_map] at hcall
  obtain ⟨row, hrow, rfl⟩ | ⟨row, hrow, rfl⟩ := hcall
  · rw [callerRowCall_eq settings services rows hkeyed]
    exact Or.inl ⟨row, hrow, rfl⟩
  · rw [calleeRowCall_eq settings services rows hkeyed]
    exact Or.inr (Or.inr ⟨row, hrow, rfl⟩)

/-- The call of a caller row stands where the row stands among the kept ones. -/
theorem getElem?_calls_buildTopology {i : Nat} {row : ReferenceRow}
    (hrow : (rows.keptCallers settings)[i]? = some row) :
    (buildTopology settings services rows).value.calls[i]? =
      some ((BuildContext.of settings services rows).callerRowCall row) := by
  obtain ⟨hi, -⟩ := List.getElem?_eq_some_iff.mp hrow
  rw [calls_buildTopology settings services rows hkeyed,
    List.getElem?_append_left (by rw [List.length_map]; exact hi), List.getElem?_map, hrow,
    Option.map_some]

/-- A target that is not named as a duplicate is shown under its own id. -/
theorem target_callerRowCall_of_noAlias {row : ReferenceRow}
    (halias : rows.hasAlias row.target = false) :
    ((BuildContext.of settings services rows).callerRowCall row).target = row.target := by
  have hlast : rows.mappings.findRev? (·.duplicateId == row.target) = none := by
    rw [List.findRev?_eq_find?_reverse, List.find?_eq_none]
    intro mapping hmapping
    rw [Measurements.hasAlias, List.any_eq_false] at halias
    exact halias mapping (List.mem_reverse.mp hmapping)
  rw [callerRowCall_eq settings services rows hkeyed, Measurements.shownId, hlast]
  rfl

end Build

/-- Every call of a build comes from a node, and a name on either end of it is the name of every node with the
id of that end, the node of the users excepted. A kept caller row whose target is a registered address without
an alias gives a call that reaches a node. -/
theorem calls_refer_to_nodes (settings : Settings) (services : Services) (registry : Registry)
    (rows : Measurements) :
    let services := services.withRegistry registry
    let topology := (buildTopology settings services rows).value
    (∀ call ∈ topology.calls,
      (∃ node ∈ topology.nodes, node.id = call.source) ∧
        (∀ node ∈ topology.nodes, node.id = call.source → node.kind ≠ .user →
          call.sourceName = node.name) ∧
        ∀ node ∈ topology.nodes, node.id = call.target → node.kind ≠ .user →
          call.targetName = node.name) ∧
      ∀ (i : Nat) (row : ReferenceRow), (rows.keptCallers settings)[i]? = some row →
        services.isAddress row.target = true → rows.hasAlias row.target = false →
          ∃ call : Call, topology.calls[i]? = some call ∧
            ∃ node ∈ topology.nodes, node.id = call.target := by
  intro keyed topology
  have hkeyed : keyed.Keyed := services.keyed_withRegistry registry
  have hnode (id : Int) (hid : rows.Mentioned settings keyed id) :
      ∃ node ∈ topology.nodes, node.id = id :=
    List.mem_map.mp ((mem_ids_buildTopology settings keyed rows hkeyed id).mpr (Or.inr hid))
  refine ⟨fun call hcall => ?_, fun i row hrow haddress halias => ?_⟩
  · obtain ⟨hsource, htarget⟩ := names_of_mem_calls settings keyed rows hkeyed hcall
    refine ⟨hnode _ (mentioned_source_of_mem_calls settings keyed rows hkeyed hcall), ?_, ?_⟩
    · intro node hmem hid hkind
      rw [hsource, name_of_mem_nodes settings keyed rows hkeyed hmem hkind, hid]
    · intro node hmem hid hkind
      rw [htarget, name_of_mem_nodes settings keyed rows hkeyed hmem hkind, hid]
  · refine ⟨_, getElem?_calls_buildTopology settings keyed rows hkeyed hrow, ?_⟩
    rw [target_callerRowCall_of_noAlias settings keyed rows hkeyed halias]
    exact hnode _ (Or.inr (Or.inl ⟨row, List.mem_of_getElem? hrow, rfl, haddress, halias⟩))

/-- In the shop the call of the orders to their database comes from the node of the orders and reaches the node
of the database, and both have the names that the call shows. -/
theorem calls_refer_to_nodes_shop :
    let topology := (buildTopology .standard Stores.shop.services .shop).value
    let call : Call := ⟨2, "orders", 5, "10.0.0.5:3306", "mysql-connector", 4, mkRat 25 2, false⟩
    call ∈ topology.calls ∧
      (∃ node ∈ topology.nodes, node.id = 2) ∧
        (∀ node ∈ topology.nodes, node.id = 2 → node.kind ≠ .user → node.name = "orders") ∧
        (∀ node ∈ topology.nodes, node.id = 5 → node.kind ≠ .user → node.name = "10.0.0.5:3306") ∧
        ∃ reached : Call, topology.calls[0]? = some reached ∧
          ∃ node ∈ topology.nodes, node.id = reached.target := by
  intro topology call
  have hcall : call ∈ topology.calls := by decide +kernel
  obtain ⟨hcalls, hrows⟩ :=
    calls_refer_to_nodes .standard Stores.shop.services Stores.shop.registry .shop
  obtain ⟨hsource, hsourceName, htargetName⟩ := hcalls call hcall
  refine ⟨hcall, hsource, fun node hnode hid hkind => (hsourceName node hnode hid hkind).symm,
    fun node hnode hid hkind => (htargetName node hnode hid hkind).symm, ?_⟩
  exact hrows 0 ⟨2, 5, 40, 0, 500, 0⟩ rfl (by decide) (by decide)

end ServiceTopology
