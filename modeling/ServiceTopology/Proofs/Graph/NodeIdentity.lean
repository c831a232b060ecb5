import ServiceTopology.Proofs.Graph.Mentions

/-!
# Node identity

How many nodes of a built topology carry an id: as many as there are metric rows for it, or else one when a
kept reference row mentions it. Metric rows with distinct ids therefore give nodes with distinct ids, and a
lookup by id finds the one node that there is.

That nothing is added twice rests on the ids that a build carries along. They are those of the nodes so far
at every point between two rows.
-/

namespace ServiceTopology

namespace Measurements

/-- An id is mentioned as the source of a kept caller row, as the target of one when it is that of a
registered address without an alias, or as the source of a kept callee row. -/
def Mentioned (rows : Measurements) (settings : Settings) (services : Services) (id : Int) : Prop :=
  (∃ row ∈ rows.keptCallers settings, row.source = id) ∨
    (∃ row ∈ rows.keptCallers settings,
      row.target = id ∧ services.isAddress id = true ∧ rows.hasAlias id = false) ∨
    ∃ row ∈ rows.keptCallees settings services, row.source = id

instance (rows : Measurements) (settings : Settings) (services : Services) (id : Int) :
    Decidable (rows.Mentioned settings services id) :=
  inferInstanceAs (Decidable (_ ∨ _ ∨ _))

/-- A caller row mentions its source, and its target when that is an address without an alias. -/
theorem mem_ids_callerMentions (rows : Measurements) (services : Services) (row : ReferenceRow)
    (id : Int) :
    id ∈ (rows.callerMentions services row).map Mention.id ↔
      row.source = id ∨
        row.target = id ∧ services.isAddress id = true ∧ rows.hasAlias id = false := by
  by_cases haddress : (services.isAddress row.target && !rows.hasAlias row.target) = true
  · have htarget : services.isAddress row.target = true ∧ rows.hasAlias row.target = false := by
      simpa using haddress
    simp only [callerMentions, if_pos haddress, List.map_cons, List.map_nil, Mention.id,
      List.cons_append, List.nil_append, List.mem_cons, List.not_mem_nil, or_false]
    constructor
    · rintro (rfl | rfl)
      · exact Or.inr ⟨rfl, htarget⟩
      · exact Or.inl rfl
    · rintro (rfl | ⟨rfl, -⟩)
      · exact Or.inr rfl
      · exact Or.inl rfl
  · simp only [callerMentions, if_neg haddress, List.nil_append, List.map_cons, List.map_nil,
      Mention.id, List.mem_cons, List.not_mem_nil, or_false]
    constructor
    · exact fun h => Or.inl h.symm
    · rintro (rfl | ⟨rfl, htarget⟩)
      · rfl
      · exact absurd (by simpa using htarget) haddress

/-- The ids of the mentions are the mentioned ones. -/
theorem mem_ids_mentions (rows : Measurements) (settings : Settings) (services : Services)
    (id : Int) :
    id ∈ (rows.mentions settings services).map Mention.id ↔ rows.Mentioned settings services id := by
  rw [mentions, List.map_append, List.mem_append, List.map_flatMap, List.mem_flatMap, List.map_map,
    List.mem_map]
  simp only [mem_ids_callerMentions]
  constructor
  · rintro (⟨row, hrow, hsource | htarget⟩ | hcallee)
    · exact Or.inl ⟨row, hrow, hsource⟩
    · exact Or.inr (Or.inl ⟨row, hrow, htarget⟩)
    · exact Or.inr (Or.inr hcallee)
  · rintro (⟨row, hrow, hsource⟩ | ⟨row, hrow, htarget⟩ | hcallee)
    · exact Or.inl ⟨row, hrow, Or.inl hsource⟩
    · exact Or.inl ⟨row, hrow, Or.inr htarget⟩
    · exact Or.inr hcallee

/-- The ids of the first mentions are the mentioned ones without a metric row. -/
theorem mem_ids_firstMentions (rows : Measurements) (settings : Settings) (services : Services)
    (id : Int) :
    id ∈ (rows.firstMentions settings services).map Mention.id ↔
      id ∉ rows.metrics.map (·.id) ∧ rows.Mentioned settings services id := by
  rw [firstMentions, mem_map_firstByKey_new, mem_ids_mentions]

end Measurements

section Build

variable (settings : Settings) (services : Services) (rows : Measurements)
  (hkeyed : services.Keyed)

include hkeyed

/-- An id has the nodes of its metric rows, or else one node when it is mentioned. -/
theorem count_ids_buildTopology (id : Int) :
    ((buildTopology settings services rows).value.nodes.map (·.id)).count id =
      if 0 < (rows.metrics.map (·.id)).count id then (rows.metrics.map (·.id)).count id
      else if rows.Mentioned settings services id then 1 else 0 := by
  have hnodup : ((rows.firstMentions settings services).map Mention.id).Nodup :=
    nodup_map_firstByKey _ _
  rw [ids_buildTopology settings services rows hkeyed, List.count_append, hnodup.count]
  simp only [rows.mem_ids_firstMentions]
  by_cases hmetric : id ∈ rows.metrics.map (·.id)
  · rw [if_pos (List.count_pos_iff.mpr hmetric), if_neg fun h => h.1 hmetric, Nat.add_zero]
  · simp only [List.count_eq_zero_of_not_mem hmetric, hmetric, not_false_eq_true, true_and]
    simp

/-- Metric rows with distinct ids give nodes with distinct ids. -/
theorem nodup_ids_buildTopology (hmetrics : (rows.metrics.map (·.id)).Nodup) :
    ((buildTopology settings services rows).value.nodes.map (·.id)).Nodup := by
  rw [ids_buildTopology settings services rows hkeyed, List.nodup_append]
  refine ⟨hmetrics, nodup_map_firstByKey _ _, ?_⟩
  rintro id hmetric _ hfirst rfl
  exact ((rows.mem_ids_firstMentions settings services id).mp hfirst).1 hmetric

end Build

namespace Topology

/-- The ids of a topology are those of its nodes. -/
theorem mem_nodeIds (topology : Topology) (id : Int) :
    id ∈ topology.nodeIds ↔ id ∈ topology.nodes.map (·.id) := List.mem_eraseDups

/-- A lookup finds nothing for an id without a node. -/
theorem getNode?_eq_none {topology : Topology} {id : Int} (h : id ∉ topology.nodeIds) :
    topology.getNode? id = none := by
  rw [getNode?, List.find?_eq_none]
  intro node hnode hid
  exact h ((topology.mem_nodeIds id).mpr (List.mem_map.mpr ⟨node, hnode, by simpa using hid⟩))

/-- When ids are distinct, a lookup finds the only node with an id. -/
theorem getNode?_of_nodup {topology : Topology} (hnodup : (topology.nodes.map (·.id)).Nodup)
    {id : Int} (h : id ∈ topology.nodeIds) :
    ∃ node, topology.nodes.filter (·.id == id) = [node] ∧ topology.getNode? id = some node := by
  have hcount : (topology.nodes.map (·.id)).count id = 1 :=
    hnodup.count.trans (if_pos ((topology.mem_nodeIds id).mp h))
  have hlength : (topology.nodes.filter (·.id == id)).length = 1 := by
    rw [← hcount, List.count, List.countP_map, List.countP_eq_length_filter]
    rfl
  obtain ⟨node, hnode⟩ := List.length_eq_one_iff.mp hlength
  refine ⟨node, hnode, ?_⟩
  rw [getNode?, ← List.head?_filter, hnode]
  rfl

end Topology

/-- Between any two rows of a build the ids that it carries along answer what a scan of its nodes would. In
the topology an id has as many nodes as metric rows, or else one when it is mentioned. So distinct ids of
metric rows make the ids of all nodes distinct, and a lookup finds the one node with an id. -/
theorem node_identity (settings : Settings) (services : Services) (registry : Registry)
    (rows : Measurements) :
    let services := services.withRegistry registry
    let context := BuildContext.of settings services rows
    let sequence := rows.rowSequence settings services
    let topology := (buildTopology settings services rows).value
    topology = (context.assemble sequence).value.topology ∧
      (∀ done, done <+: sequence → ∀ id,
        let assembly := (context.assemble done).value
        assembly.ids.contains id = assembly.nodes.any (·.id == id)) ∧
      (∀ id, (topology.nodes.map (·.id)).count id =
        if 0 < (rows.metrics.map (·.id)).count id then (rows.metrics.map (·.id)).count id
        else if rows.Mentioned settings services id then 1 else 0) ∧
      ((rows.metrics.map (·.id)).Nodup →
        (topology.nodes.map (·.id)).Nodup ∧
          ∀ id, if id ∈ topology.nodeIds then
              ∃ node, topology.nodes.filter (·.id == id) = [node] ∧ topology.getNode? id = some node
            else topology.getNode? id = none) := by
  intro keyed context sequence topology
  have hkeyed : keyed.Keyed := services.keyed_withRegistry registry
  refine ⟨value_buildTopology settings keyed rows hkeyed, fun done _ id => ?_,
    count_ids_buildTopology settings keyed rows hkeyed, fun hmetrics => ?_⟩
  · exact (context.coherent_assemble done).contains_ids id
  · have hnodup : (topology.nodes.map (·.id)).Nodup :=
      nodup_ids_buildTopology settings keyed rows hkeyed hmetrics
    refine ⟨hnodup, fun id => ?_⟩
    by_cases h : id ∈ topology.nodeIds
    · rw [if_pos h]
      exact Topology.getNode?_of_nodup hnodup h
    · rw [if_neg h]
      exact Topology.getNode?_eq_none h

end ServiceTopology
