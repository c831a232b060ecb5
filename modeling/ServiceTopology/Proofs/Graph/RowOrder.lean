import Mathlib.Data.List.Nodup
import ServiceTopology.Proofs.Graph.NodeIdentity

/-!
# The order of the rows

The stores hand out the rows of a window in no particular order, and a build keeps the first node that it meets
for an id. The calls, the nodes of the metric rows and the ids of all nodes do not depend on the order of the
rows; names and types of nodes may.

Whether a discovered id is shown as an application or as a conjectured endpoint depends on the order in one
case only: when some caller row comes from the id and another one calls it as an address of its own. Such an
id is called contested here. Caller rows are all met before callee rows, so between these two no order is
left to choose.
-/

namespace ServiceTopology

/-- The ids of the nodes with the tags of their kinds. -/
def Topology.kinds (topology : Topology) : List (Int × String) :=
  topology.nodes.map fun node => (node.id, node.kind.tag)

/-- Test whether a caller row may discover its target: an address without an alias. -/
def BuildContext.discoversTarget (context : BuildContext) (row : ReferenceRow) : Bool :=
  (context.known row.target).isAddress && !context.aliases.contains (context.known row.target).id

namespace Measurements

/-- Rows of the same window with the traffic in another order: metric rows, caller rows and callee rows are
permuted each on their own. -/
structure Reordered (rows other : Measurements) : Prop where
  window : other.window = rows.window
  components : other.components = rows.components
  mappings : other.mappings = rows.mappings
  metrics : other.metrics.Perm rows.metrics
  callers : other.callers.Perm rows.callers
  callees : other.callees.Perm rows.callees

/-- An id is contested when it is found both for the source of a kept caller row and for a target that such a
row may discover. -/
def Contested (rows : Measurements) (settings : Settings) (services : Services) (id : Int) : Prop :=
  let context := BuildContext.of settings services rows
  (∃ row ∈ rows.keptCallers settings, (context.known row.source).id = id) ∧
    ∃ row ∈ rows.keptCallers settings,
      context.discoversTarget row = true ∧ (context.known row.target).id = id

/-- With keyed lookups an id is contested when a kept caller row has it as its source and one has it as its
target, while it is that of a registered address without an alias. -/
theorem contested_iff (rows : Measurements) (settings : Settings) {services : Services}
    (hkeyed : services.Keyed) (id : Int) :
    rows.Contested settings services id ↔
      (∃ row ∈ rows.keptCallers settings, row.source = id) ∧
        ∃ row ∈ rows.keptCallers settings,
          row.target = id ∧ services.isAddress id = true ∧ rows.hasAlias id = false := by
  have hid (id : Int) : ((BuildContext.of settings services rows).known id).id = id :=
    BuildContext.known_id hkeyed id
  have halias (id : Int) : (BuildContext.of settings services rows).aliases.contains id =
      rows.hasAlias id := contains_aliasTable rows.mappings id
  simp only [Contested, BuildContext.discoversTarget, BuildContext.known_isAddress,
    BuildContext.of_services, hid, halias, Bool.and_eq_true, Bool.not_eq_true']
  refine and_congr_right fun _ => exists_congr fun row => and_congr_right fun _ => ?_
  constructor
  · rintro ⟨haddress, rfl⟩
    exact ⟨rfl, haddress⟩
  · rintro ⟨rfl, haddress⟩
    exact ⟨haddress, rfl⟩

end Measurements

/-! ## Kinds of the mentioned nodes -/

namespace BuildContext

variable (context : BuildContext) {row : ReferenceRow} {node : Node}

/-- A caller row mentions its source as an application and a target that it may discover as conjectural. -/
theorem tag_of_mem_callerNodes (h : node ∈ context.callerNodes row) :
    node.kind.tag = "application" ∧ (context.known row.source).id = node.id ∨
      node.kind.tag = "conjectural" ∧ context.discoversTarget row = true ∧
        (context.known row.target).id = node.id := by
  rw [callerNodes, callerMentions, List.mem_append, List.mem_singleton] at h
  obtain htarget | rfl := h
  · split at htarget
    next hdiscovers =>
      rw [List.mem_singleton] at htarget
      subst htarget
      exact Or.inr ⟨rfl, hdiscovers, rfl⟩
    next => cases htarget
  · exact Or.inl ⟨rfl, rfl⟩

/-- The id of a node that a callee row mentions decides between the users and a conjectured endpoint. -/
theorem tag_of_mem_calleeNodes (h : node ∈ context.calleeNodes row) :
    node.kind.tag = if node.id = context.settings.noneApplicationId then "user" else "conjectural" := by
  rw [calleeNodes, calleeMentions] at h
  split at h
  · rw [List.mem_singleton] at h
    subst h
    exact (if_pos rfl).symm
  next husers =>
    split at h
    · rw [List.mem_singleton] at h
      subst h
      exact (if_neg husers).symm
    · cases h

end BuildContext

namespace Measurements

section Rows

variable (rows : Measurements) (settings : Settings) (services : Services)

/-- The caller rows agree on the kind of an id that is not contested. -/
theorem callerNodes_share_tag {id : Int} (hfree : ¬rows.Contested settings services id) :
    ∀ first ∈ rows.callerNodes settings services, ∀ second ∈ rows.callerNodes settings services,
      first.id = id → second.id = id → first.kind.tag = second.kind.tag := by
  intro first hfirst second hsecond hid hid'
  obtain ⟨row, hrow, hnode⟩ := List.mem_flatMap.mp hfirst
  obtain ⟨row', hrow', hnode'⟩ := List.mem_flatMap.mp hsecond
  obtain ⟨htag, hsource⟩ | ⟨htag, htarget⟩ := BuildContext.tag_of_mem_callerNodes _ hnode <;>
    obtain ⟨htag', hsource'⟩ | ⟨htag', htarget'⟩ := BuildContext.tag_of_mem_callerNodes _ hnode'
  · exact htag.trans htag'.symm
  · exact absurd ⟨⟨row, hrow, hid ▸ hsource⟩, ⟨row', hrow', hid' ▸ htarget'⟩⟩ hfree
  · exact absurd ⟨⟨row', hrow', hid' ▸ hsource'⟩, ⟨row, hrow, hid ▸ htarget⟩⟩ hfree
  · exact htag.trans htag'.symm

/-- The callee rows agree on the kind of every id. -/
theorem calleeNodes_share_tag {id : Int} :
    ∀ first ∈ rows.calleeNodes settings services, ∀ second ∈ rows.calleeNodes settings services,
      first.id = id → second.id = id → first.kind.tag = second.kind.tag := by
  intro first hfirst second hsecond hid hid'
  obtain ⟨row, -, hnode⟩ := List.mem_flatMap.mp hfirst
  obtain ⟨row', -, hnode'⟩ := List.mem_flatMap.mp hsecond
  rw [BuildContext.tag_of_mem_calleeNodes _ hnode, BuildContext.tag_of_mem_calleeNodes _ hnode', hid,
    hid']

/-- The discovered ids are the mentioned ones without a metric row. -/
theorem mem_ids_discoveredNodes (id : Int) :
    id ∈ (rows.discoveredNodes settings services).map (·.id) ↔
      id ∉ rows.metrics.map (·.id) ∧
        (id ∈ (rows.callerNodes settings services).map (·.id) ∨
          id ∈ (rows.calleeNodes settings services).map (·.id)) := by
  rw [discoveredNodes, mem_map_firstByKey_new, List.map_append, List.mem_append]

/-- A discovered id has the kind that the caller rows give it, or else the one that the callee rows do. -/
theorem mem_kinds_discoveredNodes (id : Int) (tag : String) :
    (id, tag) ∈ (rows.discoveredNodes settings services).map (fun node => (node.id, node.kind.tag)) ↔
      id ∉ rows.metrics.map (·.id) ∧
        (((rows.callerNodes settings services).find? (·.id == id)).map (·.kind.tag)).or
          (((rows.calleeNodes settings services).find? (·.id == id)).map (·.kind.tag)) = some tag := by
  rw [discoveredNodes, mem_map_firstByKey_tagged Node.id (·.kind.tag), find?_filter_new,
    List.find?_append]
  split
  next hmetric => simp [hmetric]
  next hmetric =>
    rw [Option.map_or]
    exact (and_iff_right hmetric).symm

/-- No id is discovered twice. -/
theorem nodup_kinds_discoveredNodes :
    ((rows.discoveredNodes settings services).map fun node => (node.id, node.kind.tag)).Nodup := by
  have hids : (((rows.discoveredNodes settings services).map fun node =>
      (node.id, node.kind.tag)).map Prod.fst).Nodup := by
    rw [List.map_map]
    exact nodup_map_firstByKey Node.id _
  exact List.Nodup.of_map Prod.fst hids

end Rows

/-! ## Reordered parts -/

namespace Reordered

variable {rows other : Measurements} (h : rows.Reordered other) (settings : Settings)
  (services : Services)

include h

/-- Reordered rows are processed in the same context. -/
theorem context_eq :
    BuildContext.of settings services other = BuildContext.of settings services rows := by
  simp only [BuildContext.of, h.window, h.components, h.mappings]

/-- The metric rows have the same ids. -/
theorem ids_metrics : (other.metrics.map (·.id)).Perm (rows.metrics.map (·.id)) :=
  h.metrics.map _

/-- The same caller rows are processed. -/
theorem keptCallers : (other.keptCallers settings).Perm (rows.keptCallers settings) :=
  h.callers.filter _

/-- The same callee rows are processed. -/
theorem narrowedCallees :
    (other.narrowedCallees settings services).Perm (rows.narrowedCallees settings services) := by
  unfold Measurements.narrowedCallees
  rw [h.context_eq]
  exact (h.callees.filter _).filter _

/-- The metric rows give the same nodes. -/
theorem metricNodes :
    (other.metricNodes settings services).Perm (rows.metricNodes settings services) := by
  unfold Measurements.metricNodes
  rw [h.context_eq]
  exact h.metrics.map _

/-- The caller rows mention the same nodes. -/
theorem callerNodes :
    (other.callerNodes settings services).Perm (rows.callerNodes settings services) := by
  unfold Measurements.callerNodes
  rw [h.context_eq]
  exact (h.keptCallers settings).flatMap_right _

/-- The callee rows mention the same nodes. -/
theorem calleeNodes :
    (other.calleeNodes settings services).Perm (rows.calleeNodes settings services) := by
  unfold Measurements.calleeNodes
  rw [h.context_eq]
  exact (h.narrowedCallees settings services).flatMap_right _

/-- The rows give the same calls. -/
theorem calls :
    (other.callerCalls settings services ++ other.calleeCalls settings services).Perm
      (rows.callerCalls settings services ++ rows.calleeCalls settings services) := by
  unfold callerCalls calleeCalls
  rw [h.context_eq]
  exact ((h.keptCallers settings).map _).append ((h.narrowedCallees settings services).map _)

/-- The same ids are discovered. -/
theorem mem_ids_discoveredNodes_iff (id : Int) :
    id ∈ (other.discoveredNodes settings services).map (·.id) ↔
      id ∈ (rows.discoveredNodes settings services).map (·.id) := by
  rw [mem_ids_discoveredNodes, mem_ids_discoveredNodes, h.ids_metrics.mem_iff,
    ((h.callerNodes settings services).map _).mem_iff,
    ((h.calleeNodes settings services).map _).mem_iff]

/-- Without contested ids the discovered nodes have the same kinds. -/
theorem kinds_discoveredNodes
    (hfree : ∀ id, rows.Contested settings services id → id ∈ rows.metrics.map (·.id)) :
    ((other.discoveredNodes settings services).map fun node => (node.id, node.kind.tag)).Perm
      ((rows.discoveredNodes settings services).map fun node => (node.id, node.kind.tag)) := by
  rw [List.perm_ext_iff_of_nodup (other.nodup_kinds_discoveredNodes settings services)
    (rows.nodup_kinds_discoveredNodes settings services)]
  rintro ⟨id, tag⟩
  rw [mem_kinds_discoveredNodes, mem_kinds_discoveredNodes, h.ids_metrics.mem_iff]
  refine and_congr_right fun hmetric => ?_
  have huncontested : ¬rows.Contested settings services id := fun hid => hmetric (hfree id hid)
  rw [map_find?_of_perm Node.id (·.kind.tag) (h.callerNodes settings services)
      (rows.callerNodes_share_tag settings services huncontested),
    map_find?_of_perm Node.id (·.kind.tag) (h.calleeNodes settings services)
      (rows.calleeNodes_share_tag settings services)]

end Reordered

end Measurements

/-- A build from reordered rows gives the same calls, the same nodes of metric rows and the same node ids, up
to their order. Its nodes have the same kinds, too, unless a contested id has no metric row; what contested
means for the ids in the rows is said last. -/
theorem row_order_independent (settings : Settings) (services : Services)
    (rows other : Measurements) (h : rows.Reordered other) :
    let before := (buildTopology settings services rows).value
    let after := (buildTopology settings services other).value
    after.calls.Perm before.calls ∧
      (after.nodes.take other.metrics.length).Perm (before.nodes.take rows.metrics.length) ∧
      (∀ id, id ∈ after.nodeIds ↔ id ∈ before.nodeIds) ∧
      ((∀ id, rows.Contested settings services id → id ∈ rows.metrics.map (·.id)) →
        after.kinds.Perm before.kinds) ∧
      (services.Keyed → ∀ id, rows.Contested settings services id ↔
        (∃ row ∈ rows.keptCallers settings, row.source = id) ∧
          ∃ row ∈ rows.keptCallers settings,
            row.target = id ∧ services.isAddress id = true ∧ rows.hasAlias id = false) := by
  have hlength (rows : Measurements) :
      rows.metrics.length = (rows.metricNodes settings services).length := by
    rw [Measurements.metricNodes, List.length_map]
  simp only [buildTopology_parts]
  refine ⟨h.calls settings services, ?metrics, ?ids, ?kinds,
    fun hkeyed => rows.contested_iff settings hkeyed⟩
  case metrics =>
    rw [hlength rows, hlength other, List.take_left, List.take_left]
    exact h.metricNodes settings services
  case ids =>
    intro id
    simp only [Topology.mem_nodeIds, List.map_append, List.mem_append]
    rw [((h.metricNodes settings services).map _).mem_iff,
      h.mem_ids_discoveredNodes_iff settings services]
  case kinds =>
    intro hfree
    simp only [Topology.kinds, List.map_append]
    exact ((h.metricNodes settings services).map _).append
      (h.kinds_discoveredNodes settings services hfree)

/-- The shop with the report of the users first. -/
def Measurements.shopReordered : Measurements :=
  { Measurements.shop with callees := Measurements.shop.callees.reverse }

/-- The graphs of the shop and of the reordered shop differ in their order only. -/
theorem row_order_independent_shop :
    Measurements.shop.Reordered .shopReordered ∧
      (∀ id, Measurements.shop.Contested .standard Stores.shop.services id →
        id ∈ Measurements.shop.metrics.map (·.id)) ∧
      let before := (buildTopology .standard Stores.shop.services .shop).value
      let after := (buildTopology .standard Stores.shop.services .shopReordered).value
      after.calls ≠ before.calls ∧ after.calls.Perm before.calls ∧
        after.kinds ≠ before.kinds ∧ after.kinds.Perm before.kinds := by
  have hreordered : Measurements.shop.Reordered .shopReordered :=
    ⟨rfl, rfl, rfl, .refl _, .refl _, List.reverse_perm _⟩
  have horder := row_order_independent .standard Stores.shop.services .shop .shopReordered hreordered
  obtain ⟨hcalls, -, -, hkinds, hcontested⟩ := horder
  -- The only caller of the shop is the application for orders, which has a metric row.
  have hfree (id : Int) (hid : Measurements.shop.Contested .standard Stores.shop.services id) :
      id ∈ Measurements.shop.metrics.map (·.id) := by
    obtain ⟨⟨row, hrow, rfl⟩, -⟩ := (hcontested Stores.shop.keyed_services id).mp hid
    obtain rfl := List.mem_singleton.mp hrow
    exact List.mem_singleton.mpr rfl
  exact ⟨hreordered, hfree, by decide +kernel, hcalls, by decide +kernel, hkinds hfree⟩

/-- A shop whose database is called and calls back: without a metric row its id is contested, and the order of
the two caller rows decides what it is shown as. -/
example :
    let called : ReferenceRow := ⟨2, 5, 40, 0, 500, 0⟩
    let calling : ReferenceRow := ⟨5, 2, 1, 0, 10, 0⟩
    let kinds callers :=
      (buildTopology .standard Stores.shop.services { Measurements.shop with callers }).value.kinds
    kinds [called, calling] = [(2, "application"), (5, "conjectural"), (6, "conjectural"), (1, "user")] ∧
      kinds [calling, called] =
        [(2, "application"), (5, "application"), (6, "conjectural"), (1, "user")] := by
  decide +kernel

end ServiceTopology
