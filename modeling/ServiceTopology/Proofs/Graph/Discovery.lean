import ServiceTopology.Proofs.FirstByKey
import ServiceTopology.Proofs.Graph.RowSequence

/-!
# The parts of a build

The nodes of a built topology are those of its metric rows followed by the discovered ones, and its calls are
those of the caller rows followed by those of the callee rows. Each part is given here by what one row
contributes, so that two builds can be compared row by row.

Nothing is assumed about the services: a lookup may give an application with another id than the one that
was asked for.
-/

namespace ServiceTopology

/-- Discovering nodes adds the first one with each new id. -/
theorem Assembly.Coherent.nodes_discoverAll {assembly : Assembly} (h : assembly.Coherent)
    (nodes : List Node) :
    (assembly.discoverAll nodes).nodes =
      assembly.nodes ++ firstByKey Node.id (nodes.filter fun node =>
        !(assembly.nodes.map (·.id)).contains node.id) := by
  induction nodes generalizing assembly with
  | nil => exact (List.append_nil _).symm
  | cons node rest ih =>
    by_cases hknown : node.id ∈ assembly.ids
    · rw [discoverAll_cons, discover_of_mem hknown, ih h, List.filter_cons_of_neg]
      simpa using (h node.id).mp hknown
    · have hnew : (rest.filter fun other => !((assembly.addNode node).nodes.map (·.id)).contains other.id) =
          (rest.filter fun other => !(assembly.nodes.map (·.id)).contains other.id).filter
            fun other => other.id != node.id := by
        rw [List.filter_filter]
        congr 1
        funext other
        rw [Bool.eq_iff_iff]
        simp [Assembly.addNode, and_comm]
      rw [discoverAll_cons, discover_of_not_mem hknown, ih (h.addNode node), List.filter_cons_of_pos,
        firstByKey_cons, hnew, Assembly.addNode, List.append_assoc]
      · rfl
      · simpa using fun hnode => hknown ((h node.id).mpr hnode)

namespace Measurements

variable (rows : Measurements) (settings : Settings) (services : Services)

/-- Nodes of the metric rows. -/
def metricNodes : List Node :=
  rows.metrics.map fun row => ((BuildContext.of settings services rows).metricNode row).value

/-- Nodes that the processed caller rows mention. -/
def callerNodes : List Node :=
  (rows.keptCallers settings).flatMap (BuildContext.of settings services rows).callerNodes

/-- Nodes that the processed callee rows mention. -/
def calleeNodes : List Node :=
  (rows.narrowedCallees settings services).flatMap
    (BuildContext.of settings services rows).calleeNodes

/-- The first mentioned node of every id without a metric row. -/
def discoveredNodes : List Node :=
  firstByKey Node.id ((rows.callerNodes settings services ++ rows.calleeNodes settings services).filter
    fun node => !(rows.metrics.map (·.id)).contains node.id)

/-- Calls of the processed caller rows. -/
def callerCalls : List Call :=
  (rows.keptCallers settings).map (BuildContext.of settings services rows).callerRowCall

/-- Calls of the processed callee rows. -/
def calleeCalls : List Call :=
  (rows.narrowedCallees settings services).map (BuildContext.of settings services rows).calleeRowCall

/-- The nodes of the metric rows carry the ids of the rows. -/
theorem ids_metricNodes :
    (rows.metricNodes settings services).map (·.id) = rows.metrics.map (·.id) := by
  rw [metricNodes, List.map_map]
  rfl

end Measurements

/-- A build gives the nodes of its metric rows and then the discovered ones, and the calls of its caller rows
and then those of its callee rows. -/
theorem buildTopology_parts (settings : Settings) (services : Services) (rows : Measurements) :
    (buildTopology settings services rows).value =
      { nodes := rows.metricNodes settings services ++ rows.discoveredNodes settings services
        calls := rows.callerCalls settings services ++ rows.calleeCalls settings services } := by
  let context := BuildContext.of settings services rows
  have hmetrics : (context.assemble (rows.metrics.map .metric)).value.nodes =
      rows.metricNodes settings services := (context.value_assemble_metrics rows.metrics).1
  have hnodes : ((context.assemble (rows.metrics.map .metric)).value.discoverAll
      (rows.callerNodes settings services ++ rows.calleeNodes settings services)).nodes =
        rows.metricNodes settings services ++ rows.discoveredNodes settings services := by
    rw [(context.coherent_assemble _).nodes_discoverAll, hmetrics, rows.ids_metricNodes]
    rfl
  rw [value_buildTopology_narrowed, BuildContext.value_assemble_rows, ← hnodes]
  rfl

/-! ## A shop

One deployment with ten minutes of traffic, on which statements about builds are shown at work. -/

/-- Stores of a shop: an application for orders, the database that it calls, and a gateway that calls it. -/
def Stores.shop : Stores where
  registry := .ofList
    [⟨2, "orders", false, none⟩, ⟨5, "10.0.0.5:3306", true, none⟩, ⟨6, "gateway", true, none⟩]
  catalog := ⟨.ofList [(7, "Tomcat"), (9, "mysql-connector")], .ofList [(9, 90)], .ofList [(90, "MySQL")]⟩
  fleet := ⟨[⟨1, 2, "orders-1", 20180101000000, 20180130120500⟩]⟩
  archive := ⟨[⟨"1", "slow", "", .application, 20180130120300⟩, ⟨"2", "down", "", .server, 20180130120400⟩,
    ⟨"3", "slow", "", .service, 20180130120500⟩], []⟩

/-- Ten minutes of a shop: traffic of the orders, and calls to the database, from the gateway and from the
users. -/
def Measurements.shop : Measurements where
  window := ⟨.minute, 201801301200, 201801301210, 20180130120000, 20180130121000⟩
  components := [⟨2, 7⟩, ⟨5, 9⟩]
  mappings := []
  metrics := [⟨2, 100, 5, 50000, 0, 90, 5, 5⟩]
  callers := [⟨2, 5, 40, 0, 500, 0⟩]
  callees := [⟨6, 2, 20, 0, 500, 0⟩, ⟨1, 2, 10, 0, 100, 0⟩]

end ServiceTopology
