import Mathlib.Data.List.Basic
import ServiceTopology.Proofs.Graph.Discovery

/-!
# The outline of a graph

The outline of a topology is what remains of it without rates, alarms and server counts: its nodes in their
order with kind, id, name, type, scores and average, and its calls in their order. The window of a build,
server instances, alarms, registrations and minutes have no influence on it.

Two builds are compared through their contexts. Everything that a row contributes to the outline is read
from what the two contexts share; whether a lookup fails is not part of that.
-/

namespace ServiceTopology

/-! ## Outlines -/

/-- Metrics without what depends on the window, on servers and on alarms. -/
def NodeMetrics.outline (metrics : NodeMetrics) : NodeMetrics :=
  { metrics with cpm := 0, alarm := false, servers := 0, serverAlarms := 0, serviceAlarms := 0 }

/-- A kind of node, where an application keeps the outline of its metrics. -/
def NodeKind.outline : NodeKind → NodeKind
  | application metrics => application metrics.outline
  | conjectural => conjectural
  | user => user

/-- A node with the outline of its kind. -/
def Node.outline (node : Node) : Node := { node with kind := node.kind.outline }

/-- A call without its rate. -/
def Call.outline (call : Call) : Call := { call with cpm := 0 }

/-- A topology with the outlines of its nodes and calls, each in its place. -/
def Topology.outline (topology : Topology) : Topology :=
  ⟨topology.nodes.map Node.outline, topology.calls.map Call.outline⟩

/-! ## Shared metadata -/

/-- An application without its registration. -/
def Application.undated (application : Application) : Application :=
  { application with registration := none }

/-- Applications are the same without their registrations when they agree in id, code and address flag. -/
theorem Application.undated_eq_iff {application other : Application} :
    application.undated = other.undated ↔
      application.id = other.id ∧ application.code = other.code ∧
        application.isAddress = other.isAddress := by
  simp [undated]

/-- Two services know the same ids, codes and addresses, give the same names and compute the same scores. -/
structure Services.SameMetadata (services other : Services) : Prop where
  application : ∀ id,
    (other.application? id).map Application.undated =
      (services.application? id).map Application.undated
  componentName : other.componentName? = services.componentName?
  serverOf : other.serverOf = services.serverOf
  serverName : other.serverName? = services.serverName?
  sla : other.sla = services.sla
  apdex : other.apdex = services.apdex

namespace BuildContext

/-- Two contexts share settings, tables and scores, and know the same applications up to registrations. -/
structure SameMetadata (context other : BuildContext) : Prop where
  settings : other.settings = context.settings
  componentLabels : other.componentLabels = context.componentLabels
  serverLabels : other.serverLabels = context.serverLabels
  aliases : other.aliases = context.aliases
  known : ∀ id, (other.known id).undated = (context.known id).undated
  sla : other.services.sla = context.services.sla
  apdex : other.services.apdex = context.services.apdex

/-- What is known about an application, up to its registration, is what lookups give up to it. -/
theorem undated_known (context : BuildContext) (id : Int) :
    (context.known id).undated =
      ((context.services.application? id).map Application.undated).getD
        ⟨id, context.settings.unknownLabel, false, none⟩ := by
  unfold known
  cases context.services.application? id <;> rfl

end BuildContext

/-- Services with the same metadata give contexts with the same metadata, whatever the windows. -/
theorem Services.SameMetadata.of {services other : Services} (h : services.SameMetadata other)
    (settings : Settings) (rows : Measurements) (window : Window) :
    (BuildContext.of settings services rows).SameMetadata
      (BuildContext.of settings other { rows with window }) where
  settings := rfl
  componentLabels := by simp only [BuildContext.of, componentLabels, h.componentName]
  serverLabels := by simp only [BuildContext.of, serverLabels, h.serverOf, h.serverName]
  aliases := rfl
  known id := by
    simp only [BuildContext.undated_known, BuildContext.of_services, BuildContext.of_settings,
      h.application]
  sla := h.sla
  apdex := h.apdex

/-- Stores with one catalog, whose registries know the same applications up to registrations, have the same
metadata. -/
theorem Stores.sameMetadata {stores other : Stores} (hcatalog : other.catalog = stores.catalog)
    (hregistry : ∀ id, (other.registry.find? id).map Application.undated =
      (stores.registry.find? id).map Application.undated) :
    stores.services.SameMetadata other.services where
  application := hregistry
  componentName := by simp only [services, hcatalog]
  serverOf := by simp only [services, hcatalog]
  serverName := by simp only [services, hcatalog]
  sla := rfl
  apdex := rfl

/-- Registering an application again with another registration changes nothing else that is known. -/
theorem Registry.undated_find?_register (registry : Registry) (application : Application)
    (hfound : registry.find? application.id = some application) (registration : Option Int) (id : Int) :
    ((registry.register { application with registration }).find? id).map Application.undated =
      (registry.find? id).map Application.undated := by
  rw [find?_register]
  split
  · rw [‹id = application.id›, hfound]
    rfl
  · rfl

namespace BuildContext.SameMetadata

variable {context other : BuildContext} (h : context.SameMetadata other)

include h

/-- Known applications have the same id. -/
theorem known_id (id : Int) : (other.known id).id = (context.known id).id :=
  (Application.undated_eq_iff.mp (h.known id)).1

/-- Known applications have the same code. -/
theorem known_code (id : Int) : (other.known id).code = (context.known id).code :=
  (Application.undated_eq_iff.mp (h.known id)).2.1

/-- Known applications are addresses alike. -/
theorem known_isAddress (id : Int) :
    (other.known id).isAddress = (context.known id).isAddress :=
  (Application.undated_eq_iff.mp (h.known id)).2.2

/-- Component labels are the same. -/
theorem componentLabel_eq (id : Int) : other.componentLabel id = context.componentLabel id := by
  simp only [BuildContext.componentLabel, h.componentLabels, h.settings]

/-- Server type labels are the same. -/
theorem serverLabel_eq (id : Int) : other.serverLabel id = context.serverLabel id := by
  simp only [BuildContext.serverLabel, h.serverLabels, h.settings]

/-! ## What a row contributes -/

/-- The same callee rows come from outside. -/
theorem isOutside_eq (row : ReferenceRow) : other.isOutside row = context.isOutside row := by
  simp only [BuildContext.isOutside, h.known_isAddress, h.known_id, h.settings]

/-- A caller row mentions the same nodes. -/
theorem callerNodes_eq (row : ReferenceRow) : other.callerNodes row = context.callerNodes row := by
  simp only [BuildContext.callerNodes, callerMentions, conjecturalNode, syntheticNode, h.known_id,
    h.known_code, h.known_isAddress, h.componentLabel_eq, h.serverLabel_eq, h.aliases, h.settings]

/-- A callee row mentions the same nodes. -/
theorem calleeNodes_eq (row : ReferenceRow) : other.calleeNodes row = context.calleeNodes row := by
  simp only [BuildContext.calleeNodes, calleeMentions, conjecturalNode, userNode, h.known_id,
    h.known_code, h.known_isAddress, h.serverLabel_eq, h.settings]

/-- A metric row gives nodes with the same outline. -/
theorem outline_metricNode (row : MetricRow) :
    (other.metricNode row).value.outline = (context.metricNode row).value.outline := by
  simp only [metricNode, Recorded.value_bind, Recorded.value_pure, value_application, Node.outline,
    NodeKind.outline, NodeMetrics.outline, h.known_id, h.known_code, h.componentLabel_eq, h.sla, h.apdex]

/-- A target is shown as the same application up to its registration. -/
theorem undated_shownTarget (id : Int) :
    (other.shownTarget (other.known id)).value.undated =
      (context.shownTarget (context.known id)).value.undated := by
  simp only [BuildContext.shownTarget, h.aliases, h.known_id]
  split
  · exact h.known id
  · simpa only [value_application] using h.known _

/-- A caller row gives calls with the same outline. -/
theorem outline_callerRowCall (row : ReferenceRow) :
    (other.callerRowCall row).outline = (context.callerRowCall row).outline := by
  obtain ⟨hid, hcode, -⟩ := Application.undated_eq_iff.mp (h.undated_shownTarget row.target)
  simp only [callerRowCall, callerCall, Recorded.value_bind, Recorded.value_pure, Call.outline,
    h.known_id, h.known_code, h.componentLabel_eq, hid, hcode]

/-- A callee row gives calls with the same outline. -/
theorem outline_calleeRowCall (row : ReferenceRow) :
    (other.calleeRowCall row).outline = (context.calleeRowCall row).outline := by
  simp only [calleeRowCall, calleeCall, Recorded.value_bind, Recorded.value_pure, Call.outline,
    h.known_id, h.known_code, h.componentLabel_eq, h.settings]

end BuildContext.SameMetadata

/-! ## Whole builds -/

section Build

variable {services other : Services} (h : services.SameMetadata other) (settings : Settings)
  (rows : Measurements) (window : Window)

include h

/-- Builds with the same metadata narrow their callee rows alike. -/
theorem Services.SameMetadata.narrowedCallees_eq :
    ({ rows with window } : Measurements).narrowedCallees settings other =
      rows.narrowedCallees settings services := by
  unfold Measurements.narrowedCallees
  congr 1
  funext row
  exact (h.of settings rows window).isOutside_eq row

/-- Builds with the same metadata discover the same nodes. -/
theorem Services.SameMetadata.discoveredNodes_eq :
    ({ rows with window } : Measurements).discoveredNodes settings other =
      rows.discoveredNodes settings services := by
  have hcontext := h.of settings rows window
  have hcallers : ({ rows with window } : Measurements).callerNodes settings other =
      rows.callerNodes settings services :=
    List.flatMap_congr fun row _ => hcontext.callerNodes_eq row
  have hcallees : ({ rows with window } : Measurements).calleeNodes settings other =
      rows.calleeNodes settings services := by
    rw [Measurements.calleeNodes, h.narrowedCallees_eq]
    exact List.flatMap_congr fun row _ => hcontext.calleeNodes_eq row
  unfold Measurements.discoveredNodes
  rw [hcallers, hcallees]

end Build

/-- Builds that share their settings, rows and metadata give topologies with the same outline, whatever their
windows, server instances, alarms, registrations and minutes: as many nodes and as many calls, and in every
place the same kind, id, name, type, scores and average, or the same call up to its rate. -/
theorem outline_independent_of_time (settings : Settings) (services other : Services)
    (rows : Measurements) (window : Window) (h : services.SameMetadata other) :
    (buildTopology settings other { rows with window }).value.outline =
      (buildTopology settings services rows).value.outline := by
  have hcontext := h.of settings rows window
  have hmetrics : (({ rows with window } : Measurements).metricNodes settings other).map
      Node.outline = (rows.metricNodes settings services).map Node.outline := by
    simp only [Measurements.metricNodes, List.map_map]
    exact List.map_congr_left fun row _ => hcontext.outline_metricNode row
  have hcallers : (({ rows with window } : Measurements).callerCalls settings other).map
      Call.outline = (rows.callerCalls settings services).map Call.outline := by
    simp only [Measurements.callerCalls, List.map_map]
    exact List.map_congr_left fun row _ => hcontext.outline_callerRowCall row
  have hcallees : (({ rows with window } : Measurements).calleeCalls settings other).map
      Call.outline = (rows.calleeCalls settings services).map Call.outline := by
    simp only [Measurements.calleeCalls, List.map_map, h.narrowedCallees_eq]
    exact List.map_congr_left fun row _ => hcontext.outline_calleeRowCall row
  simp only [buildTopology_parts, Topology.outline, List.map_append, hmetrics, hcallers, hcallees,
    h.discoveredNodes_eq]

/-- The shop without server instances and alarms, where the orders have a registration that is no bucket and
queries for alarms of services fail. -/
def Stores.shopElsewhere : Stores :=
  { Stores.shop with
    registry := Stores.shop.registry.register ⟨2, "orders", false, some 7⟩
    fleet := ⟨[]⟩
    archive := ⟨[], [.service]⟩ }

/-- A window whose buckets are not well formed. -/
def Window.malformed : Window := ⟨.month, -1, 13, 0, 99999999999999⟩

/-- Two different graphs of the shop have the same outline. -/
theorem outline_independent_of_time_shop :
    Stores.shop.services.SameMetadata Stores.shopElsewhere.services ∧
      let here := (buildTopology .standard Stores.shop.services .shop).value
      let elsewhere := (buildTopology .standard Stores.shopElsewhere.services
        { Measurements.shop with window := .malformed }).value
      elsewhere ≠ here ∧ elsewhere.outline = here.outline := by
  have hregistry := Stores.shop.registry.undated_find?_register ⟨2, "orders", false, none⟩ rfl (some 7)
  have hmetadata : Stores.shop.services.SameMetadata Stores.shopElsewhere.services :=
    Stores.sameMetadata rfl hregistry
  exact ⟨hmetadata, by decide +kernel,
    outline_independent_of_time .standard _ _ .shop .malformed hmetadata⟩

end ServiceTopology
