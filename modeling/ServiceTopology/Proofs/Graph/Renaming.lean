import ServiceTopology.Proofs.Graph.Discovery
import ServiceTopology.Proofs.Renaming

/-!
# Ids of applications are opaque

A build compares ids of applications and uses them as keys, and does nothing else with them. So when an
injective function that fixes the two reserved ids is applied to every id in stores and rows, the topology is
that of the original with the function applied to the ids of nodes and calls.

Two builds are compared through services and contexts of which one answers for a new id what the other one
answers for the old id. Stores and their renamed stores are such services.
-/

namespace ServiceTopology

/-! ## Services and contexts -/

/-- Services that answer for new ids what others answer for the old ones. -/
structure Services.Renamed (r : Int → Int) (services renamed : Services) : Prop where
  application : ∀ id, renamed.application? (r id) = (services.application? id).map (·.renamed r)
  componentName : renamed.componentName? = services.componentName?
  serverOf : renamed.serverOf = services.serverOf
  serverName : renamed.serverName? = services.serverName?
  servers : ∀ id start finish,
    renamed.servers (r id) start finish = (services.servers id start finish).map (·.renamed r)
  minutes : ∀ id start finish, renamed.minutes (r id) start finish = services.minutes id start finish
  alarms : renamed.alarms = services.alarms
  sla : renamed.sla = services.sla
  apdex : renamed.apdex = services.apdex

/-- Renamed stores answer for new ids what the stores answer for the old ones. -/
theorem Stores.renamed_services {r : Int → Int} (hr : Function.Injective r) (stores : Stores) :
    stores.services.Renamed r (stores.renamed r).services where
  application id := stores.registry.find?_renamed hr id
  componentName := rfl
  serverOf := rfl
  serverName := rfl
  servers := stores.fleet.aliveIn_renamed hr
  minutes id start finish := by
    simp only [services, Stores.minutes, renamed, Registry.find?_renamed hr, Option.bind_map]
    rfl
  alarms := rfl
  sla := rfl
  apdex := rfl

/-- A context that holds for new ids what another one holds for the old ones. -/
structure BuildContext.Renamed (r : Int → Int) (context renamed : BuildContext) : Prop where
  settings : renamed.settings = context.settings
  window : renamed.window = context.window
  componentLabel : ∀ id, renamed.componentLabels.get? (r id) = context.componentLabels.get? id
  serverLabel : ∀ id, renamed.serverLabels.get? (r id) = context.serverLabels.get? id
  canonical : ∀ id, renamed.aliases.get? (r id) = (context.aliases.get? id).map r
  services : context.services.Renamed r renamed.services

/-- Renamed services and rows give renamed contexts. -/
theorem Services.Renamed.of {r : Int → Int} (hr : Function.Injective r) {services renamed : Services}
    (h : services.Renamed r renamed) (settings : Settings) (rows : Measurements) :
    (BuildContext.of settings services rows).Renamed r
      (BuildContext.of settings renamed (rows.renamed r)) where
  settings := rfl
  window := rfl
  componentLabel id := by
    simp only [BuildContext.of, componentLabels, Measurements.renamed, h.componentName,
      labelTable_renamed hr, Table.get?_rekeyed hr, Option.map_id_fun, id_eq]
  serverLabel id := by
    simp only [BuildContext.of, serverLabels, Measurements.renamed, h.serverName, h.serverOf,
      labelTable_renamed hr, Table.get?_rekeyed hr, Option.map_id_fun, id_eq]
  canonical id := by
    simp only [BuildContext.of, Measurements.renamed, aliasTable_renamed hr, Table.get?_rekeyed hr]
  services := h

namespace BuildContext.Renamed

variable {r : Int → Int} (hr : Function.Injective r) {context renamed : BuildContext}
  (h : context.Renamed r renamed)

include h

/-- What is known about a new id is what is known about the old one, renamed. -/
theorem known_eq (id : Int) : renamed.known (r id) = (context.known id).renamed r := by
  simp only [known, h.services.application, h.settings]
  cases context.services.application? id <;> rfl

/-- Component labels of new ids are those of the old ones. -/
theorem componentLabel_eq (id : Int) :
    renamed.componentLabel (r id) = context.componentLabel id := by
  simp only [BuildContext.componentLabel, h.componentLabel, h.settings]

/-- Server type labels of new ids are those of the old ones. -/
theorem serverLabel_eq (id : Int) : renamed.serverLabel (r id) = context.serverLabel id := by
  simp only [BuildContext.serverLabel, h.serverLabel, h.settings]

/-- New ids have aliases when the old ones have. -/
theorem contains_aliases (id : Int) :
    renamed.aliases.contains (r id) = context.aliases.contains id := by
  simp only [Table.contains, h.canonical, Option.isSome_map]

/-- Rates of new ids are those of the old ones. -/
theorem value_callsPerMinute (calls id : Int) :
    (renamed.callsPerMinute calls (r id)).value = (context.callsPerMinute calls id).value := by
  rw [BuildContext.value_callsPerMinute, BuildContext.value_callsPerMinute, h.window,
    h.services.minutes]

/-- Numbers of alarms do not depend on ids. -/
theorem value_alarmCount (scope : AlarmScope) (limit id : Int) :
    (renamed.alarmCount scope limit (r id)).value = (context.alarmCount scope limit id).value := by
  rw [BuildContext.value_alarmCount, BuildContext.value_alarmCount, h.window, h.services.alarms]

/-! ## What a row contributes -/

/-- A renamed metric row gives the renamed node. -/
theorem value_metricNode (row : MetricRow) :
    (renamed.metricNode (row.renamed r)).value = (context.metricNode row).value.renamed r := by
  simp only [metricNode, Recorded.value_bind, Recorded.value_pure, value_application, Node.renamed,
    MetricRow.renamed, Application.renamed, h.known_eq, h.componentLabel_eq, h.value_callsPerMinute,
    h.value_alarmCount, value_averageResponseTime, h.settings, h.window, h.services.servers,
    h.services.sla, h.services.apdex, List.length_map]

/-- A renamed caller row mentions the renamed nodes. -/
theorem callerNodes_eq (row : ReferenceRow) :
    renamed.callerNodes (row.renamed r) = (context.callerNodes row).map (·.renamed r) := by
  simp only [callerNodes, callerMentions, ReferenceRow.renamed, h.known_eq, Application.renamed,
    h.contains_aliases, h.serverLabel_eq, syntheticNode, h.componentLabel_eq, h.settings,
    List.map_append]
  congr 1
  by_cases haddress : ((context.known row.target).isAddress &&
      !context.aliases.contains (context.known row.target).id) = true
  · simp only [if_pos haddress]
    rfl
  · simp only [if_neg haddress]
    rfl

include hr

/-- A target is shown as the renamed application. -/
theorem value_shownTarget (target : Application) :
    (renamed.shownTarget (target.renamed r)).value =
      (context.shownTarget target).value.renamed r := by
  have hcanonical : (renamed.aliases.get? (r target.id)).getD (r target.id) =
      r ((context.aliases.get? target.id).getD target.id) := by
    rw [h.canonical]
    cases context.aliases.get? target.id <;> rfl
  simp only [shownTarget, Application.renamed, hcanonical, hr.eq_iff]
  split
  · rfl
  · simp only [value_application, h.known_eq]
    rfl

/-- A renamed caller row gives the renamed call. -/
theorem callerRowCall_eq (row : ReferenceRow) :
    renamed.callerRowCall (row.renamed r) = (context.callerRowCall row).renamed r := by
  have hshown := h.value_shownTarget hr (context.known row.target)
  simp only [callerRowCall, callerCall, Recorded.value_bind, Recorded.value_pure, Call.renamed,
    ReferenceRow.renamed, h.known_eq, hshown, h.componentLabel_eq, value_averageResponseTime]
  simp only [Application.renamed, h.value_callsPerMinute]

variable (hnone : r context.settings.noneApplicationId = context.settings.noneApplicationId)

include hnone

/-- A new id stands for the users when the old one does. -/
theorem eq_none_iff (id : Int) :
    r id = renamed.settings.noneApplicationId ↔ id = context.settings.noneApplicationId := by
  rw [h.settings, ← hnone, hr.eq_iff, hnone]

/-- A renamed row comes from outside when the row does. -/
theorem isOutside_eq (row : ReferenceRow) :
    renamed.isOutside (row.renamed r) = context.isOutside row := by
  have husers (id : Int) : (r id == renamed.settings.noneApplicationId) =
      (id == context.settings.noneApplicationId) := by
    rw [Bool.eq_iff_iff, beq_iff_eq, beq_iff_eq]
    exact h.eq_none_iff hr hnone id
  simp only [isOutside, ReferenceRow.renamed, h.known_eq, Application.renamed, husers]

/-- A renamed callee row mentions the renamed nodes. -/
theorem calleeNodes_eq (row : ReferenceRow) :
    renamed.calleeNodes (row.renamed r) = (context.calleeNodes row).map (·.renamed r) := by
  have huser : renamed.userNode = context.userNode.renamed r := by
    simp only [userNode, Node.renamed, h.settings, hnone]
  simp only [calleeNodes, calleeMentions, ReferenceRow.renamed, h.known_eq, Application.renamed,
    h.eq_none_iff hr hnone, h.serverLabel_eq, huser]
  by_cases husers : (context.known row.source).id = context.settings.noneApplicationId
  · simp only [if_pos husers]
    rfl
  · simp only [if_neg husers]
    by_cases haddress : (context.known row.source).isAddress = true
    · simp only [if_pos haddress]
      rfl
    · simp only [if_neg haddress]
      rfl

/-- A renamed callee row gives the renamed call. -/
theorem calleeRowCall_eq (row : ReferenceRow) :
    renamed.calleeRowCall (row.renamed r) = (context.calleeRowCall row).renamed r := by
  simp only [calleeRowCall, calleeCall, Recorded.value_bind, Recorded.value_pure, Call.renamed,
    ReferenceRow.renamed, h.known_eq, h.componentLabel_eq, value_averageResponseTime]
  simp only [Application.renamed, h.value_callsPerMinute, h.eq_none_iff hr hnone]

end BuildContext.Renamed

/-! ## Whole builds -/

section Build

variable {r : Int → Int} (hr : Function.Injective r) {services renamed : Services}
  (h : services.Renamed r renamed) (settings : Settings) (rows : Measurements)
  (hnone : r settings.noneApplicationId = settings.noneApplicationId)
  (hinvalid : r settings.invalidApplicationId = settings.invalidApplicationId)

include hr

/-- The processed caller rows of renamed rows are the renamed ones. -/
theorem Measurements.keptCallers_renamed
    (hinvalid : r settings.invalidApplicationId = settings.invalidApplicationId) :
    (rows.renamed r).keptCallers settings = (rows.keptCallers settings).map (·.renamed r) :=
  withValidEnds_renamed hr hinvalid rows.callers

include h hnone hinvalid

namespace Services.Renamed

/-- The processed callee rows of renamed rows are the renamed ones. -/
theorem narrowedCallees_eq :
    (rows.renamed r).narrowedCallees settings renamed =
      (rows.narrowedCallees settings services).map (·.renamed r) := by
  have hcontext := h.of hr settings rows
  rw [Measurements.narrowedCallees, Measurements.renamed, withValidEnds_renamed hr hinvalid,
    List.filter_map]
  congr 2
  funext row
  exact hcontext.isOutside_eq hr hnone row

/-- The nodes that renamed rows mention are the renamed ones. -/
theorem mentionedNodes_eq :
    (rows.renamed r).callerNodes settings renamed ++ (rows.renamed r).calleeNodes settings renamed =
      (rows.callerNodes settings services ++ rows.calleeNodes settings services).map
        (·.renamed r) := by
  have hcontext := h.of hr settings rows
  rw [List.map_append, Measurements.callerNodes, Measurements.calleeNodes,
    rows.keptCallers_renamed hr settings hinvalid, h.narrowedCallees_eq hr settings rows hnone hinvalid,
    List.flatMap_map, List.flatMap_map, Measurements.callerNodes, Measurements.calleeNodes,
    List.map_flatMap, List.map_flatMap]
  congr 1
  · exact List.flatMap_congr fun row _ => hcontext.callerNodes_eq row
  · exact List.flatMap_congr fun row _ => hcontext.calleeNodes_eq hr hnone row

/-- The nodes that renamed rows discover are the renamed ones. -/
theorem discoveredNodes_eq :
    (rows.renamed r).discoveredNodes settings renamed =
      (rows.discoveredNodes settings services).map (·.renamed r) := by
  have hnew (node : Node) : ((rows.renamed r).metrics.map (·.id)).contains (node.renamed r).id =
      (rows.metrics.map (·.id)).contains node.id := by
    have hids : (rows.renamed r).metrics.map (·.id) = (rows.metrics.map (·.id)).map r := by
      simp only [Measurements.renamed, List.map_map]
      rfl
    rw [hids, Bool.eq_iff_iff, List.contains_iff_mem, List.contains_iff_mem]
    exact List.mem_map_of_injective hr
  rw [Measurements.discoveredNodes, h.mentionedNodes_eq hr settings rows hnone hinvalid,
    List.filter_map, firstByKey_map]
  simp only [Function.comp_def, hnew]
  rw [Measurements.discoveredNodes]
  congr 1
  exact firstByKey_comp hr Node.id _

/-- A build with renamed services and rows gives the renamed topology. -/
theorem value_buildTopology :
    (buildTopology settings renamed (rows.renamed r)).value =
      (buildTopology settings services rows).value.renamed r := by
  have hcontext := h.of hr settings rows
  have hmetrics : (rows.renamed r).metricNodes settings renamed =
      (rows.metricNodes settings services).map (·.renamed r) := by
    simp only [Measurements.metricNodes, Measurements.renamed, List.map_map]
    exact List.map_congr_left fun row _ => hcontext.value_metricNode row
  have hcallers : (rows.renamed r).callerCalls settings renamed =
      (rows.callerCalls settings services).map (·.renamed r) := by
    simp only [Measurements.callerCalls, rows.keptCallers_renamed hr settings hinvalid, List.map_map]
    exact List.map_congr_left fun row _ => hcontext.callerRowCall_eq hr row
  have hcallees : (rows.renamed r).calleeCalls settings renamed =
      (rows.calleeCalls settings services).map (·.renamed r) := by
    simp only [Measurements.calleeCalls, h.narrowedCallees_eq hr settings rows hnone hinvalid,
      List.map_map]
    exact List.map_congr_left fun row _ => hcontext.calleeRowCall_eq hr hnone row
  rw [buildTopology_parts, buildTopology_parts, hmetrics, hcallers, hcallees,
    h.discoveredNodes_eq hr settings rows hnone hinvalid, Topology.renamed, List.map_append,
    List.map_append]

end Services.Renamed

end Build

/-- When an injective function that fixes the reserved ids is applied to every id of an application in stores
and rows, a build gives the topology with the function applied to the ids of nodes and to both ends of calls,
and with all else and the order as before. The same holds of any services that answer for new ids what others
answer for the old ones. -/
theorem buildTopology_equivariant {r : Int → Int} (hr : Function.Injective r) (settings : Settings)
    (hnone : r settings.noneApplicationId = settings.noneApplicationId)
    (hinvalid : r settings.invalidApplicationId = settings.invalidApplicationId)
    (rows : Measurements) :
    (∀ stores : Stores,
      (buildTopology settings (stores.renamed r).services (rows.renamed r)).value =
        (buildTopology settings stores.services rows).value.renamed r) ∧
    ∀ services renamed : Services, services.Renamed r renamed →
      (buildTopology settings renamed (rows.renamed r)).value =
        (buildTopology settings services rows).value.renamed r := by
  refine ⟨fun stores => ?_, fun services renamed h => ?_⟩
  · exact (stores.renamed_services hr).value_buildTopology hr settings rows hnone hinvalid
  · exact h.value_buildTopology hr settings rows hnone hinvalid

/-- Ids of the shop from two upwards may be moved by a thousand. -/
theorem buildTopology_equivariant_shop :
    let r : Int → Int := fun id => if id ≤ 1 then id else id + 1000
    Function.Injective r ∧ r Settings.standard.noneApplicationId = 1 ∧
      r Settings.standard.invalidApplicationId = 0 ∧
      let topology := (buildTopology .standard (Stores.shop.renamed r).services
        (Measurements.shop.renamed r)).value
      topology = (buildTopology .standard Stores.shop.services .shop).value.renamed r ∧
        topology.nodes.map (·.id) = [1002, 1005, 1006, 1] := by
  intro r
  have hr : Function.Injective r := by
    intro first second heq
    simp only [r] at heq
    split at heq <;> split at heq <;> omega
  have hrenamed := (buildTopology_equivariant hr .standard rfl rfl .shop).1 Stores.shop
  refine ⟨hr, rfl, rfl, hrenamed, ?_⟩
  rw [hrenamed]
  decide +kernel

end ServiceTopology
