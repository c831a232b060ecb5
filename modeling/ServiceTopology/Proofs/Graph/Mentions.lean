import Mathlib.Data.List.Basic
import ServiceTopology.Proofs.Graph.Discovery

/-!
# Discovered nodes by first mention

The reference rows that a build keeps mention applications: a caller row mentions an address that it calls
under its own name, and then its source; a callee row mentions its source. An id without a metric row gets
a node at its first mention, and what that mention is decides what the node is.

The main statement gives the nodes of a build as those of the metric rows followed by those of the first
mentions. It holds for the services of stores; all else here asks for keyed lookups only.
-/

namespace ServiceTopology

/-- A place where a kept reference row mentions an application that may need a node. -/
inductive Mention where
  | callerTarget (id : Int)
  | callerSource (id : Int)
  | calleeSource (id target : Int)
  deriving DecidableEq

/-- The application that is mentioned. -/
def Mention.id : Mention → Int
  | callerTarget id => id
  | callerSource id => id
  | calleeSource id _ => id

namespace Measurements

/-- Test whether a mapping row names an id as a duplicate. -/
def hasAlias (rows : Measurements) (id : Int) : Bool := rows.mappings.any (·.duplicateId == id)

/-- Mentions of a caller row: its target when that is an address without an alias, then its source. -/
def callerMentions (rows : Measurements) (services : Services) (row : ReferenceRow) : List Mention :=
  (if services.isAddress row.target && !rows.hasAlias row.target then [.callerTarget row.target]
  else []) ++ [.callerSource row.source]

/-- Every mention of the kept rows, in the order in which a build meets them. -/
def mentions (rows : Measurements) (settings : Settings) (services : Services) : List Mention :=
  (rows.keptCallers settings).flatMap (rows.callerMentions services) ++
    (rows.keptCallees settings services).map fun row => .calleeSource row.source row.target

/-- The first mention of every id without a metric row. -/
def firstMentions (rows : Measurements) (settings : Settings) (services : Services) :
    List Mention :=
  firstByKey Mention.id ((rows.mentions settings services).filter fun mention =>
    !(rows.metrics.map (·.id)).contains mention.id)

/-- A mention decides a node exactly when its id has no metric row and was not mentioned before. -/
theorem mem_firstMentions (rows : Measurements) (settings : Settings) (services : Services)
    (mention : Mention) :
    mention ∈ rows.firstMentions settings services ↔
      mention.id ∉ rows.metrics.map (·.id) ∧
        (rows.mentions settings services).find? (·.id == mention.id) = some mention := by
  rw [firstMentions, mem_firstByKey, find?_filter_new]
  split
  next hmetric => simp [hmetric]
  next hmetric => exact (and_iff_right hmetric).symm

end Measurements

/-! ## The nodes that a run discovers -/

/-- Metrics of an application that is known only from calls. -/
def Settings.syntheticMetrics (settings : Settings) : NodeMetrics :=
  { sla := settings.syntheticNodeSla
    cpm := 0
    averageResponseTime := 0
    apdex := settings.syntheticNodeApdex
    alarm := false
    servers := 0
    serverAlarms := 0
    serviceAlarms := 0 }

/-- The name of an id is that of its application, or else the unknown label. -/
theorem BuildContext.nameOf_eq (context : BuildContext) (id : Int) :
    context.nameOf id =
      ((context.services.application? id).map (·.code)).getD context.settings.unknownLabel := by
  unfold nameOf known
  cases context.services.application? id <;> rfl

namespace Measurements

variable (rows : Measurements) (settings : Settings) (services : Services)

/-- The node that a mention decides, by the tables of the rows. A called address is typed by its own server type
and a calling one by that of the application it calls. -/
def mentionedNode (mention : Mention) : Node :=
  let name (id : Int) := ((services.application? id).map (·.code)).getD settings.unknownLabel
  let component (id : Int) := ((componentLabels services rows.components).get? id).getD settings.unknownLabel
  let serverType (id : Int) := ((serverLabels services rows.components).get? id).getD settings.unknownLabel
  match mention with
  | .callerTarget id => ⟨id, name id, serverType id, .conjectural⟩
  | .callerSource id => ⟨id, name id, component id, .application settings.syntheticMetrics⟩
  | .calleeSource id target =>
    if id = settings.noneApplicationId then
      ⟨id, settings.userCode, settings.userCode.upper, .user⟩
    else ⟨id, name id, serverType target, .conjectural⟩

/-- The node of the users. -/
theorem mentionedNode_users (target : Int) :
    rows.mentionedNode settings services (.calleeSource settings.noneApplicationId target) =
      ⟨settings.noneApplicationId, settings.userCode, settings.userCode.upper, .user⟩ := if_pos rfl

/-- The node of an address that calls is typed by what it calls. -/
theorem mentionedNode_calleeSource {id : Int} (hid : id ≠ settings.noneApplicationId) (target : Int) :
    rows.mentionedNode settings services (.calleeSource id target) =
      ⟨id, ((services.application? id).map (·.code)).getD settings.unknownLabel,
        ((serverLabels services rows.components).get? target).getD settings.unknownLabel, .conjectural⟩ :=
  if_neg hid

/-- The node of a mention carries the mentioned id. -/
@[simp] theorem mentionedNode_id (mention : Mention) :
    (rows.mentionedNode settings services mention).id = mention.id := by
  cases mention with
  | callerTarget id => rfl
  | callerSource id => rfl
  | calleeSource id target =>
    by_cases husers : id = settings.noneApplicationId
    · rw [husers, mentionedNode_users]
      rfl
    · rw [rows.mentionedNode_calleeSource settings services husers]
      rfl

end Measurements

section Build

variable (settings : Settings) (services : Services) (rows : Measurements)
  (hkeyed : services.Keyed)

include hkeyed

/-- The nodes that a caller row mentions are those of its mentions. -/
theorem callerNodes_eq (row : ReferenceRow) :
    (BuildContext.of settings services rows).callerNodes row =
      (rows.callerMentions services row).map (rows.mentionedNode settings services) := by
  have hid (id : Int) : ((BuildContext.of settings services rows).known id).id = id :=
    BuildContext.known_id hkeyed id
  have hname (id : Int) : ((BuildContext.of settings services rows).known id).code =
      ((services.application? id).map (·.code)).getD settings.unknownLabel :=
    (BuildContext.of settings services rows).nameOf_eq id
  have halias : (BuildContext.of settings services rows).aliases.contains row.target =
      rows.hasAlias row.target := contains_aliasTable rows.mappings row.target
  simp only [BuildContext.callerNodes, BuildContext.callerMentions, Measurements.callerMentions,
    BuildContext.known_isAddress, BuildContext.of_services, hid, halias, List.map_append]
  by_cases haddress : (services.isAddress row.target && !rows.hasAlias row.target) = true
  · simp only [if_pos haddress, List.map_cons, List.map_nil, BuildContext.conjecturalNode,
      BuildContext.syntheticNode, hid, hname]
    rfl
  · simp only [if_neg haddress, List.map_cons, List.map_nil, BuildContext.syntheticNode, hid, hname]
    rfl

/-- A kept callee row mentions its source, as the users or as an address. -/
theorem calleeNodes_eq {row : ReferenceRow} (hrow : row ∈ rows.keptCallees settings services) :
    (BuildContext.of settings services rows).calleeNodes row =
      [rows.mentionedNode settings services (.calleeSource row.source row.target)] := by
  have hid (id : Int) : ((BuildContext.of settings services rows).known id).id = id :=
    BuildContext.known_id hkeyed id
  have hname (id : Int) : ((BuildContext.of settings services rows).known id).code =
      ((services.application? id).map (·.code)).getD settings.unknownLabel :=
    (BuildContext.of settings services rows).nameOf_eq id
  have houtside := (List.mem_filter.mp hrow).2
  simp only [BuildContext.calleeNodes, BuildContext.calleeMentions,
    BuildContext.known_isAddress, BuildContext.of_services, BuildContext.of_settings, hid]
  by_cases husers : row.source = settings.noneApplicationId
  · simp [husers, BuildContext.userNode, Measurements.mentionedNode_users]
  · have haddress : services.isAddress row.source = true := by simpa [husers] using houtside
    rw [rows.mentionedNode_calleeSource settings services husers, if_neg husers, if_pos haddress,
      BuildContext.conjecturalNode, hid, hname]
    rfl

/-- The nodes of a build are those of its metric rows, then those of the first mentions. -/
theorem nodes_buildTopology :
    (buildTopology settings services rows).value.nodes =
      rows.metrics.map (fun row =>
          ((BuildContext.of settings services rows).metricNode row).value) ++
        (rows.firstMentions settings services).map (rows.mentionedNode settings services) := by
  let context := BuildContext.of settings services rows
  have hcallers : (rows.keptCallers settings).flatMap context.callerNodes =
      ((rows.keptCallers settings).flatMap (rows.callerMentions services)).map
        (rows.mentionedNode settings services) := by
    rw [List.map_flatMap]
    exact List.flatMap_congr fun row _ => callerNodes_eq settings services rows hkeyed row
  have hcallees : (rows.keptCallees settings services).flatMap context.calleeNodes =
      ((rows.keptCallees settings services).map fun row =>
        Mention.calleeSource row.source row.target).map (rows.mentionedNode settings services) := by
    rw [List.map_map, List.map_eq_flatMap]
    exact List.flatMap_congr fun row hrow => calleeNodes_eq settings services rows hkeyed hrow
  have hmentioned : rows.callerNodes settings services ++ rows.calleeNodes settings services =
      (rows.mentions settings services).map (rows.mentionedNode settings services) := by
    rw [Measurements.callerNodes, hcallers, Measurements.calleeNodes,
      rows.narrowedCallees_eq settings hkeyed, hcallees, ← List.map_append]
    rfl
  rw [buildTopology_parts, Measurements.discoveredNodes, hmentioned, List.filter_map, firstByKey_map]
  simp only [Function.comp_def, Measurements.mentionedNode_id]
  rfl

/-- The nodes of a build carry the ids of its metric rows, then those of the first mentions. -/
theorem ids_buildTopology :
    (buildTopology settings services rows).value.nodes.map (·.id) =
      rows.metrics.map (·.id) ++ (rows.firstMentions settings services).map Mention.id := by
  rw [nodes_buildTopology settings services rows hkeyed, List.map_append, List.map_map, List.map_map]
  simp only [Function.comp_def, Measurements.mentionedNode_id]
  rfl

/-- A metric row gives an application node that is named and labelled by the id of the row. -/
theorem value_metricNode (row : MetricRow) :
    ∃ metrics, ((BuildContext.of settings services rows).metricNode row).value =
      ⟨row.id, (BuildContext.of settings services rows).nameOf row.id,
        (BuildContext.of settings services rows).componentLabel row.id, .application metrics⟩ := by
  have hid : ((BuildContext.of settings services rows).known row.id).id = row.id :=
    BuildContext.known_id hkeyed row.id
  simp only [BuildContext.metricNode, Recorded.value_bind, Recorded.value_pure,
    BuildContext.value_application, hid]
  exact ⟨_, rfl⟩

end Build

/-- The nodes of a build are one application node for each metric row and then, in the order of the first
mentions of their ids, one node for each mentioned id without a metric row. The first mention alone
decides what such a node is: a called address and a calling one get a server type, the former its own and the
latter that of the application it calls; a source without a metric row gets its own component and the metrics of
an application without traffic; the users get the code of the settings. -/
theorem nodes_follow_first_mentions (settings : Settings) (stores : Stores) (rows : Measurements) :
    let services := stores.services
    let mentions := rows.mentions settings services
    let firsts := rows.firstMentions settings services
    let node := rows.mentionedNode settings services
    let name (id : Int) := ((stores.registry.find? id).map (·.code)).getD settings.unknownLabel
    let component (id : Int) := ((componentLabels services rows.components).get? id).getD settings.unknownLabel
    let serverType (id : Int) := ((serverLabels services rows.components).get? id).getD settings.unknownLabel
    (∃ metricsOf : MetricRow → NodeMetrics,
      (buildTopology settings services rows).value.nodes =
        rows.metrics.map (fun row => ⟨row.id, name row.id, component row.id, .application (metricsOf row)⟩) ++
          firsts.map node) ∧
      firsts.Sublist mentions ∧
      (∀ mention, mention ∈ firsts ↔
        mention.id ∉ rows.metrics.map (·.id) ∧ mentions.find? (·.id == mention.id) = some mention) ∧
      (∀ id, node (.callerTarget id) = ⟨id, name id, serverType id, .conjectural⟩) ∧
      (∀ id, node (.callerSource id) = ⟨id, name id, component id, .application settings.syntheticMetrics⟩) ∧
      (∀ target, node (.calleeSource settings.noneApplicationId target) =
        ⟨settings.noneApplicationId, settings.userCode, settings.userCode.upper, .user⟩) ∧
      ∀ id target, id ≠ settings.noneApplicationId →
        node (.calleeSource id target) = ⟨id, name id, serverType target, .conjectural⟩ := by
  intro services mentions firsts node name component serverType
  have hkeyed : services.Keyed := stores.keyed_services
  have hmetric (row : MetricRow) := value_metricNode settings services rows hkeyed row
  choose metricsOf hmetricsOf using hmetric
  refine ⟨⟨metricsOf, ?_⟩, (firstByKey_sublist _ _).trans List.filter_sublist,
    rows.mem_firstMentions settings services, fun _ => rfl, fun _ => rfl,
    rows.mentionedNode_users settings services,
    fun _ target hid => rows.mentionedNode_calleeSource settings services hid target⟩
  rw [nodes_buildTopology settings services rows hkeyed]
  refine congrArg (· ++ _) (List.map_congr_left fun row _ => ?_)
  rw [hmetricsOf row, BuildContext.nameOf_eq]
  rfl

/-- In the shop the database and the gateway are known from calls only. The database is an address that the orders
call, so it is typed by its own server type; the gateway calls the orders, whose server type is not known. -/
theorem nodes_follow_first_mentions_shop :
    (serverLabels Stores.shop.services Measurements.shop.components).get? 5 = some "MySQL" ∧
      ∃ metrics, (buildTopology .standard Stores.shop.services .shop).value.nodes =
        [⟨2, "orders", "Tomcat", .application metrics⟩, ⟨5, "10.0.0.5:3306", "MySQL", .conjectural⟩,
          ⟨6, "gateway", "UNKNOWN", .conjectural⟩, ⟨1, "User", "USER", .user⟩] := by
  obtain ⟨⟨metricsOf, hnodes⟩, -⟩ := nodes_follow_first_mentions .standard .shop .shop
  have hdiscovered : (Measurements.shop.firstMentions .standard Stores.shop.services).map
      (Measurements.shop.mentionedNode .standard Stores.shop.services) =
        [⟨5, "10.0.0.5:3306", "MySQL", .conjectural⟩, ⟨6, "gateway", "UNKNOWN", .conjectural⟩,
          ⟨1, "User", "USER", .user⟩] := by decide +kernel
  refine ⟨by decide +kernel, metricsOf ⟨2, 100, 5, 50000, 0, 90, 5, 5⟩, hnodes.trans ?_⟩
  rw [hdiscovered]
  rfl

end ServiceTopology
