import ServiceTopology.Proofs.Graph.Discovery
import ServiceTopology.Proofs.Store.AlarmWindow
import ServiceTopology.Snapshot.Data

/-!
# Alarms of a snapshot

What a build makes of the alarms of a snapshot: a flag and two numbers on the nodes of metric rows, all of
them counts of the second buckets that the snapshot's window covers. The section that an alarm is listed in
says which count it belongs to; its own scope, its texts and the application of the node do not matter.

Alarms with malformed buckets are not treated here: the archive compares their numbers all the same.
-/

namespace ServiceTopology

/-! ## Counting covered buckets -/

namespace Window

/-- Both ends of a window are buckets of its step. -/
def WellFormed (window : Window) : Prop :=
  Bucket.WellFormed window.start window.step ∧ Bucket.WellFormed window.finish window.step

/-- A window covers a second bucket whose digits down to the step do not leave it. -/
def Covers (window : Window) (bucket : Int) : Prop :=
  window.start ≤ Bucket.coarsen window.step bucket ∧ Bucket.coarsen window.step bucket ≤ window.finish

instance (window : Window) (bucket : Int) : Decidable (window.Covers bucket) :=
  inferInstanceAs (Decidable (_ ∧ _))

/-- Number of alarms whose buckets a window covers. -/
def covered (window : Window) (items : List AlarmItem) : Nat :=
  (items.map (·.bucket)).countP fun bucket => window.Covers bucket

/-- A window covers no alarm exactly when it covers none of the buckets. -/
theorem covered_pos_iff (window : Window) (items : List AlarmItem) :
    0 < window.covered items ↔ ∃ item ∈ items, window.Covers item.bucket := by
  simp [covered, List.countP_pos_iff]

end Window

/-- The first page of a list has as many items as it may have, or all of them. -/
theorem length_slice_first {α : Type} (items : List α) {limit : Int} (h : 0 ≤ limit) :
    ((slice items 0 (0 + limit)).length : Int) = min limit items.length := by
  have hlimit : ¬ limit < 0 := Int.not_lt.mpr h
  simp only [slice, slicePosition, Int.zero_add, if_neg hlimit, Int.lt_irrefl, if_false,
    Int.toNat_zero, Nat.zero_min, List.drop_zero, List.length_take]
  omega

/-! ## Alarms by section -/

namespace AlarmSections

/-- Alarms that are listed in the section of a scope. -/
def listed (alarms : AlarmSections) : AlarmScope → List AlarmItem
  | .application => alarms.application
  | .server => alarms.server
  | .service => alarms.service

/-- Alarms put at a scope are found at that scope only. -/
theorem filter_atScope (own scope : AlarmScope) (items : List AlarmItem) (p : AlarmItem → Bool) :
    (atScope own items).filter (fun item => item.scope == scope && p item) =
      if own = scope then (atScope own items).filter p else [] := by
  unfold atScope
  rw [List.filter_map, List.filter_map]
  by_cases hscope : own = scope
  · subst hscope
    simp [Function.comp_def]
  · simp [Function.comp_def, hscope]

/-- At a scope are the alarms of its section, whatever scope they carry themselves. -/
theorem filter_items (alarms : AlarmSections) (scope : AlarmScope) (p : AlarmItem → Bool) :
    alarms.items.filter (fun item => item.scope == scope && p item) =
      (atScope scope (alarms.listed scope)).filter p := by
  rw [items, List.filter_append, List.filter_append, filter_atScope, filter_atScope, filter_atScope]
  cases scope <;> simp [listed]

end AlarmSections

/-! ## Numbers of alarms -/

namespace Snapshot

variable (settings : Settings) (snapshot : Snapshot)

/-- Context in which the rows of a snapshot are processed. -/
def context : BuildContext := .of settings snapshot.stores.services snapshot.measurements

/-- The context keeps the settings. -/
theorem context_settings : (snapshot.context settings).settings = settings := rfl

/-- Every alarm of the sections carries a bucket of a second. -/
def SecondAlarms : Prop :=
  ∀ scope, ∀ item ∈ snapshot.alarms.listed scope, Bucket.WellFormed item.bucket .second

/-- What the archive of a snapshot answers decides a number of alarms. -/
theorem value_alarmCount_eq (scope : AlarmScope) (limit id : Int) :
    ((snapshot.context settings).alarmCount scope limit id).value =
      match AlarmArchive.secondWindow snapshot.window.step snapshot.window.start snapshot.window.finish with
      | .ok (first, last) =>
        ((slice (snapshot.stores.archive.matching scope "" first last) 0 (0 + limit)).length : Int)
      | .error _ => 0 := by
  rw [BuildContext.value_alarmCount]
  simp only [context, BuildContext.of, measurements, Stores.services, Stores.alarms,
    AlarmArchive.query, Recorded.value_bind, Recorded.value_pure]
  cases AlarmArchive.secondWindow snapshot.window.step snapshot.window.start snapshot.window.finish with
  | error error => rfl
  | ok ends => rfl

/-- Without a keyword, the archive of a snapshot finds the alarms of the section between two buckets. -/
theorem matching_archive (scope : AlarmScope) (first last : Int) :
    snapshot.stores.archive.matching scope "" first last =
      (AlarmSections.atScope scope (snapshot.alarms.listed scope)).filter fun item =>
        first ≤ item.bucket && item.bucket ≤ last := by
  rw [← AlarmSections.filter_items]
  have hselects (item : AlarmItem) : AlarmArchive.selects "" item = true := rfl
  simp only [AlarmArchive.matching, hselects, Bool.and_true]
  rfl

/-- In a window of buckets, a number of alarms is that of the covered ones of the section, up to a page. -/
theorem value_alarmCount_wellFormed (hwindow : snapshot.window.WellFormed) (halarms : snapshot.SecondAlarms)
    (scope : AlarmScope) {limit : Int} (hlimit : 0 ≤ limit) (id : Int) :
    ((snapshot.context settings).alarmCount scope limit id).value =
      min limit (snapshot.window.covered (snapshot.alarms.listed scope)) := by
  obtain ⟨first, last, hseconds, hcovers⟩ := AlarmArchive.secondWindow_of_wellFormed hwindow.1 hwindow.2
  have hmatching : (snapshot.stores.archive.matching scope "" first last).length =
      snapshot.window.covered (snapshot.alarms.listed scope) := by
    rw [matching_archive, ← List.countP_eq_length_filter, AlarmSections.atScope, List.countP_map,
      Window.covered, List.countP_map]
    refine List.countP_congr fun item hitem => ?_
    simp only [Function.comp_apply, Bool.and_eq_true, decide_eq_true_eq]
    exact hcovers item.bucket (halarms scope item hitem)
  rw [value_alarmCount_eq, hseconds]
  simp only [length_slice_first _ hlimit, hmatching]

/-- In a window with a malformed bucket, a number of alarms is zero. -/
theorem value_alarmCount_malformed (hwindow : ¬snapshot.window.WellFormed) (scope : AlarmScope)
    (limit id : Int) : ((snapshot.context settings).alarmCount scope limit id).value = 0 := by
  obtain ⟨error, herror⟩ := AlarmArchive.secondWindow_of_malformed hwindow
  rw [value_alarmCount_eq, herror]

end Snapshot

/-! ## Nodes -/

/-- Metrics without any alarm. -/
def NodeMetrics.Quiet (metrics : NodeMetrics) : Prop :=
  metrics.alarm = false ∧ metrics.serverAlarms = 0 ∧ metrics.serviceAlarms = 0

/-- Discovered applications have no alarms, since they are only mentioned. -/
theorem BuildContext.quiet_of_mentioned (context : BuildContext) {node : Node} {metrics : NodeMetrics}
    (hkind : node.kind = .application metrics) (row : ReferenceRow)
    (hnode : node ∈ context.callerNodes row ∨ node ∈ context.calleeNodes row) : metrics.Quiet := by
  obtain hcaller | hcallee := hnode
  · obtain htarget | hsource := List.mem_append.mp hcaller
    · split at htarget
      · rw [List.mem_singleton.mp htarget] at hkind
        cases hkind
      · cases htarget
    · rw [List.mem_singleton.mp hsource] at hkind
      cases hkind
      exact ⟨rfl, rfl, rfl⟩
  · unfold calleeNodes calleeMentions at hcallee
    split at hcallee
    · rw [List.mem_singleton.mp hcallee] at hkind
      cases hkind
    · split at hcallee
      · rw [List.mem_singleton.mp hcallee] at hkind
        cases hkind
      · cases hcallee

/-- Discovered nodes of a build have no alarms. -/
theorem Measurements.quiet_of_discovered (rows : Measurements) (settings : Settings) (services : Services)
    {node : Node} (hnode : node ∈ rows.discoveredNodes settings services) {metrics : NodeMetrics}
    (hkind : node.kind = .application metrics) : metrics.Quiet := by
  have hmentioned := List.mem_of_mem_filter ((firstByKey_sublist _ _).subset hnode)
  obtain hcaller | hcallee := List.mem_append.mp hmentioned
  · obtain ⟨row, -, hrow⟩ := List.mem_flatMap.mp hcaller
    exact BuildContext.quiet_of_mentioned _ hkind row (.inl hrow)
  · obtain ⟨row, -, hrow⟩ := List.mem_flatMap.mp hcallee
    exact BuildContext.quiet_of_mentioned _ hkind row (.inr hrow)

/-- The alarm fields of a metric row's node are read from the numbers of alarms at the three scopes. -/
theorem BuildContext.metricNode_alarms (context : BuildContext) (row : MetricRow) :
    ∃ metrics, (context.metricNode row).value.kind = .application metrics ∧
      metrics.alarm =
        decide ((context.alarmCount .application context.settings.alarmProbePageSize row.id).value > 0) ∧
      metrics.serverAlarms =
        (context.alarmCount .server context.settings.alarmCountPageSize row.id).value ∧
      metrics.serviceAlarms =
        (context.alarmCount .service context.settings.alarmCountPageSize row.id).value :=
  ⟨_, rfl, rfl, rfl, rfl⟩

/-- On the nodes of a snapshot's metric rows the alarm flag tells whether the window covers an alarm of the
application section, and the two numbers count the covered alarms of their sections up to a page. Without a
window of buckets, and on discovered applications, there are no alarms. -/
theorem alarms_of_sections (settings : Settings) (snapshot : Snapshot)
    (hprobe : 1 ≤ settings.alarmProbePageSize) (hcount : 0 ≤ settings.alarmCountPageSize)
    (halarms : snapshot.SecondAlarms) :
    ∃ metricNodes discovered,
      (snapshot.build settings).value.nodes = metricNodes ++ discovered ∧
      metricNodes.map (·.id) = snapshot.metrics.map (·.id) ∧
      (snapshot.window.WellFormed → ∀ node ∈ metricNodes, ∃ metrics, node.kind = .application metrics ∧
        (metrics.alarm = true ↔ ∃ item ∈ snapshot.alarms.application, snapshot.window.Covers item.bucket) ∧
        metrics.serverAlarms =
          min settings.alarmCountPageSize (snapshot.window.covered snapshot.alarms.server) ∧
        metrics.serviceAlarms =
          min settings.alarmCountPageSize (snapshot.window.covered snapshot.alarms.service)) ∧
      (¬snapshot.window.WellFormed → ∀ node ∈ metricNodes, ∃ metrics, node.kind = .application metrics ∧
        metrics.Quiet) ∧
      ∀ node ∈ discovered, ∀ metrics, node.kind = .application metrics → metrics.Quiet := by
  let services := snapshot.stores.services
  let rows := snapshot.measurements
  refine ⟨rows.metricNodes settings services, rows.discoveredNodes settings services,
    congrArg Topology.nodes (buildTopology_parts settings services rows),
    rows.ids_metricNodes settings services, ?_, ?_, ?_⟩
  · intro hwindow node hnode
    obtain ⟨row, -, rfl⟩ := List.mem_map.mp hnode
    obtain ⟨metrics, hkind, halarm, hserver, hservice⟩ :=
      (snapshot.context settings).metricNode_alarms row
    have hnumber (scope : AlarmScope) {limit : Int} (hlimit : 0 ≤ limit) :=
      snapshot.value_alarmCount_wellFormed settings hwindow halarms scope hlimit row.id
    refine ⟨metrics, hkind, ?_, hserver.trans (hnumber .server hcount),
      hservice.trans (hnumber .service hcount)⟩
    -- A page of at least one alarm is empty only when the section has no alarm to put on it.
    have hpage := hnumber .application (Int.le_trans (by decide) hprobe)
    rw [halarm, decide_eq_true_eq, ← snapshot.window.covered_pos_iff, snapshot.context_settings, hpage]
    simp only [AlarmSections.listed]
    omega
  · intro hwindow node hnode
    obtain ⟨row, -, rfl⟩ := List.mem_map.mp hnode
    obtain ⟨metrics, hkind, halarm, hserver, hservice⟩ :=
      (snapshot.context settings).metricNode_alarms row
    rw [snapshot.value_alarmCount_malformed settings hwindow] at halarm hserver hservice
    exact ⟨metrics, hkind, halarm, hserver, hservice⟩
  · intro node hnode metrics hkind
    exact rows.quiet_of_discovered settings services hnode hkind

/-- A leap month with traffic of an application and a call from another one. Of its alarms one is from the last
second of the month, one from before it and one from after it, and none carries the scope of its section. -/
def Snapshot.february : Snapshot where
  applications := [⟨2, "orders", false, none⟩]
  components := []
  catalog := .empty
  mappings := []
  metrics := [⟨2, 100, 5, 50000, 0, 90, 5, 5⟩]
  callers := [⟨3, 2, 40, 0, 500, 0⟩]
  callees := []
  servers := []
  alarms :=
    { application := [⟨"1", "slow", "", .service, 20200229235959⟩]
      server := [⟨"2", "", "", .service, 20200131235959⟩, ⟨"3", "", "", .application, 20200201000000⟩,
        ⟨"4", "", "", .application, 20200215120000⟩]
      service := [⟨"5", "", "down", .server, 20200301000000⟩] }
  window := ⟨.month, 202002, 202002, 20200201000000, 20200229235959⟩

/-- In the leap month the application is flagged, two alarms of servers are counted and none of services. -/
theorem alarms_of_sections_february :
    Snapshot.february.SecondAlarms ∧ Snapshot.february.window.WellFormed ∧
      ∃ node ∈ (Snapshot.february.build .standard).value.nodes, node.id = 2 ∧
        ∃ metrics, node.kind = .application metrics ∧ metrics.alarm = true ∧ metrics.serverAlarms = 2 ∧
          metrics.serviceAlarms = 0 := by
  have halarms : Snapshot.february.SecondAlarms := by
    intro scope
    cases scope with
    | application => decide +kernel
    | server => decide +kernel
    | service => decide +kernel
  have hwindow : Snapshot.february.window.WellFormed := ⟨by decide +kernel, by decide +kernel⟩
  refine ⟨halarms, hwindow, ?_⟩
  obtain ⟨metricNodes, discovered, hnodes, hids, hmetric, -⟩ :=
    alarms_of_sections .standard .february (by decide) (by decide) halarms
  obtain ⟨node, hnode, hid⟩ : ∃ node ∈ metricNodes, node.id = 2 :=
    List.mem_map.mp (hids ▸ List.mem_cons_self)
  obtain ⟨metrics, hkind, halarm, hserver, hservice⟩ := hmetric hwindow node hnode
  exact ⟨node, hnodes ▸ List.mem_append_left _ hnode, hid, metrics, hkind,
    halarm.mpr (by decide +kernel), hserver, hservice⟩

end ServiceTopology
