import ServiceTopology.Proofs.Graph.Outline
import ServiceTopology.Proofs.Graph.Rates
import ServiceTopology.Proofs.Time.Minutes

/-!
# Isolation of faults

Alarm queries may fail at some scopes, and the minutes of some applications may be impossible to tell. A build
then gives the topology that it would give otherwise, apart from the fields that needed a failed answer: these
have their defaults. The key of a rate is the application of a metric row, the source of a caller call and the
target of a callee call.

One kind of answer is not isolated. A number of minutes that is not positive is written into a warning, and a number
beyond the digit limit cannot be written: it ends the build, at the first row that asks for it.

The outline of the graph is the same by what is known about outlines, so what remains is one field at a time.
-/

namespace ServiceTopology

/-! ## Topologies with faults -/

section Defaults

variable (failing : AlarmScope → Prop) [DecidablePred failing] (lost : Int → Prop)
  [DecidablePred lost]

/-- A node whose alarms are unknown at failing scopes, and whose rate is unknown if its id is lost. -/
def Node.withFaults (node : Node) : Node :=
  match node.kind with
  | .application metrics =>
    { node with
      kind := .application
        { metrics with
          cpm := if lost node.id then 0 else metrics.cpm
          alarm := if failing .application then false else metrics.alarm
          serverAlarms := if failing .server then 0 else metrics.serverAlarms
          serviceAlarms := if failing .service then 0 else metrics.serviceAlarms } }
  | _ => node

/-- A call whose rate is unknown if a key of it is lost. -/
def Call.withFaults (key : Call → Int) (call : Call) : Call :=
  { call with cpm := if lost (key call) then 0 else call.cpm }

/-- A call with faults is one with the same outline, whose rate is zero if a key is lost and else the same. -/
theorem Call.eq_withFaults {key : Call → Int} {call other : Call}
    (houtline : other.outline = call.outline)
    (hcpm : other.cpm = if lost (key call) then 0 else call.cpm) :
    other = call.withFaults lost key := by
  cases call
  cases other
  simp only [outline, withFaults, Call.mk.injEq] at houtline hcpm ⊢
  simp only [houtline, hcpm, and_self]

/-- A topology with the defaults of failed lookups in its first nodes, which come from metric rows, in its first
calls, which come from caller rows, and in its other calls. -/
def Topology.withFaults (metricNodes callerCalls : Nat) (topology : Topology) : Topology where
  nodes := (topology.nodes.take metricNodes).map (·.withFaults failing lost) ++
    topology.nodes.drop metricNodes
  calls := (topology.calls.take callerCalls).map (·.withFaults lost Call.source) ++
    (topology.calls.drop callerCalls).map (·.withFaults lost Call.target)

end Defaults

/-! ## Services with faults -/

/-- Services that answer as others do, except that alarm queries fail at some scopes and that no positive
number of minutes is told for some applications. -/
structure Services.FaultyAt (services faulty : Services) (failing : AlarmScope → Prop)
    (lost : Int → Prop) : Prop where
  metadata : services.SameMetadata faulty
  servers : faulty.servers = services.servers
  alarms_failing : ∀ scope, failing scope → ∀ query,
    ∃ problem, (faulty.alarms scope query).value = .error problem
  alarms_kept : ∀ scope, ¬ failing scope → ∀ query,
    (faulty.alarms scope query).value = (services.alarms scope query).value
  minutes_lost : ∀ id, lost id → ∀ start finish minutes,
    faulty.minutes id start finish = .ok minutes → minutes ≤ 0
  minutes_kept : ∀ id, ¬ lost id → ∀ start finish,
    faulty.minutes id start finish = services.minutes id start finish

namespace Services.FaultyAt

section Fields

variable {services faulty : Services} {failing : AlarmScope → Prop} {lost : Int → Prop}
  (h : services.FaultyAt faulty failing lost) (settings : Settings) (rows : Measurements)

include h

/-- A rate is zero if its application is lost, and else as without faults. -/
theorem value_callsPerMinute [DecidablePred lost] (calls id : Int) :
    ((BuildContext.of settings faulty rows).callsPerMinute calls id).value =
      if lost id then 0 else ((BuildContext.of settings services rows).callsPerMinute calls id).value := by
  rw [BuildContext.value_callsPerMinute, BuildContext.value_callsPerMinute]
  by_cases hlost : lost id
  · have hminutes := h.minutes_lost id hlost rows.window.startSecond rows.window.finishSecond
    simp only [BuildContext.of, if_pos hlost]
    cases hlookup : faulty.minutes id rows.window.startSecond rows.window.finishSecond with
    | error problem => rfl
    | ok minutes => exact if_pos (hminutes minutes hlookup)
  · simp only [BuildContext.of, if_neg hlost, h.minutes_kept id hlost]

/-- A number of alarms is zero if its scope fails, and else as without faults. -/
theorem value_alarmCount [DecidablePred failing] (scope : AlarmScope) (limit id : Int) :
    ((BuildContext.of settings faulty rows).alarmCount scope limit id).value =
      if failing scope then 0
      else ((BuildContext.of settings services rows).alarmCount scope limit id).value := by
  rw [BuildContext.value_alarmCount, BuildContext.value_alarmCount]
  by_cases hfailing : failing scope
  · obtain ⟨problem, hproblem⟩ := h.alarms_failing scope hfailing
      ⟨"", rows.window.step, rows.window.start, rows.window.finish, limit, 0⟩
    simp only [BuildContext.of, if_pos hfailing, hproblem]
  · simp only [BuildContext.of, if_neg hfailing, h.alarms_kept scope hfailing]

end Fields

/-! ## Rows with faults -/

section Rows

variable {services faulty : Services} {failing : AlarmScope → Prop} {lost : Int → Prop}
  [DecidablePred lost] (h : services.FaultyAt faulty failing lost) (settings : Settings)
  (rows : Measurements)

include h

/-- A metric row gives the node that it gives without faults, with the defaults of failed lookups. -/
theorem value_metricNode [DecidablePred failing] (row : MetricRow) :
    ((BuildContext.of settings faulty rows).metricNode row).value =
      ((BuildContext.of settings services rows).metricNode row).value.withFaults failing lost := by
  have hcontext := h.metadata.of settings rows rows.window
  simp only [BuildContext.metricNode, Recorded.value_bind, Recorded.value_pure,
    BuildContext.value_application, Node.withFaults, h.value_callsPerMinute, h.value_alarmCount,
    hcontext.known_id, hcontext.known_code, hcontext.componentLabel_eq, BuildContext.of_services,
    h.metadata.sla, h.metadata.apdex, h.servers]
  -- The alarm flag is tested on the number of alarms, where the other fields are numbers themselves.
  by_cases hfailing : failing .application
  · simp only [if_pos hfailing]
    rfl
  · simp only [if_neg hfailing]
    rfl

/-- A caller row gives the call that it gives without faults, without a rate if its source is lost. -/
theorem callerRowCall_eq (row : ReferenceRow) :
    (BuildContext.of settings faulty rows).callerRowCall row =
      ((BuildContext.of settings services rows).callerRowCall row).withFaults lost Call.source := by
  have hcontext := h.metadata.of settings rows rows.window
  have hsource := hcontext.known_id row.source
  refine Call.eq_withFaults lost (hcontext.outline_callerRowCall row) ?_
  rw [BuildContext.callerRowCall_cpm, BuildContext.callerRowCall_cpm,
    BuildContext.callerRowCall_source, hsource]
  exact h.value_callsPerMinute settings rows row.calls _

/-- A callee row gives the call that it gives without faults, without a rate if its target is lost. -/
theorem calleeRowCall_eq (row : ReferenceRow) :
    (BuildContext.of settings faulty rows).calleeRowCall row =
      ((BuildContext.of settings services rows).calleeRowCall row).withFaults lost Call.target := by
  have hcontext := h.metadata.of settings rows rows.window
  have htarget := hcontext.known_id row.target
  refine Call.eq_withFaults lost (hcontext.outline_calleeRowCall row) ?_
  rw [BuildContext.calleeRowCall_cpm, BuildContext.calleeRowCall_cpm,
    BuildContext.calleeRowCall_target, htarget]
  exact h.value_callsPerMinute settings rows row.calls _

/-- A build with faults gives the topology that it gives without them, with the defaults of failed lookups. -/
theorem value_buildTopology [DecidablePred failing] :
    (buildTopology settings faulty rows).value =
      (buildTopology settings services rows).value.withFaults failing lost rows.metrics.length
        (rows.keptCallers settings).length := by
  have hmetrics : rows.metricNodes settings faulty =
      (rows.metricNodes settings services).map (·.withFaults failing lost) := by
    rw [Measurements.metricNodes, Measurements.metricNodes, List.map_map]
    exact List.map_congr_left fun row _ => h.value_metricNode settings rows row
  have hcallers : rows.callerCalls settings faulty =
      (rows.callerCalls settings services).map (·.withFaults lost Call.source) := by
    rw [Measurements.callerCalls, Measurements.callerCalls, List.map_map]
    exact List.map_congr_left fun row _ => h.callerRowCall_eq settings rows row
  have hcallees : rows.calleeCalls settings faulty =
      (rows.calleeCalls settings services).map (·.withFaults lost Call.target) := by
    rw [Measurements.calleeCalls, Measurements.calleeCalls, List.map_map,
      h.metadata.narrowedCallees_eq settings rows rows.window]
    exact List.map_congr_left fun row _ => h.calleeRowCall_eq settings rows row
  have hmetricsLength : (rows.metricNodes settings services).length = rows.metrics.length :=
    List.length_map _
  have hcallersLength : (rows.callerCalls settings services).length =
      (rows.keptCallers settings).length := List.length_map _
  rw [buildTopology_parts, buildTopology_parts, Topology.withFaults, List.take_left' hmetricsLength,
    List.drop_left' hmetricsLength, List.take_left' hcallersLength, List.drop_left' hcallersLength,
    hmetrics, hcallers, hcallees, h.metadata.discoveredNodes_eq settings rows rows.window]

end Rows

end Services.FaultyAt

/-! ## Builds that end early -/

/-- The minutes that are told for an application are not positive, and too long a number to be written. -/
def Services.MinutesUnwritable (services : Services) (window : Window) (id : Int) : Prop :=
  ∃ minutes, services.minutes id window.startSecond window.finishSecond = .ok minutes ∧ minutes ≤ 0 ∧
    ¬Text.Writable minutes

namespace BuildContext

variable (context : BuildContext)

/-- The fault of asking for the minutes of an application. -/
def minutesFault? (id : Int) : Option PrintFault :=
  match context.services.minutes id context.window.startSecond context.window.finishSecond with
  | .error _ => none
  | .ok minutes => if minutes ≤ 0 ∧ ¬Text.Writable minutes then some .integerTooLong else none

/-- Asking for minutes fails exactly when they are unwritable. -/
theorem minutesFault?_eq_some_iff {id : Int} {fault : PrintFault} :
    context.minutesFault? id = some fault ↔
      fault = .integerTooLong ∧ context.services.MinutesUnwritable context.window id := by
  unfold minutesFault? Services.MinutesUnwritable
  cases context.services.minutes id context.window.startSecond context.window.finishSecond with
  | error problem => simp
  | ok minutes => simp [eq_comm, and_comm]

/-- A rate fails when asking for its minutes does. -/
theorem faults_callsPerMinute (calls id : Int) :
    (context.callsPerMinute calls id).faults = (context.minutesFault? id).toList := by
  simp only [callsPerMinute, minutesFault?, Recorded.faults_bind, Recorded.faults_noteAsked, List.nil_append]
  cases context.services.minutes id context.window.startSecond context.window.finishSecond with
  | error problem => rfl
  | ok minutes =>
    by_cases hminutes : minutes ≤ 0
    · have hwarning (event : Event) : ((fun _ => (0 : Int)) <$> Recorded.emit event).faults = [] := rfl
      by_cases hwritable : Text.Writable minutes <;> simp [hminutes, hwritable, hwarning]
    · simp [hminutes]

/-- A number of alarms does not fail, since a query tells by its answer that it failed. -/
theorem faults_alarmCount (scope : AlarmScope) (limit id : Int) :
    (context.alarmCount scope limit id).faults = [] := by
  simp only [alarmCount, Recorded.faults_bind, Recorded.faults_withoutFaults, List.nil_append]
  split <;> rfl

/-- A metric row fails when asking for its own minutes does. -/
theorem faults_addMetric (assembly : Assembly) (row : MetricRow) :
    (context.addMetric assembly row).faults = (context.minutesFault? row.id).toList := by
  simp only [addMetric, metricNode, Recorded.faults_bind, Recorded.faults_pure,
    (context.onlyEmits_application _).faults, (onlyEmits_averageResponseTime _ _ _).faults, faults_callsPerMinute,
    faults_alarmCount, List.nil_append, List.append_nil]

/-- A caller row fails when asking for the minutes of its source does. -/
theorem faults_addCaller (assembly : Assembly) (row : ReferenceRow) :
    (context.addCaller assembly row).faults = (context.minutesFault? (context.callerRatedBy row)).toList := by
  simp only [addCaller, callerCall, callerRatedBy, Recorded.faults_bind, Recorded.faults_pure, value_application,
    (context.onlyEmits_application _).faults, (context.onlyEmits_shownTarget _).faults,
    (onlyEmits_averageResponseTime _ _ _).faults, faults_callsPerMinute, List.nil_append, List.append_nil]

/-- A callee row fails when asking for the minutes of its target does. -/
theorem faults_addCallee (assembly : Assembly) (row : ReferenceRow) :
    (context.addCallee assembly row).faults = (context.minutesFault? (context.calleeRatedBy row)).toList := by
  simp only [addCallee, calleeCall, calleeRatedBy, Recorded.faults_bind, Recorded.faults_pure, value_application,
    (context.onlyEmits_application _).faults, (onlyEmits_averageResponseTime _ _ _).faults, faults_callsPerMinute,
    List.nil_append, List.append_nil]

/-- Processing rows fails where asking for their minutes does, in their order. -/
theorem faults_process (metrics : List MetricRow) (callers callees : List ReferenceRow) :
    (context.process metrics callers callees).faults =
      (metrics.map (·.id) ++ callers.map context.callerRatedBy ++ callees.map context.calleeRatedBy).filterMap
        context.minutesFault? := by
  simp only [process, Recorded.faults_bind, Recorded.faults_emit, Recorded.faults_pure,
    Recorded.faults_foldlM context.faults_addMetric, Recorded.faults_foldlM context.faults_addCaller,
    Recorded.faults_foldlM context.faults_addCallee, List.filterMap_eq_flatMap_toList, List.flatMap_append,
    List.flatMap_map, List.append_assoc, List.append_nil]

end BuildContext

/-- Applications whose minutes a build asks for, in the order of the rows. -/
def Measurements.ratedBy (rows : Measurements) (settings : Settings) (services : Services) : List Int :=
  let context := BuildContext.of settings services rows
  rows.metrics.map (·.id) ++ (rows.keptCallers settings).map context.callerRatedBy ++
    (rows.narrowedCallees settings services).map context.calleeRatedBy

section Ends

variable (settings : Settings) (services : Services) (rows : Measurements)

/-- A build fails where asking for the minutes of its rows does. -/
theorem faults_buildTopology :
    (buildTopology settings services rows).faults =
      (rows.ratedBy settings services).filterMap (BuildContext.of settings services rows).minutesFault? := by
  let context := BuildContext.of settings services rows
  have hbuilt : buildTopology settings services rows =
      context.narrowCallees (withValidEnds settings.invalidApplicationId rows.callees) >>=
        context.process rows.metrics (rows.keptCallers settings) := rfl
  rw [hbuilt, Recorded.faults_bind, (context.onlyEmits_narrowCallees _).faults, context.value_narrowCallees,
    List.nil_append]
  exact context.faults_process rows.metrics (rows.keptCallers settings) (rows.narrowedCallees settings services)

/-- A build that asks for no unwritable minutes gives its topology. -/
theorem attempt_buildTopology (h : ∀ id ∈ rows.ratedBy settings services, ¬services.MinutesUnwritable rows.window id) :
    (buildTopology settings services rows).attempt =
      ⟨.ok (buildTopology settings services rows).value, (buildTopology settings services rows).trace⟩ := by
  refine Recorded.attempt_of_faultless ?_
  rw [faults_buildTopology, List.filterMap_eq_nil_iff]
  intro id hid
  rw [Option.eq_none_iff_forall_ne_some]
  intro fault hfault
  exact h id hid ((BuildContext.minutesFault?_eq_some_iff _).mp hfault).2

/-- A build that asks for unwritable minutes gives no topology. -/
theorem attempt_buildTopology_of_unwritable {id : Int} (hid : id ∈ rows.ratedBy settings services)
    (hminutes : services.MinutesUnwritable rows.window id) :
    (buildTopology settings services rows).attempt.value = .error .integerTooLong := by
  let context := BuildContext.of settings services rows
  have hmem : .integerTooLong ∈ (buildTopology settings services rows).faults := by
    rw [faults_buildTopology]
    exact List.mem_filterMap.mpr ⟨id, hid, context.minutesFault?_eq_some_iff.mpr ⟨rfl, hminutes⟩⟩
  have honly : ∀ fault ∈ (buildTopology settings services rows).faults, fault = .integerTooLong := by
    intro fault hfault
    rw [faults_buildTopology] at hfault
    obtain ⟨other, -, hother⟩ := List.mem_filterMap.mp hfault
    exact (context.minutesFault?_eq_some_iff.mp hother).1
  cases hfaults : (buildTopology settings services rows).faults with
  | nil =>
    rw [hfaults] at hmem
    cases hmem
  | cons fault later =>
    rw [hfaults] at honly
    rw [Recorded.value_attempt_of_fault hfaults, honly fault List.mem_cons_self]

end Ends

/-- Stores tell no unwritable minutes: a window has at least one. -/
theorem Stores.minutes_writable (stores : Stores) (window : Window) (id : Int) :
    ¬stores.services.MinutesUnwritable window id := by
  intro ⟨minutes, hminutes, hnonpositive, _⟩
  simp only [services, Stores.minutes] at hminutes
  cases htold : minutesOfWindow ((stores.registry.find? id).bind (·.registration)) window.startSecond
      window.finishSecond with
  | error error =>
    rw [htold] at hminutes
    cases hminutes
  | ok told =>
    obtain ⟨opens, closes, registered, -, -, -, rfl⟩ := minutesOfWindow_eq_ok.mp htold
    rw [htold] at hminutes
    cases hminutes
    exact absurd (Int.le_trans (Int.le_max_left 1 _) hnonpositive) (by decide)

/-- A build from stores always gives its topology. -/
theorem attempt_buildTopology_stores (settings : Settings) (stores : Stores) (rows : Measurements) :
    (buildTopology settings stores.services rows).attempt =
      ⟨.ok (buildTopology settings stores.services rows).value,
        (buildTopology settings stores.services rows).trace⟩ :=
  attempt_buildTopology settings stores.services rows fun id _ => stores.minutes_writable rows.window id

/-! ## Malformed registrations -/

/-- Minutes are told only when the bucket of the registration is well formed. -/
theorem wellFormed_of_minutesOfWindow {bucket start finish minutes : Int}
    (h : minutesOfWindow (some bucket) start finish = .ok minutes) :
    Bucket.WellFormed bucket .second := by
  unfold minutesOfWindow at h
  cases hstart : Bucket.parse start .second with
  | error error => simp [hstart, Bind.bind, Except.bind] at h
  | ok opens =>
    cases hfinish : Bucket.parse finish .second with
    | error error => simp [hstart, hfinish, Bind.bind, Except.bind] at h
    | ok closes =>
      cases hbucket : Bucket.parse bucket .second with
      | error error => simp [hstart, hfinish, hbucket, Bind.bind, Except.bind] at h
      | ok registered => exact ⟨registered, hbucket⟩

/-- Stores in which one application is registered again, with another registration bucket. -/
def Stores.reregister (stores : Stores) (application : Application) (bucket : Int) : Stores :=
  { stores with
    registry := stores.registry.register { application with registration := some bucket } }

/-- A registration that is no bucket loses the minutes of its application, and nothing else. -/
theorem Stores.faultyAt_reregister (stores : Stores) (application : Application)
    (hfound : stores.registry.find? application.id = some application) {bucket : Int}
    (hbucket : ¬ Bucket.WellFormed bucket .second) :
    stores.services.FaultyAt (stores.reregister application bucket).services (fun _ => False)
      (· = application.id) where
  metadata :=
    sameMetadata rfl (stores.registry.undated_find?_register application hfound (some bucket))
  servers := rfl
  alarms_failing _ hfails := hfails.elim
  alarms_kept _ _ _ := rfl
  minutes_lost id hid start finish minutes hminutes := by
    simp only [services, reregister, Stores.minutes, Registry.find?_register, hid, if_pos,
      Option.bind_some] at hminutes
    cases htold : minutesOfWindow (some bucket) start finish with
    | error error =>
      rw [htold] at hminutes
      cases hminutes
    | ok told => exact absurd (wellFormed_of_minutesOfWindow htold) hbucket
  minutes_kept id hid start finish := by
    simp only [services, reregister, Stores.minutes, Registry.find?_register, if_neg hid]

/-- When every number of minutes is positive, a build gives its topology.

When in addition alarm queries fail at some scopes and the minutes of some applications cannot be told, a build that
asks for no unwritable minutes still gives its topology, and in it only the fields that needed a failed answer differ
from the topology without faults: they have their defaults. A build that asks for unwritable minutes gives no topology
at all.

In stores, a registration that is no bucket costs the rates that are keyed by its application and nothing else. -/
theorem faults_isolated (settings : Settings) (rows : Measurements) :
    (∀ services : Services,
      (∀ id, ∃ minutes, services.minutes id rows.window.startSecond rows.window.finishSecond = .ok minutes ∧
        0 < minutes) →
      (buildTopology settings services rows).attempt.value = .ok (buildTopology settings services rows).value) ∧
    (∀ (services faulty : Services) (failing : AlarmScope → Prop) [DecidablePred failing]
        (lost : Int → Prop) [DecidablePred lost], services.FaultyAt faulty failing lost →
      ((∀ id ∈ rows.ratedBy settings faulty, ¬faulty.MinutesUnwritable rows.window id) →
        (buildTopology settings faulty rows).attempt.value =
          .ok ((buildTopology settings services rows).value.withFaults failing lost rows.metrics.length
            (rows.keptCallers settings).length)) ∧
      ∀ id ∈ rows.ratedBy settings faulty, faulty.MinutesUnwritable rows.window id →
        (buildTopology settings faulty rows).attempt.value = .error .integerTooLong) ∧
    ∀ (stores : Stores) (application : Application) (bucket : Int),
      stores.registry.find? application.id = some application →
      ¬ Bucket.WellFormed bucket .second →
        (buildTopology settings (stores.reregister application bucket).services rows).attempt.value =
          .ok ((buildTopology settings stores.services rows).value.withFaults (fun _ => False)
            (· = application.id) rows.metrics.length (rows.keptCallers settings).length) := by
  refine ⟨fun services hpositive => ?_, fun services faulty failing _ lost _ h => ⟨fun hwritable => ?_, ?_⟩, ?_⟩
  · rw [attempt_buildTopology settings services rows]
    intro id _ ⟨minutes, hminutes, hnonpositive, _⟩
    obtain ⟨told, htold, hpositive⟩ := hpositive id
    cases htold.symm.trans hminutes
    exact absurd hpositive (Int.not_lt.mpr hnonpositive)
  · rw [attempt_buildTopology settings faulty rows hwritable, h.value_buildTopology settings rows]
  · exact fun id hid => attempt_buildTopology_of_unwritable settings faulty rows hid
  · intro stores application bucket hfound hbucket
    have hfaulty := stores.faultyAt_reregister application hfound hbucket
    rw [attempt_buildTopology_stores, hfaulty.value_buildTopology settings rows]

/-- Services of the shop with failing scopes and with minutes that are told for each application. -/
def Services.shop (failing : List AlarmScope) (told : Int → Except Problem Int) : Services :=
  { { Stores.shop with archive := ⟨Stores.shop.archive.items, failing⟩ }.services with
    minutes := fun id _ _ => told id }

/-- Minutes in the shop: an error for the orders, none for the gateway and ten for all others. -/
def Services.toldInShop (id : Int) : Except Problem Int :=
  if id = 2 then .error (.describe .timeBucket "" []) else if id = 6 then .ok 0 else .ok 10

/-- The services of the shop lose the minutes of the orders and of the gateway, and alarms at two scopes. -/
theorem Services.faultyAt_shop :
    (Services.shop [] fun _ => .ok 10).FaultyAt
      (Services.shop [.application, .service] Services.toldInShop) (· ≠ .server)
      (fun id => id = 2 ∨ id = 6) where
  metadata := ⟨fun _ => rfl, rfl, rfl, rfl, rfl, rfl⟩
  servers := rfl
  alarms_failing scope hscope query := by
    cases scope with
    | application => exact ⟨_, rfl⟩
    | server => exact absurd rfl hscope
    | service => exact ⟨_, rfl⟩
  alarms_kept scope hscope query := by
    have hserver : scope = .server := Decidable.not_not.mp hscope
    subst hserver
    rfl
  minutes_lost id hid start finish minutes hminutes := by
    rcases hid with rfl | rfl
    · cases hminutes
    · cases hminutes
      exact Int.le_refl 0
  minutes_kept id hid start finish := by
    obtain ⟨horders, hgateway⟩ := not_or.mp hid
    simp only [Services.shop, Services.toldInShop, if_neg horders, if_neg hgateway]

/-- A number of minutes below zero with one digit more than can be written. -/
def Services.unwritableMinutes : Int := -(Nat.pow 10 Text.digitLimit : Nat)

/-- The number is not above zero. -/
theorem Services.unwritableMinutes_nonpos : unwritableMinutes ≤ 0 :=
  Int.neg_nonpos_of_nonneg (Int.natCast_nonneg _)

/-- The number has more digits than can be written. -/
theorem Services.not_writable_unwritableMinutes : ¬Text.Writable unwritableMinutes := by
  rw [Text.Writable, unwritableMinutes, Int.natAbs_neg, Int.natAbs_natCast]
  exact Nat.lt_irrefl _

/-- Services of the shop that tell one nonpositive number for every id lose all minutes and nothing else. -/
theorem Services.faultyAt_shop_nonpositive {minutes : Int} (hnonpositive : minutes ≤ 0) :
    (Services.shop [] fun _ => .ok 10).FaultyAt (Services.shop [] fun _ => .ok minutes)
      (fun _ => False) (fun _ => True) where
  metadata := ⟨fun _ => rfl, rfl, rfl, rfl, rfl, rfl⟩
  servers := rfl
  alarms_failing _ hfails := hfails.elim
  alarms_kept _ _ _ := rfl
  minutes_lost _ _ _ _ _ htold := by
    cases htold
    exact hnonpositive
  minutes_kept _ hkept := absurd trivial hkept

/-- In the shop both kinds of faults are isolated, and they do change the topology; the unwritable number of minutes
leaves no topology. -/
theorem faults_isolated_shop :
    let sound := Services.shop [] fun _ => .ok 10
    let faulty := Services.shop [.application, .service] Services.toldInShop
    let unwritable := Services.shop [] fun _ => .ok Services.unwritableMinutes
    let orders : Application := ⟨2, "orders", false, none⟩
    (buildTopology .standard sound .shop).attempt.value = .ok (buildTopology .standard sound .shop).value ∧
      sound.FaultyAt faulty (· ≠ .server) (fun id => id = 2 ∨ id = 6) ∧
      (buildTopology .standard faulty .shop).value ≠ (buildTopology .standard sound .shop).value ∧
      (buildTopology .standard faulty .shop).attempt.value =
        .ok ((buildTopology .standard sound .shop).value.withFaults (· ≠ .server)
          (fun id => id = 2 ∨ id = 6) 1 1) ∧
      sound.FaultyAt unwritable (fun _ => False) (fun _ => True) ∧
      (buildTopology .standard unwritable .shop).attempt.value = .error .integerTooLong ∧
      Stores.shop.registry.find? 2 = some orders ∧ ¬ Bucket.WellFormed 7 .second ∧
      (buildTopology .standard (Stores.shop.reregister orders 7).services .shop).attempt.value =
        .ok ((buildTopology .standard Stores.shop.services .shop).value.withFaults (fun _ => False)
          (· = 2) 1 1) := by
  intro sound faulty unwritable orders
  obtain ⟨hpositive, hisolated, hstores⟩ := faults_isolated .standard .shop
  have hbucket : ¬ Bucket.WellFormed 7 .second := by
    rintro ⟨moment, hmoment⟩
    cases hmoment
  have hwritable (id : Int) : ¬faulty.MinutesUnwritable Measurements.shop.window id := by
    intro ⟨minutes, hminutes, hnonpositive, hunwritable⟩
    simp only [faulty, Services.shop, Services.toldInShop] at hminutes
    split at hminutes
    · cases hminutes
    · split at hminutes
      · cases hminutes
        exact hunwritable (by decide +kernel)
      · cases hminutes
        exact absurd hnonpositive (by decide)
  refine ⟨hpositive sound fun _ => ⟨10, rfl, by decide⟩, Services.faultyAt_shop, by decide +kernel, ?_,
    Services.faultyAt_shop_nonpositive Services.unwritableMinutes_nonpos, ?_, rfl, hbucket, ?_⟩
  · exact (hisolated sound faulty _ _ Services.faultyAt_shop).1 fun id _ => hwritable id
  · refine (hisolated sound unwritable _ _
      (Services.faultyAt_shop_nonpositive Services.unwritableMinutes_nonpos)).2 2 ?_ ⟨_, rfl,
        Services.unwritableMinutes_nonpos, Services.not_writable_unwritableMinutes⟩
    exact List.mem_append_left _ (List.mem_append_left _ (List.mem_singleton_self 2))
  · exact hstores Stores.shop orders 7 rfl hbucket

/-- Where only the minutes of a shop are lost, a build may give no topology at all. -/
theorem build_without_topology :
    ¬∀ (settings : Settings) (rows : Measurements) (services faulty : Services) (failing : AlarmScope → Prop)
        (lost : Int → Prop), services.FaultyAt faulty failing lost →
      (∃ topology, (buildTopology settings services rows).attempt.value = .ok topology) →
      ∃ topology, (buildTopology settings faulty rows).attempt.value = .ok topology := by
  intro h
  have hsound : (buildTopology .standard (Services.shop [] fun _ => .ok 10) .shop).attempt.value =
      .ok (buildTopology .standard (Services.shop [] fun _ => .ok 10) .shop).value := by rfl
  obtain ⟨topology, htopology⟩ := h .standard .shop _ _ _ _
    (Services.faultyAt_shop_nonpositive Services.unwritableMinutes_nonpos) ⟨_, hsound⟩
  have horders : (2 : Int) ∈ Measurements.shop.ratedBy .standard
      (Services.shop [] fun _ => .ok Services.unwritableMinutes) :=
    List.mem_append_left _ (List.mem_append_left _ (List.mem_singleton_self 2))
  have hfails := attempt_buildTopology_of_unwritable .standard
    (Services.shop [] fun _ => .ok Services.unwritableMinutes) .shop horders
    ⟨_, rfl, Services.unwritableMinutes_nonpos, Services.not_writable_unwritableMinutes⟩
  cases hfails.symm.trans htopology

end ServiceTopology
