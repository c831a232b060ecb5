import ServiceTopology.Proofs.Graph.Irrelevance
import ServiceTopology.Proofs.Graph.Outline

/-!
# Events of a build

A build asks for metadata, minutes, averages and alarms, and every answer leaves at most one event. Here the
requests of a build are listed in their order, and its events are what these requests report, followed by one
event about the finished topology.

Alarm queries announce themselves, so their events belong to the services. What is asked of them holds of
stores: a query that succeeds leaves one event and a query that fails leaves none.
-/

namespace ServiceTopology

/-! ## Requests -/

/-- What a build asks for. -/
inductive BuildRequest where
  | metadata (id : Int)
  | minutes (id : Int)
  | average (calls id : Int)
  | alarms (scope : AlarmScope) (limit id : Int)
  deriving DecidableEq

/-- A query for alarms leaves one event with the number of matches when it succeeds, and none when it fails. -/
def Services.AnnouncesQueries (services : Services) : Prop :=
  ∀ scope query,
    (services.alarms scope query).events =
      match (services.alarms scope query).value with
      | .ok page => [.alarmQuery scope page.total query.limit]
      | .error _ => []

/-- Stores announce alarm queries. -/
theorem Stores.announcesQueries (stores : Stores) : stores.services.AnnouncesQueries := by
  intro scope query
  simp only [services, alarms, Recorded.events_bind, Recorded.events_pure, Recorded.value_bind,
    Recorded.value_pure, List.append_nil]
  unfold AlarmArchive.query
  split
  · rfl
  · split
    · rfl
    · rfl

namespace BuildContext

variable (context : BuildContext)

/-- The event that a request leaves, if it leaves one: a warning about an id that is not registered, about
minutes that cannot be told or are not positive, or about an average without calls, and the fate of an alarm
query. -/
def report : BuildRequest → Option Event
  | .metadata id =>
    if (context.services.application? id).isNone then some (.applicationNotFound id) else none
  | .minutes id =>
    match context.services.minutes id context.window.startSecond context.window.finishSecond with
    | .error problem => some (.cpmLookupFailed id problem.detail)
    | .ok minutes =>
      if minutes ≤ 0 then
        some (.cpmLookupFailed id ("non-positive minutes: " ++ Text.decimal minutes))
      else none
  | .average calls id => if calls ≤ 0 then some (.zeroCallsMetric id) else none
  | .alarms scope limit id =>
    match (context.services.alarms scope
      ⟨"", context.window.step, context.window.start, context.window.finish, limit, 0⟩).value with
    | .ok page => some (.alarmQuery scope page.total limit)
    | .error problem => some (.alarmQueryFailed scope id problem.detail)

/-- Requests of a metric row. -/
def metricRequests (row : MetricRow) : List BuildRequest :=
  [.metadata row.id, .minutes row.id, .average row.calls row.id,
    .alarms .application context.settings.alarmProbePageSize row.id,
    .alarms .server context.settings.alarmCountPageSize row.id,
    .alarms .service context.settings.alarmCountPageSize row.id]

/-- Requests for the application that a target is shown as: the canonical one when it is another one. -/
def canonicalRequests (target : Application) : List BuildRequest :=
  let canonical := (context.aliases.get? target.id).getD target.id
  if canonical = target.id then [] else [.metadata canonical]

/-- Requests of a caller row: both ends, the canonical application of the target, and what the rate and the
average of the source need. -/
def callerRequests (row : ReferenceRow) : List BuildRequest :=
  let source := context.known row.source
  [.metadata row.source, .metadata row.target] ++
    context.canonicalRequests (context.known row.target) ++
    [.minutes source.id, .average row.calls source.id]

/-- Requests of a callee row: both ends, and what the rate and the average of the target need. -/
def calleeRequests (row : ReferenceRow) : List BuildRequest :=
  let target := context.known row.target
  [.metadata row.source, .metadata row.target, .minutes target.id, .average row.calls target.id]

/-! ## What one row tells -/

/-- A lookup tells what its request reports. -/
theorem events_application (id : Int) :
    (context.application id).events = (context.report (.metadata id)).toList := by
  simp only [application, report]
  cases context.services.application? id <;> rfl

/-- A rate tells what its request reports. -/
theorem events_callsPerMinute (calls id : Int) :
    (context.callsPerMinute calls id).events = (context.report (.minutes id)).toList := by
  simp only [callsPerMinute, report, Recorded.events_bind, Recorded.events_noteAsked, List.nil_append]
  cases context.services.minutes id context.window.startSecond context.window.finishSecond with
  | error problem => rfl
  | ok minutes =>
    by_cases hminutes : minutes ≤ 0
    · simp only [if_pos hminutes, Recorded.events_bind, Recorded.events_require]
      rfl
    · simp only [if_neg hminutes]
      rfl

/-- An average tells what its request reports. -/
theorem events_averageResponseTime (durations calls id : Int) :
    (averageResponseTime durations calls id).events = (context.report (.average calls id)).toList := by
  unfold averageResponseTime report
  by_cases hcalls : calls ≤ 0
  · simp only [if_pos hcalls]
    rfl
  · simp only [if_neg hcalls]
    rfl

/-- A number of alarms tells what its request reports. -/
theorem events_alarmCount {context : BuildContext} (h : context.services.AnnouncesQueries)
    (scope : AlarmScope) (limit id : Int) :
    (context.alarmCount scope limit id).events = (context.report (.alarms scope limit id)).toList := by
  simp only [alarmCount, report, Recorded.events_bind, Recorded.events_withoutFaults,
    Recorded.value_withoutFaults, h scope]
  cases (context.services.alarms scope
    ⟨"", context.window.step, context.window.start, context.window.finish, limit, 0⟩).value with
  | ok page => rfl
  | error problem => rfl

/-- A shown target tells what its requests report. -/
theorem events_shownTarget (target : Application) :
    (context.shownTarget target).events =
      (context.canonicalRequests target).filterMap context.report := by
  unfold shownTarget canonicalRequests
  dsimp only
  split
  · rfl
  · rw [events_application, List.filterMap_eq_flatMap_toList, List.flatMap_singleton]

/-- A metric row tells what its requests report. -/
theorem events_addMetric {context : BuildContext} (h : context.services.AnnouncesQueries)
    (assembly : Assembly) (row : MetricRow) :
    (context.addMetric assembly row).events =
      (context.metricRequests row).filterMap context.report := by
  simp only [addMetric, metricNode, metricRequests, Recorded.events_bind, Recorded.events_pure,
    Recorded.value_bind, events_application, events_callsPerMinute,
    context.events_averageResponseTime, events_alarmCount h, List.filterMap_eq_flatMap_toList,
    List.flatMap_cons, List.flatMap_nil, List.append_nil]

/-- A caller row tells what its requests report. -/
theorem events_addCaller (assembly : Assembly) (row : ReferenceRow) :
    (context.addCaller assembly row).events =
      (context.callerRequests row).filterMap context.report := by
  simp only [addCaller, callerCall, callerRequests, Recorded.events_bind, Recorded.events_pure,
    value_application, events_application, events_callsPerMinute, context.events_averageResponseTime,
    events_shownTarget, List.filterMap_eq_flatMap_toList, List.flatMap_append, List.flatMap_cons,
    List.flatMap_nil, List.append_nil, List.append_assoc]

/-- A callee row tells what its requests report. -/
theorem events_addCallee (assembly : Assembly) (row : ReferenceRow) :
    (context.addCallee assembly row).events =
      (context.calleeRequests row).filterMap context.report := by
  simp only [addCallee, calleeCall, calleeRequests, Recorded.events_bind, Recorded.events_pure,
    value_application, events_application, events_callsPerMinute, context.events_averageResponseTime,
    List.filterMap_eq_flatMap_toList, List.flatMap_cons, List.flatMap_nil, List.append_nil]

/-- Narrowing tells what the lookups of the sources report. -/
theorem events_narrowCallees (rows : List ReferenceRow) :
    (context.narrowCallees rows).events =
      (rows.map fun row => .metadata row.source).filterMap context.report := by
  induction rows with
  | nil => rfl
  | cons row rest ih =>
    simp only [narrowCallees, comesFromOutside, Recorded.events_bind, Recorded.events_pure, ih,
      events_application, List.filterMap_eq_flatMap_toList, List.map_cons, List.flatMap_cons,
      List.append_nil]

/-- Processing rows tells what the requests of the rows report, and then that the topology is finished. -/
theorem events_process {context : BuildContext} (h : context.services.AnnouncesQueries)
    (metrics : List MetricRow) (callers callees : List ReferenceRow) :
    let processed := context.process metrics callers callees
    processed.events =
      (metrics.flatMap context.metricRequests ++ callers.flatMap context.callerRequests ++
          callees.flatMap context.calleeRequests).filterMap context.report ++
        [.topologyBuilt processed.value.nodes.length processed.value.calls.length
          context.window.step] := by
  intro processed
  simp only [processed, process, Recorded.events_bind, Recorded.events_emit, Recorded.events_pure,
    Recorded.events_foldlM (events_addMetric h), Recorded.events_foldlM context.events_addCaller,
    Recorded.events_foldlM context.events_addCallee, Recorded.value_bind, Recorded.value_pure,
    List.filterMap_append, List.filterMap_flatMap, List.append_assoc, List.append_nil]

/-- No request reports a finished topology. -/
theorem report_ne_topologyBuilt (request : BuildRequest) (nodes calls : Nat) (step : Step) :
    context.report request ≠ some (.topologyBuilt nodes calls step) := by
  intro h
  unfold report at h
  repeat' split at h
  all_goals cases h

end BuildContext

/-! ## Whole builds -/

/-- Requests of a build: those of narrowing, then those of the metric rows, of the kept caller rows and of the
narrowed callee rows, row by row. -/
def Measurements.requests (rows : Measurements) (settings : Settings) (services : Services) :
    List BuildRequest :=
  let context := BuildContext.of settings services rows
  ((withValidEnds settings.invalidApplicationId rows.callees).map fun row => .metadata row.source) ++
    rows.metrics.flatMap context.metricRequests ++
    (rows.keptCallers settings).flatMap context.callerRequests ++
    (rows.narrowedCallees settings services).flatMap context.calleeRequests

/-- A build tells what its requests report, in their order, and then once that the topology is finished, with
the numbers of its nodes and calls. So every lookup that fails leaves one warning with the key that it was asked
for, and nothing else leaves one. -/
theorem events_of_requests (settings : Settings) (services : Services) (rows : Measurements)
    (h : services.AnnouncesQueries) :
    let told := (rows.requests settings services).filterMap
      (BuildContext.of settings services rows).report
    let built := buildTopology settings services rows
    built.events =
        told ++ [.topologyBuilt built.value.nodes.length built.value.calls.length rows.window.step] ∧
      ∀ nodes calls step, .topologyBuilt nodes calls step ∉ told := by
  intro told built
  constructor
  · let context := BuildContext.of settings services rows
    have hbuilt : built =
        context.narrowCallees (withValidEnds settings.invalidApplicationId rows.callees) >>=
          context.process rows.metrics (rows.keptCallers settings) := rfl
    have hannounced : context.services.AnnouncesQueries := h
    have htold := BuildContext.events_process hannounced rows.metrics (rows.keptCallers settings)
      (rows.narrowedCallees settings services)
    rw [hbuilt, Recorded.events_bind, Recorded.value_bind, context.events_narrowCallees,
      context.value_narrowCallees]
    refine (congrArg _ htold).trans ?_
    rw [← List.append_assoc, ← List.filterMap_append, ← List.append_assoc, ← List.append_assoc]
    rfl
  · intro nodes calls step hmem
    obtain ⟨request, -, hreport⟩ := List.mem_filterMap.mp hmem
    exact BuildContext.report_ne_topologyBuilt _ request nodes calls step hreport

/-- Rows of the shop with troubles: orders without calls, an alias for the database that leads to an application
that is not registered, and a callee row whose source is not registered either. -/
def Measurements.troubled : Measurements :=
  { Measurements.shop with
    mappings := [⟨8, 5⟩]
    metrics := [⟨2, 0, 0, 50000, 0, 90, 5, 5⟩]
    callees := [⟨6, 2, 20, 0, 500, 0⟩, ⟨9, 2, 10, 0, 100, 0⟩] }

/-- Where the registration of the orders is no bucket and alarms of services cannot be queried, every trouble
leaves one warning. -/
theorem events_of_requests_troubled :
    Stores.shopElsewhere.services.AnnouncesQueries ∧
      let lost := Event.cpmLookupFailed 2 "Time bucket 7 does not match second granularity"
      (buildTopology .standard Stores.shopElsewhere.services .troubled).events =
        [.applicationNotFound 9, lost, .zeroCallsMetric 2, .alarmQuery .application 0 1,
          .alarmQuery .server 0 1000, .alarmQueryFailed .service 2 "service alarm query failed",
          .applicationNotFound 8, lost, lost, .topologyBuilt 2 2 .minute] := by
  have hannounced := Stores.shopElsewhere.announcesQueries
  exact ⟨hannounced,
    (events_of_requests .standard Stores.shopElsewhere.services .troubled hannounced).1.trans
      (by decide +kernel)⟩

end ServiceTopology
