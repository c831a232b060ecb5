import ServiceTopology.Graph.Assembly
import ServiceTopology.Graph.Labels
import ServiceTopology.Settings
import ServiceTopology.Text.Case

/-!
# Building a topology

Turn the rows of one window into a topology. Metric rows give application nodes with metrics. A caller row
gives a call from its source to the canonical application of its target, and may discover its target as a
conjectured endpoint and its source as an application without metrics. A callee row counts only when its
source lies outside the instrumented system: it gives a call as reported and may discover its source as the
users or as a conjectured endpoint.

A lookup that fails is recorded as an event and leaves the default in its field alone, so that a build still
gives a topology. There is one exception: a number of minutes that is not positive is written into the event, and
one beyond the digit limit cannot be written, which ends the build.
-/

namespace ServiceTopology

/-- The rows of one window. -/
structure Measurements where
  window : Window
  components : List ComponentRow
  mappings : List MappingRow
  metrics : List MetricRow
  callers : List ReferenceRow
  callees : List ReferenceRow
  deriving DecidableEq

/-- What stays fixed while rows are processed. -/
structure BuildContext where
  settings : Settings
  services : Services
  window : Window
  componentLabels : Table WideText
  serverLabels : Table WideText
  aliases : Table Int

namespace BuildContext

/-- Prepare the context of a build. -/
def of (settings : Settings) (services : Services) (rows : Measurements) : BuildContext where
  settings := settings
  services := services
  window := rows.window
  componentLabels := ServiceTopology.componentLabels services rows.components
  serverLabels := ServiceTopology.serverLabels services rows.components
  aliases := aliasTable rows.mappings

/-! ## Lookups -/

/-- Find an application; an unknown one gets the unknown label. -/
def application (context : BuildContext) (id : Int) : Recorded Application :=
  match context.services.application? id with
  | some application => pure application
  | none => do
    Recorded.emit (.applicationNotFound id)
    return ⟨id, context.settings.unknownLabel, false, none⟩

/-- Component label of an application. -/
def componentLabel (context : BuildContext) (id : Int) : WideText :=
  (context.componentLabels.get? id).getD context.settings.unknownLabel

/-- Server type label of an application. -/
def serverLabel (context : BuildContext) (id : Int) : WideText :=
  (context.serverLabels.get? id).getD context.settings.unknownLabel

/-- Calls per minute, zero when the minutes of the application cannot be told. -/
def callsPerMinute (context : BuildContext) (calls id : Int) : Recorded Int := do
  Recorded.noteAsked id
  match context.services.minutes id context.window.startSecond context.window.finishSecond with
  | .error problem =>
    Recorded.emit (.cpmLookupFailed id problem.detail)
    return 0
  | .ok minutes =>
    if minutes ≤ 0 then
      Recorded.require (Text.Writable minutes) .integerTooLong
      Recorded.emit (.cpmLookupFailed id ("non-positive minutes: " ++ Text.decimal minutes))
      return 0
    else return calls.fdiv minutes

/-- Average duration of a call, zero when there were none. -/
def averageResponseTime (durations calls id : Int) : Recorded Rat :=
  if calls ≤ 0 then do
    Recorded.emit (.zeroCallsMetric id)
    return 0
  else return mkRat durations calls.toNat

/-- Number of alarms of the window at a scope, at most a page of them; zero when they cannot be told. -/
def alarmCount (context : BuildContext) (scope : AlarmScope) (limit id : Int) : Recorded Int := do
  let window := context.window
  let query : AlarmQuery := ⟨"", window.step, window.start, window.finish, limit, 0⟩
  let result ← (context.services.alarms scope query).withoutFaults
  match result with
  | .ok page => return page.items.length
  | .error problem =>
    Recorded.emit (.alarmQueryFailed scope id problem.detail)
    return 0

/-! ## Nodes -/

/-- Node of a metric row. -/
def metricNode (context : BuildContext) (row : MetricRow) : Recorded Node := do
  let application ← context.application row.id
  let window := context.window
  let cpm ← context.callsPerMinute row.calls row.id
  let average ← averageResponseTime row.durations row.calls row.id
  let alarms ← context.alarmCount .application context.settings.alarmProbePageSize row.id
  let serverAlarms ← context.alarmCount .server context.settings.alarmCountPageSize row.id
  let serviceAlarms ← context.alarmCount .service context.settings.alarmCountPageSize row.id
  let metrics : NodeMetrics :=
    { sla := context.services.sla row.errorCalls row.calls
      cpm
      averageResponseTime := average
      apdex := context.services.apdex row.satisfied row.tolerating row.frustrated
      alarm := alarms > 0
      servers := (context.services.servers row.id window.startSecond window.finishSecond).length
      serverAlarms
      serviceAlarms }
  return ⟨row.id, application.code, context.componentLabel application.id, .application metrics⟩

/-- Node of an endpoint that is known only from calls. -/
def conjecturalNode (application : Application) (type : WideText) : Node :=
  ⟨application.id, application.code, type, .conjectural⟩

/-- Node of the users. -/
def userNode (context : BuildContext) : Node :=
  ⟨context.settings.noneApplicationId, context.settings.userCode,
    context.settings.userCode.upper, .user⟩

/-- Node of an application without a metric row in the window. -/
def syntheticNode (context : BuildContext) (application : Application) : Node :=
  ⟨application.id, application.code, context.componentLabel application.id,
    .application
      { sla := context.settings.syntheticNodeSla
        cpm := 0
        averageResponseTime := 0
        apdex := context.settings.syntheticNodeApdex
        alarm := false
        servers := 0
        serverAlarms := 0
        serviceAlarms := 0 }⟩

/-- Nodes that a caller row mentions: an address without an alias, then the source. -/
def callerMentions (context : BuildContext) (source target : Application) : List Node :=
  (if target.isAddress && !context.aliases.contains target.id then
    [conjecturalNode target (context.serverLabel target.id)]
  else []) ++ [context.syntheticNode source]

/-- Nodes that a callee row mentions: the users, or an address labelled by what it calls. -/
def calleeMentions (context : BuildContext) (source target : Application) : List Node :=
  if source.id = context.settings.noneApplicationId then [context.userNode]
  else if source.isAddress then [conjecturalNode source (context.serverLabel target.id)]
  else []

/-! ## Calls -/

/-- Application that a call to a target is shown to reach. -/
def shownTarget (context : BuildContext) (target : Application) : Recorded Application :=
  let canonical := (context.aliases.get? target.id).getD target.id
  if canonical = target.id then pure target else context.application canonical

/-- Call of a caller row, classified by the target as reported and rated by its source. -/
def callerCall (context : BuildContext) (row : ReferenceRow) (source target : Application) :
    Recorded Call := do
  let shown ← context.shownTarget target
  let cpm ← context.callsPerMinute row.calls source.id
  let average ← averageResponseTime row.durations row.calls source.id
  return ⟨source.id, source.code, shown.id, shown.code, context.componentLabel row.target, cpm,
    average, false⟩

/-- Call of a callee row, rated by its target; a call of the users has no type. -/
def calleeCall (context : BuildContext) (row : ReferenceRow) (source target : Application) :
    Recorded Call := do
  let cpm ← context.callsPerMinute row.calls target.id
  let average ← averageResponseTime row.durations row.calls target.id
  let callType : WideText :=
    if source.id = context.settings.noneApplicationId then "" else context.componentLabel row.target
  return ⟨source.id, source.code, target.id, target.code, callType, cpm, average, false⟩

/-! ## Rows -/

/-- Test whether a callee row comes from outside the instrumented system. -/
def comesFromOutside (context : BuildContext) (row : ReferenceRow) : Recorded Bool := do
  let source ← context.application row.source
  return source.isAddress || source.id == context.settings.noneApplicationId

/-- Keep the callee rows that come from outside the instrumented system. -/
def narrowCallees (context : BuildContext) : List ReferenceRow → Recorded (List ReferenceRow)
  | [] => pure []
  | row :: rest => do
    let outside ← context.comesFromOutside row
    let kept ← context.narrowCallees rest
    return if outside then row :: kept else kept

/-- Process a metric row. -/
def addMetric (context : BuildContext) (assembly : Assembly) (row : MetricRow) :
    Recorded Assembly := do
  let node ← context.metricNode row
  return assembly.addNode node

/-- Process a caller row. -/
def addCaller (context : BuildContext) (assembly : Assembly) (row : ReferenceRow) :
    Recorded Assembly := do
  let source ← context.application row.source
  let target ← context.application row.target
  let call ← context.callerCall row source target
  return (assembly.discoverAll (context.callerMentions source target)).addCall call

/-- Process a callee row. -/
def addCallee (context : BuildContext) (assembly : Assembly) (row : ReferenceRow) :
    Recorded Assembly := do
  let source ← context.application row.source
  let target ← context.application row.target
  let call ← context.calleeCall row source target
  return (assembly.discoverAll (context.calleeMentions source target)).addCall call

end BuildContext

/-- Build the topology of one window. -/
def buildTopology (settings : Settings) (services : Services) (rows : Measurements) :
    Recorded Topology := do
  let context := BuildContext.of settings services rows
  let callers := withValidEnds settings.invalidApplicationId rows.callers
  let callees ← context.narrowCallees (withValidEnds settings.invalidApplicationId rows.callees)
  let withMetrics ← rows.metrics.foldlM context.addMetric .empty
  let withCallers ← callers.foldlM context.addCaller withMetrics
  let withCallees ← callees.foldlM context.addCallee withCallers
  let topology := withCallees.topology
  Recorded.emit (.topologyBuilt topology.nodes.length topology.calls.length rows.window.step)
  return topology

end ServiceTopology
