import ServiceTopology.Graph.Build

/-!
# Lookups and kept rows

A build looks up the metadata of every id that it meets and records a warning for an unregistered one. Here
the lookups are given as plain values, as are the fields that ask a service, and the callee rows that a build
narrows down to are given as a plain filter.

There are two such filters. One speaks of the applications found for the rows and describes every build; the
other one speaks of the ids in the rows. The two agree when metadata lookups are keyed.
-/

namespace ServiceTopology

/-- Test whether an id is that of a registered address. -/
def Services.isAddress (services : Services) (id : Int) : Bool :=
  (services.application? id).any (·.isAddress)

namespace Measurements

/-- Caller rows that are processed: those with valid ends. -/
def keptCallers (rows : Measurements) (settings : Settings) : List ReferenceRow :=
  withValidEnds settings.invalidApplicationId rows.callers

/-- Callee rows that are processed: those with valid ends that come from an address or from the users. -/
def keptCallees (rows : Measurements) (settings : Settings) (services : Services) :
    List ReferenceRow :=
  (withValidEnds settings.invalidApplicationId rows.callees).filter fun row =>
    services.isAddress row.source || row.source == settings.noneApplicationId

end Measurements

namespace BuildContext

/-- A build works with the settings that it was given. -/
@[simp] theorem of_settings (settings : Settings) (services : Services) (rows : Measurements) :
    (of settings services rows).settings = settings := rfl

/-- A build works with the services that it was given. -/
@[simp] theorem of_services (settings : Settings) (services : Services) (rows : Measurements) :
    (of settings services rows).services = services := rfl

variable (context : BuildContext)

/-- The application of an id; an unregistered one has the unknown label and is no address. -/
def known (id : Int) : Application :=
  (context.services.application? id).getD ⟨id, context.settings.unknownLabel, false, none⟩

/-- Name that is shown for an id. -/
def nameOf (id : Int) : WideText := (context.known id).code

/-- A lookup gives the known application. -/
@[simp] theorem value_application (id : Int) :
    (context.application id).value = context.known id := by
  unfold application known
  cases context.services.application? id <;> rfl

/-- A known application is an address exactly when a registered one is. -/
theorem known_isAddress (id : Int) :
    (context.known id).isAddress = context.services.isAddress id := by
  unfold known Services.isAddress
  cases context.services.application? id <;> rfl

/-- With keyed lookups a known application carries the id that was asked for. -/
theorem known_id {context : BuildContext} (hkeyed : context.services.Keyed) (id : Int) :
    (context.known id).id = id := by
  unfold known
  cases happlication : context.services.application? id with
  | none => rfl
  | some application => exact hkeyed id application happlication

/-- A rate is the calls by the minutes, rounded down, and zero without a positive number of minutes. -/
theorem value_callsPerMinute (calls id : Int) :
    (context.callsPerMinute calls id).value =
      match context.services.minutes id context.window.startSecond context.window.finishSecond with
      | .error _ => 0
      | .ok minutes => if minutes ≤ 0 then 0 else calls.fdiv minutes := by
  simp only [callsPerMinute, Recorded.value_bind]
  cases context.services.minutes id context.window.startSecond context.window.finishSecond with
  | error problem => rfl
  | ok minutes =>
    by_cases hminutes : minutes ≤ 0
    · simp only [if_pos hminutes]
      rfl
    · simp only [if_neg hminutes, Recorded.value_pure]

/-- An average is the durations by the calls, and zero without calls. -/
theorem value_averageResponseTime (durations calls id : Int) :
    (averageResponseTime durations calls id).value =
      if calls ≤ 0 then 0 else mkRat durations calls.toNat := by
  unfold averageResponseTime
  split <;> rfl

/-- A number of alarms is that of the page, and zero when the query fails. -/
theorem value_alarmCount (scope : AlarmScope) (limit id : Int) :
    (context.alarmCount scope limit id).value =
      match (context.services.alarms scope
        ⟨"", context.window.step, context.window.start, context.window.finish, limit, 0⟩).value with
      | .ok page => (page.items.length : Int)
      | .error _ => 0 := by
  simp only [alarmCount, Recorded.value_bind, Recorded.value_withoutFaults]
  cases (context.services.alarms scope
    ⟨"", context.window.step, context.window.start, context.window.finish, limit, 0⟩).value with
  | ok page => rfl
  | error problem => rfl

/-- A lookup does nothing but warn. -/
theorem onlyEmits_application (id : Int) : (context.application id).OnlyEmits := by
  unfold application
  cases context.services.application? id with
  | none => exact (Recorded.onlyEmits_emit _).bind fun _ => Recorded.onlyEmits_pure _
  | some application => exact Recorded.onlyEmits_pure _

/-- An average does nothing but warn. -/
theorem onlyEmits_averageResponseTime (durations calls id : Int) :
    (averageResponseTime durations calls id).OnlyEmits := by
  unfold averageResponseTime
  split
  · exact (Recorded.onlyEmits_emit _).bind fun _ => Recorded.onlyEmits_pure _
  · exact Recorded.onlyEmits_pure _

/-- Showing a target does nothing but warn. -/
theorem onlyEmits_shownTarget (target : Application) : (context.shownTarget target).OnlyEmits := by
  unfold shownTarget
  dsimp only
  split
  · exact Recorded.onlyEmits_pure _
  · exact context.onlyEmits_application _

/-- Narrowing does nothing but warn. -/
theorem onlyEmits_narrowCallees (rows : List ReferenceRow) : (context.narrowCallees rows).OnlyEmits := by
  induction rows with
  | nil => exact Recorded.onlyEmits_pure _
  | cons row rest ih =>
    have houtside : (context.comesFromOutside row).OnlyEmits :=
      (context.onlyEmits_application row.source).bind fun _ => Recorded.onlyEmits_pure _
    exact houtside.bind fun _ => ih.bind fun _ => Recorded.onlyEmits_pure _

/-- Test whether a callee row comes from outside, by what is known about its source. -/
def isOutside (row : ReferenceRow) : Bool :=
  (context.known row.source).isAddress ||
    (context.known row.source).id == context.settings.noneApplicationId

/-- Narrowing keeps the rows whose known source is an address or stands for the users. -/
theorem value_narrowCallees (rows : List ReferenceRow) :
    (context.narrowCallees rows).value = rows.filter context.isOutside := by
  induction rows with
  | nil => rfl
  | cons row rest ih =>
    simp only [narrowCallees, comesFromOutside, Recorded.value_bind, Recorded.value_pure,
      value_application, ih, List.filter_cons]
    rfl

end BuildContext

/-- Callee rows that are processed, by what lookups of any kind give for their sources. -/
def Measurements.narrowedCallees (rows : Measurements) (settings : Settings) (services : Services) :
    List ReferenceRow :=
  (withValidEnds settings.invalidApplicationId rows.callees).filter
    (BuildContext.of settings services rows).isOutside

/-- With keyed lookups a build narrows its callee rows down to the kept ones. -/
theorem Measurements.narrowedCallees_eq (rows : Measurements) (settings : Settings)
    {services : Services} (hkeyed : services.Keyed) :
    rows.narrowedCallees settings services = rows.keptCallees settings services := by
  unfold narrowedCallees keptCallees
  congr 1
  funext row
  rw [BuildContext.isOutside, BuildContext.known_isAddress, BuildContext.known_id hkeyed,
    BuildContext.of_services, BuildContext.of_settings]

end ServiceTopology
