import Mathlib.Data.List.Forall2
import Mathlib.Data.Int.Cast.Lemmas
import Mathlib.Data.Rat.Lemmas
import ServiceTopology.Proofs.Graph.Irrelevance

/-!
# Rates and averages

A rate divides the calls of a row by the minutes of one application, and an average divides its durations by its calls.
Here is which minutes a build asks for, in their order, and what it makes of the answers: rates are rounded down, while
averages are exact.

A metric row is rated by its own id, a caller row by its source and a callee row by its target. Lookups may give
another id than the one in the row; with keyed lookups they do not. Whatever alarm services ask for themselves is not
the build's doing, so for the list of what is asked they are required to ask for no minutes, as those of stores do.
-/

namespace ServiceTopology

/-! ## What is asked -/

/-- Alarm queries do not ask for minutes. -/
def Services.AlarmsAskNoMinutes (services : Services) : Prop :=
  ∀ scope query, (services.alarms scope query).asked = []

/-- Alarm queries of stores do not ask for minutes. -/
theorem Stores.alarmsAskNoMinutes (stores : Stores) : stores.services.AlarmsAskNoMinutes := by
  intro scope query
  simp only [services, alarms, Recorded.asked_bind, Recorded.asked_pure, List.append_nil]
  unfold AlarmArchive.query
  split
  · rfl
  · split
    · rfl
    · rfl

namespace BuildContext

variable (context : BuildContext)

/-- A rate asks once, for the minutes of its application. -/
theorem asked_callsPerMinute (calls id : Int) : (context.callsPerMinute calls id).asked = [id] := by
  simp only [callsPerMinute, Recorded.asked_bind, Recorded.asked_noteAsked]
  cases context.services.minutes id context.window.startSecond context.window.finishSecond with
  | error problem => rfl
  | ok minutes =>
    by_cases hminutes : minutes ≤ 0
    · simp only [if_pos hminutes, Recorded.asked_bind, Recorded.asked_require]
      rfl
    · simp only [if_neg hminutes]
      rfl

/-- A number of alarms asks for no minutes, unless the query does. -/
theorem asked_alarmCount {context : BuildContext} (h : context.services.AlarmsAskNoMinutes) (scope : AlarmScope)
    (limit id : Int) : (context.alarmCount scope limit id).asked = [] := by
  simp only [alarmCount, Recorded.asked_bind, Recorded.asked_withoutFaults, h scope, List.nil_append]
  split <;> rfl

/-- Application whose minutes rate a caller row. -/
def callerRatedBy (row : ReferenceRow) : Int := (context.known row.source).id

/-- Application whose minutes rate a callee row. -/
def calleeRatedBy (row : ReferenceRow) : Int := (context.known row.target).id

/-- A metric row asks once, for its own minutes. -/
theorem asked_addMetric {context : BuildContext} (h : context.services.AlarmsAskNoMinutes) (assembly : Assembly)
    (row : MetricRow) : (context.addMetric assembly row).asked = [row.id] := by
  simp only [addMetric, metricNode, Recorded.asked_bind, Recorded.asked_pure,
    (context.onlyEmits_application _).asked, asked_callsPerMinute, (onlyEmits_averageResponseTime _ _ _).asked,
    asked_alarmCount h, List.nil_append, List.append_nil]

/-- A caller row asks once, for the minutes of its source. -/
theorem asked_addCaller (assembly : Assembly) (row : ReferenceRow) :
    (context.addCaller assembly row).asked = [context.callerRatedBy row] := by
  simp only [addCaller, callerCall, Recorded.asked_bind, Recorded.asked_pure, value_application,
    (context.onlyEmits_application _).asked, (context.onlyEmits_shownTarget _).asked, asked_callsPerMinute,
    (onlyEmits_averageResponseTime _ _ _).asked, List.nil_append, List.append_nil]
  rfl

/-- A callee row asks once, for the minutes of its target. -/
theorem asked_addCallee (assembly : Assembly) (row : ReferenceRow) :
    (context.addCallee assembly row).asked = [context.calleeRatedBy row] := by
  simp only [addCallee, calleeCall, Recorded.asked_bind, Recorded.asked_pure, value_application,
    (context.onlyEmits_application _).asked, asked_callsPerMinute, (onlyEmits_averageResponseTime _ _ _).asked,
    List.nil_append, List.append_nil]
  rfl

/-- Processing rows asks once for each of them, in their order. -/
theorem asked_process {context : BuildContext} (h : context.services.AlarmsAskNoMinutes) (metrics : List MetricRow)
    (callers callees : List ReferenceRow) :
    (context.process metrics callers callees).asked =
      metrics.map (·.id) ++ callers.map context.callerRatedBy ++ callees.map context.calleeRatedBy := by
  simp only [process, Recorded.asked_bind, Recorded.asked_emit, Recorded.asked_pure,
    Recorded.asked_foldlM (asked_addMetric h), Recorded.asked_foldlM context.asked_addCaller,
    Recorded.asked_foldlM context.asked_addCallee, List.map_eq_flatMap, List.append_assoc, List.append_nil]

end BuildContext

/-- A build asks once for each metric row, each kept caller row and each narrowed callee row, in their order. -/
theorem asked_buildTopology (settings : Settings) {services : Services} (h : services.AlarmsAskNoMinutes)
    (rows : Measurements) :
    let context := BuildContext.of settings services rows
    (buildTopology settings services rows).asked =
      rows.metrics.map (·.id) ++ (rows.keptCallers settings).map context.callerRatedBy ++
        (rows.narrowedCallees settings services).map context.calleeRatedBy := by
  intro context
  have hbuilt : buildTopology settings services rows =
      context.narrowCallees (withValidEnds settings.invalidApplicationId rows.callees) >>=
        context.process rows.metrics (rows.keptCallers settings) := rfl
  have hservices : context.services.AlarmsAskNoMinutes := h
  rw [hbuilt, Recorded.asked_bind, (context.onlyEmits_narrowCallees _).asked, context.value_narrowCallees,
    List.nil_append]
  exact BuildContext.asked_process hservices rows.metrics (rows.keptCallers settings)
    (rows.narrowedCallees settings services)

/-! ## What is made of the answers -/

/-- A rate is the number of calls divided by the minutes that are told and rounded down, and zero unless a positive
number of minutes is told. -/
structure IsRate (told : Except Problem Int) (calls rate : Int) : Prop where
  floor : ∀ minutes, told = .ok minutes → 0 < minutes → rate * minutes ≤ calls ∧ calls < (rate + 1) * minutes
  untold : (¬∃ minutes, told = .ok minutes ∧ 0 < minutes) → rate = 0

/-- An average is the fraction in lowest terms that gives the durations when it is multiplied with the calls, and zero
without calls. -/
structure IsAverage (durations calls : Int) (average : Rat) : Prop where
  exact : 0 < calls → average * calls = durations
  reduced : average.num.natAbs.Coprime average.den
  den_pos : 0 < average.den
  uncalled : calls ≤ 0 → average = 0

/-- Calls per minute are a rate by the minutes of their application. -/
theorem BuildContext.isRate_callsPerMinute (context : BuildContext) (calls id : Int) :
    IsRate (context.services.minutes id context.window.startSecond context.window.finishSecond) calls
      (context.callsPerMinute calls id).value := by
  rw [value_callsPerMinute]
  cases context.services.minutes id context.window.startSecond context.window.finishSecond with
  | error problem => exact ⟨fun _ htold => (nomatch htold), fun _ => rfl⟩
  | ok told =>
    dsimp only
    constructor
    · rintro minutes ⟨⟩ hminutes
      rw [if_neg (Int.not_le.mpr hminutes), Int.fdiv_eq_ediv_of_nonneg _ (Int.le_of_lt hminutes)]
      exact ⟨Int.ediv_mul_le calls (Int.ne_of_gt hminutes), Int.lt_ediv_add_one_mul_self calls hminutes⟩
    · intro hnone
      exact if_pos (Int.not_lt.mp fun hpositive => hnone ⟨told, rfl, hpositive⟩)

/-- Average response times are averages. -/
theorem BuildContext.isAverage_averageResponseTime (durations calls id : Int) :
    IsAverage durations calls (averageResponseTime durations calls id).value := by
  refine ⟨fun hcalls => ?_, Rat.reduced _, Rat.den_pos _, fun hcalls => ?_⟩
  · have hcount : ((calls.toNat : Int) : Rat) = calls := congrArg _ (Int.toNat_of_nonneg (Int.le_of_lt hcalls))
    have hnonzero : (calls : Rat) ≠ 0 := Int.cast_ne_zero.mpr (Int.ne_of_gt hcalls)
    rw [value_averageResponseTime, if_neg (Int.not_le.mpr hcalls), Rat.mkRat_eq_div, ← Int.cast_natCast, hcount,
      div_mul_cancel₀ _ hnonzero]
  · rw [value_averageResponseTime, if_pos hcalls]

/-- The node of a metric row is rated by the row's own id. -/
theorem BuildContext.rated_metricNode (context : BuildContext) (row : MetricRow) :
    ∃ metrics, (context.metricNode row).value.kind = .application metrics ∧
      metrics.cpm = (context.callsPerMinute row.calls row.id).value ∧
      metrics.averageResponseTime = (averageResponseTime row.durations row.calls row.id).value :=
  ⟨_, rfl, rfl, rfl⟩

/-- Calls with the rate and the average of their rows have them row for row, whichever application rates a row. -/
theorem BuildContext.rated_calls (context : BuildContext) (ratedBy : ReferenceRow → Int) (rows : List ReferenceRow)
    {call : ReferenceRow → Call}
    (hcpm : ∀ row, (call row).cpm = (context.callsPerMinute row.calls (ratedBy row)).value)
    (haverage : ∀ row, ∃ id, (call row).averageResponseTime =
      (averageResponseTime row.durations row.calls id).value) :
    List.Forall₂ (fun row call =>
        IsRate (context.services.minutes (ratedBy row) context.window.startSecond context.window.finishSecond)
          row.calls call.cpm ∧ IsAverage row.durations row.calls call.averageResponseTime)
      rows (rows.map call) := by
  rw [List.forall₂_map_right_iff, List.forall₂_same]
  intro row _
  obtain ⟨id, hvalue⟩ := haverage row
  constructor
  · rw [hcpm]
    exact context.isRate_callsPerMinute row.calls (ratedBy row)
  · rw [hvalue]
    exact BuildContext.isAverage_averageResponseTime row.durations row.calls id

/-- A build asks for minutes once for each metric row, each kept caller row and each narrowed callee row, and for none
else: for those of the metric row, of the source of the caller row and of the target of the callee row, in the order of
the rows. With keyed lookups these are the ids in the rows. The node or the call of a row, which are found in the same
order, has the calls divided by these minutes and rounded down, or zero if no positive number is told; and it has the
durations divided by the calls exactly, as a fraction in lowest terms, or zero without calls. -/
theorem rates_and_averages (settings : Settings) (services : Services) (rows : Measurements) :
    let context := BuildContext.of settings services rows
    let built := buildTopology settings services rows
    let callers := rows.keptCallers settings
    let callees := rows.narrowedCallees settings services
    let minutes (id : Int) := services.minutes id rows.window.startSecond rows.window.finishSecond
    (services.AlarmsAskNoMinutes → built.asked = rows.metrics.map (·.id) ++ callers.map context.callerRatedBy ++
      callees.map context.calleeRatedBy) ∧
    (services.Keyed → context.callerRatedBy = (·.source) ∧ context.calleeRatedBy = (·.target) ∧
      callees = rows.keptCallees settings services) ∧
    List.Forall₂ (fun row node => ∃ metrics, node.kind = .application metrics ∧
        IsRate (minutes row.id) row.calls metrics.cpm ∧
        IsAverage row.durations row.calls metrics.averageResponseTime)
      rows.metrics (built.value.nodes.take rows.metrics.length) ∧
    List.Forall₂ (fun row call => IsRate (minutes (context.callerRatedBy row)) row.calls call.cpm ∧
        IsAverage row.durations row.calls call.averageResponseTime)
      callers (built.value.calls.take callers.length) ∧
    List.Forall₂ (fun row call => IsRate (minutes (context.calleeRatedBy row)) row.calls call.cpm ∧
        IsAverage row.durations row.calls call.averageResponseTime)
      callees (built.value.calls.drop callers.length) := by
  intro context built callers callees minutes
  have hmetrics : (rows.metricNodes settings services).length = rows.metrics.length := List.length_map _
  have hcallers : (rows.callerCalls settings services).length = callers.length := List.length_map _
  have hnodes : built.value.nodes.take rows.metrics.length = rows.metricNodes settings services := by
    simp only [built, buildTopology_parts, List.take_left' hmetrics]
  have hfirst : built.value.calls.take callers.length = rows.callerCalls settings services := by
    simp only [built, buildTopology_parts, List.take_left' hcallers]
  have hothers : built.value.calls.drop callers.length = rows.calleeCalls settings services := by
    simp only [built, buildTopology_parts, List.drop_left' hcallers]
  refine ⟨fun halarms => asked_buildTopology settings halarms rows, fun hkeyed => ?_, ?_, ?_, ?_⟩
  · have hknown (id : Int) : (context.known id).id = id := BuildContext.known_id hkeyed id
    refine ⟨?_, ?_, rows.narrowedCallees_eq settings hkeyed⟩
    · funext row
      exact hknown row.source
    · funext row
      exact hknown row.target
  · rw [hnodes, Measurements.metricNodes, List.forall₂_map_right_iff, List.forall₂_same]
    intro row _
    obtain ⟨metrics, hkind, hcpm, haverage⟩ := context.rated_metricNode row
    refine ⟨metrics, hkind, ?_, ?_⟩
    · rw [hcpm]
      exact context.isRate_callsPerMinute row.calls row.id
    · rw [haverage]
      exact BuildContext.isAverage_averageResponseTime row.durations row.calls row.id
  · rw [hfirst]
    exact context.rated_calls _ callers (fun _ => rfl) fun _ => ⟨_, rfl⟩
  · rw [hothers]
    exact context.rated_calls _ callees (fun _ => rfl) fun _ => ⟨_, rfl⟩

/-- Rows of the shop in which the gateway calls without a metric row, once with durations that run backwards and once
without calls. -/
def Measurements.backwards : Measurements :=
  { Measurements.shop with
    callers := [⟨6, 5, 45, 0, -100, 0⟩]
    callees := [⟨6, 2, 0, 0, 500, 0⟩] }

/-- The minutes of the orders are asked for by their metric row and by the call of the gateway that reaches them, those
of the gateway by the call that it reports; that call gets four calls in each of ten minutes and a negative average. -/
theorem rates_and_averages_backwards :
    let services := Stores.shop.services
    let built := buildTopology .standard services .backwards
    services.AlarmsAskNoMinutes ∧ services.Keyed ∧ built.asked = [2, 6, 2] ∧
      (services.minutes 6 20180130120000 20180130121000).toOption = some 10 ∧
      IsRate (services.minutes 6 20180130120000 20180130121000) 45 4 ∧ IsAverage (-100) 45 (-20 / 9) := by
  intro services built
  have halarms := Stores.shop.alarmsAskNoMinutes
  have hkeyed := Stores.shop.keyed_services
  obtain ⟨hasked, hrated, -, hcallers, -⟩ := rates_and_averages .standard services .backwards
  obtain ⟨hsource, htarget, hcallees⟩ := hrated hkeyed
  have hbuilt : built.asked = [2, 6, 2] := by
    rw [hasked halarms, hsource, htarget, hcallees]
    decide +kernel
  have hcalls : built.value.calls.take 1 =
      [⟨6, "gateway", 5, "10.0.0.5:3306", "mysql-connector", 4, -20 / 9, false⟩] := by decide +kernel
  have hkept : Measurements.backwards.keptCallers .standard = [⟨6, 5, 45, 0, -100, 0⟩] := by decide
  have hcall : built.value.calls.take (Measurements.backwards.keptCallers .standard).length = _ := hcalls
  rw [hcall, hkept, List.forall₂_cons] at hcallers
  obtain ⟨⟨hrate, haverage⟩, -⟩ := hcallers
  exact ⟨halarms, hkeyed, hbuilt, by decide +kernel, hrate, haverage⟩

end ServiceTopology
