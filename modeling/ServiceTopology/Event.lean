import ServiceTopology.Json.Value
import ServiceTopology.Report.Printed
import ServiceTopology.Time.Step

/-!
# Events and recorded computations

Events tell operators what happened while a snapshot was loaded, alarms were queried or a topology was
built. A recorded computation is a value with the trace that led to it: the events in order, the
applications whose minutes were asked for, and the faults on the way.

A fault ends a computation: nothing after it happens, and there is no value. `Recorded.attempt` says so. Value
and trace themselves go on behind a fault as if it had not happened, so that they are told one step at a time.
A trace never influences the value; rendering events for a log is treated elsewhere.
-/

namespace ServiceTopology

/-- Scope of an alarm: an application, one of its server instances, or a service. -/
inductive AlarmScope where
  | application
  | server
  | service
  deriving DecidableEq

namespace AlarmScope

/-- Every scope. -/
def all : List AlarmScope := [application, server, service]

/-- Name of a scope. -/
def name : AlarmScope → String
  | application => "application"
  | server => "instance"
  | service => "service"

/-- Find a scope by its name. -/
def ofName? (text : String) : Option AlarmScope := all.find? (·.name == text)

end AlarmScope

/-- Levels of the events that are emitted here. -/
inductive EventLevel where
  | debug
  | info
  | warning
  deriving DecidableEq

/-- Name of a level. -/
def EventLevel.name : EventLevel → String
  | debug => "debug"
  | info => "info"
  | warning => "warning"

/-- What is told to operators. -/
inductive Event where
  | snapshotLoaded (path : String) (applications metrics callers callees : Nat)
  | alarmQuery (scope : AlarmScope) (matched : Nat) (limit : Int)
  | alarmQueryFailed (scope : AlarmScope) (applicationId : Int) (error : String)
  | applicationNotFound (applicationId : Int)
  | cpmLookupFailed (applicationId : Int) (error : String)
  | zeroCallsMetric (applicationId : Int)
  | topologyBuilt (nodes calls : Nat) (step : Step)
  deriving DecidableEq

namespace Event

/-- Level of an event. -/
def level : Event → EventLevel
  | snapshotLoaded .. => .info
  | alarmQuery .. => .debug
  | alarmQueryFailed .. => .warning
  | applicationNotFound .. => .warning
  | cpmLookupFailed .. => .warning
  | zeroCallsMetric .. => .warning
  | topologyBuilt .. => .info

/-- Name of an event. -/
def name : Event → String
  | snapshotLoaded .. => "snapshot_loaded"
  | alarmQuery .. => "alarm_query"
  | alarmQueryFailed .. => "alarm_query_failed"
  | applicationNotFound .. => "application_not_found"
  | cpmLookupFailed .. => "cpm_lookup_failed"
  | zeroCallsMetric .. => "zero_calls_metric"
  | topologyBuilt .. => "topology_built"

/-- Named values of an event. -/
def fields : Event → Json.Members
  | snapshotLoaded path applications metrics callers callees =>
    [("path", .str path), ("applications", .int applications), ("application_metrics", .int metrics),
     ("caller_metrics", .int callers), ("callee_metrics", .int callees)]
  | alarmQuery scope matched limit =>
    [("scope", .str scope.name), ("matched", .int matched), ("limit", .int limit)]
  | alarmQueryFailed scope applicationId error =>
    [("scope", .str scope.name), ("application_id", .int applicationId), ("error", .str error)]
  | applicationNotFound applicationId => [("application_id", .int applicationId)]
  | cpmLookupFailed applicationId error =>
    [("application_id", .int applicationId), ("error", .str error)]
  | zeroCallsMetric applicationId => [("application_id", .int applicationId)]
  | topologyBuilt nodes calls step =>
    [("nodes", .int nodes), ("calls", .int calls), ("step", .str step.name)]

end Event

/-- One entry of a trace. -/
inductive TraceEntry where
  | emitted (event : Event)
  | minutesAsked (applicationId : Int)
  | failed (fault : PrintFault)
  deriving DecidableEq

/-- Events of a trace, in order. -/
def eventsOf (trace : List TraceEntry) : List Event :=
  trace.filterMap fun
    | .emitted event => some event
    | _ => none

/-- Applications whose minutes a trace asked for, in order. -/
def askedOf (trace : List TraceEntry) : List Int :=
  trace.filterMap fun
    | .minutesAsked applicationId => some applicationId
    | _ => none

/-- Faults of a trace, in order. -/
def faultsOf (trace : List TraceEntry) : List PrintFault :=
  trace.filterMap fun
    | .failed fault => some fault
    | _ => none

/-- Test whether an entry is a fault. -/
def TraceEntry.isFault : TraceEntry → Bool
  | failed _ => true
  | _ => false

/-- A value with the trace that led to it, as long as there is no fault in the trace. -/
structure Recorded (α : Type) where
  value : α
  trace : List TraceEntry

namespace Recorded

variable {α β : Type}

/-- Give a value with an empty trace, and chain computations by joining their traces. -/
instance : Monad Recorded where
  pure a := ⟨a, []⟩
  bind a f := ⟨(f a.value).value, a.trace ++ (f a.value).trace⟩

/-- Joining traces is associative and an empty trace adds nothing. -/
instance : LawfulMonad Recorded := LawfulMonad.mk' Recorded
  (fun a => by simp [Functor.map])
  (fun a f => by simp [Bind.bind, Pure.pure])
  (fun a f g => by simp [Bind.bind, List.append_assoc])

/-- Emit an event. -/
def emit (event : Event) : Recorded Unit := ⟨(), [.emitted event]⟩

/-- Note that the minutes of an application are asked for. -/
def noteAsked (applicationId : Int) : Recorded Unit := ⟨(), [.minutesAsked applicationId]⟩

/-- Record a fault unless a condition holds. -/
def require (condition : Prop) [Decidable condition] (fault : PrintFault) : Recorded Unit :=
  ⟨(), if condition then [] else [.failed fault]⟩

/-- Events of a recorded computation. -/
def events (a : Recorded α) : List Event := eventsOf a.trace

/-- Applications whose minutes a recorded computation asked for. -/
def asked (a : Recorded α) : List Int := askedOf a.trace

/-- Faults of a recorded computation. -/
def faults (a : Recorded α) : List PrintFault := faultsOf a.trace

/-- Run a computation up to its first fault, which is what it ends with then. -/
def attempt (a : Recorded α) : Recorded (Except PrintFault α) where
  value :=
    match a.faults with
    | [] => .ok a.value
    | fault :: _ => .error fault
  trace := a.trace.takeWhile (!·.isFault)

/-- Leave the faults out of a computation that tells by its value how it ended. -/
def withoutFaults (a : Recorded α) : Recorded α := ⟨a.value, a.trace.filter (!·.isFault)⟩

@[simp] theorem value_pure (a : α) : (pure a : Recorded α).value = a := rfl

@[simp] theorem trace_pure (a : α) : (pure a : Recorded α).trace = [] := rfl

@[simp] theorem value_bind (a : Recorded α) (f : α → Recorded β) :
    (a >>= f).value = (f a.value).value := rfl

@[simp] theorem trace_bind (a : Recorded α) (f : α → Recorded β) :
    (a >>= f).trace = a.trace ++ (f a.value).trace := rfl

/-- The value of a recorded fold is the fold of the values. -/
theorem value_foldlM (f : β → α → Recorded β) (b : β) (items : List α) :
    (items.foldlM f b).value = items.foldl (fun b a => (f b a).value) b := by
  induction items generalizing b with
  | nil => rfl
  | cons a rest ih => rw [List.foldlM_cons, value_bind, ih, List.foldl_cons]

@[simp] theorem events_pure (a : α) : (pure a : Recorded α).events = [] := rfl

@[simp] theorem events_bind (a : Recorded α) (f : α → Recorded β) :
    (a >>= f).events = a.events ++ (f a.value).events := List.filterMap_append

@[simp] theorem events_emit (event : Event) : (emit event).events = [event] := rfl

@[simp] theorem events_noteAsked (applicationId : Int) : (noteAsked applicationId).events = [] := rfl

@[simp] theorem asked_pure (a : α) : (pure a : Recorded α).asked = [] := rfl

@[simp] theorem asked_bind (a : Recorded α) (f : α → Recorded β) :
    (a >>= f).asked = a.asked ++ (f a.value).asked := List.filterMap_append

@[simp] theorem asked_emit (event : Event) : (emit event).asked = [] := rfl

@[simp] theorem asked_noteAsked (applicationId : Int) : (noteAsked applicationId).asked = [applicationId] := rfl

@[simp] theorem faults_pure (a : α) : (pure a : Recorded α).faults = [] := rfl

@[simp] theorem faults_bind (a : Recorded α) (f : α → Recorded β) :
    (a >>= f).faults = a.faults ++ (f a.value).faults := List.filterMap_append

@[simp] theorem faults_emit (event : Event) : (emit event).faults = [] := rfl

@[simp] theorem faults_noteAsked (applicationId : Int) : (noteAsked applicationId).faults = [] := rfl

@[simp] theorem faults_require (condition : Prop) [Decidable condition] (fault : PrintFault) :
    (require condition fault).faults = if condition then [] else [fault] := by
  unfold require faults
  split <;> rfl

@[simp] theorem events_require (condition : Prop) [Decidable condition] (fault : PrintFault) :
    (require condition fault).events = [] := by
  unfold require events
  split <;> rfl

@[simp] theorem asked_require (condition : Prop) [Decidable condition] (fault : PrintFault) :
    (require condition fault).asked = [] := by
  unfold require asked
  split <;> rfl

@[simp] theorem value_withoutFaults (a : Recorded α) : a.withoutFaults.value = a.value := rfl

@[simp] theorem events_withoutFaults (a : Recorded α) : a.withoutFaults.events = a.events :=
  List.filterMap_filter.trans (congrArg a.trace.filterMap (funext fun entry => by cases entry <;> rfl))

@[simp] theorem asked_withoutFaults (a : Recorded α) : a.withoutFaults.asked = a.asked :=
  List.filterMap_filter.trans (congrArg a.trace.filterMap (funext fun entry => by cases entry <;> rfl))

@[simp] theorem faults_withoutFaults (a : Recorded α) : a.withoutFaults.faults = [] := by
  refine List.filterMap_filter.trans (List.filterMap_eq_nil_iff.mpr fun entry _ => ?_)
  cases entry <;> rfl

/-- A computation without faults runs to its end. -/
theorem attempt_of_faultless {a : Recorded α} (h : a.faults = []) : a.attempt = ⟨.ok a.value, a.trace⟩ := by
  have hall : ∀ entry ∈ a.trace, (!entry.isFault) = true := by
    intro entry hentry
    have hnone := List.filterMap_eq_nil_iff.mp h entry hentry
    cases entry with
    | failed fault => cases hnone
    | _ => rfl
  have htrace : (a.trace ++ []).takeWhile (!·.isFault) = a.trace ++ [] := List.takeWhile_append_of_pos hall
  rw [List.append_nil] at htrace
  simp only [attempt, h, htrace]

/-- A computation with faults ends with the first one. -/
theorem value_attempt_of_fault {a : Recorded α} {fault : PrintFault} {later : List PrintFault}
    (h : a.faults = fault :: later) : a.attempt.value = .error fault := by
  unfold attempt
  simp only [h]

/-- What is picked from the trace of a recorded fold is what is picked from its steps, one after another, when it is
the same for a step in every state. -/
theorem filterMap_trace_foldlM {γ : Type} {pick : TraceEntry → Option γ} {f : β → α → Recorded β}
    {picked : α → List γ} (h : ∀ b a, (f b a).trace.filterMap pick = picked a) (b : β) (items : List α) :
    (items.foldlM f b).trace.filterMap pick = items.flatMap picked := by
  induction items generalizing b with
  | nil => rfl
  | cons a rest ih => rw [List.foldlM_cons, trace_bind, List.filterMap_append, h, ih, List.flatMap_cons]

/-- The events of a recorded fold are those of its steps, one after another, when a step tells the same in
every state. -/
theorem events_foldlM {f : β → α → Recorded β} {told : α → List Event}
    (h : ∀ b a, (f b a).events = told a) (b : β) (items : List α) :
    (items.foldlM f b).events = items.flatMap told := filterMap_trace_foldlM h b items

/-- The minutes that a recorded fold asks for are those of its steps, one after another, when a step asks for the same
in every state. -/
theorem asked_foldlM {f : β → α → Recorded β} {asks : α → List Int}
    (h : ∀ b a, (f b a).asked = asks a) (b : β) (items : List α) :
    (items.foldlM f b).asked = items.flatMap asks := filterMap_trace_foldlM h b items

/-- The faults of a recorded fold are those of its steps, one after another, when a step has the same in every
state. -/
theorem faults_foldlM {f : β → α → Recorded β} {faulty : α → List PrintFault}
    (h : ∀ b a, (f b a).faults = faulty a) (b : β) (items : List α) :
    (items.foldlM f b).faults = items.flatMap faulty := filterMap_trace_foldlM h b items

/-- A computation does nothing but emit events. -/
def OnlyEmits (a : Recorded α) : Prop := ∀ entry ∈ a.trace, ∃ event, entry = .emitted event

/-- Computations that only emit events are chained to one that does. -/
theorem OnlyEmits.bind {a : Recorded α} {f : α → Recorded β} (ha : a.OnlyEmits) (hf : ∀ b, (f b).OnlyEmits) :
    (a >>= f).OnlyEmits := by
  intro entry hentry
  obtain hfirst | hlater := List.mem_append.mp hentry
  · exact ha entry hfirst
  · exact hf a.value entry hlater

/-- Doing nothing emits no events. -/
theorem onlyEmits_pure (a : α) : (pure a : Recorded α).OnlyEmits := nofun

/-- Emitting an event is all that is done. -/
theorem onlyEmits_emit (event : Event) : (emit event).OnlyEmits :=
  fun _ hentry => ⟨event, List.mem_singleton.mp hentry⟩

/-- A computation that only emits events asks for no minutes. -/
theorem OnlyEmits.asked {a : Recorded α} (h : a.OnlyEmits) : a.asked = [] := by
  refine List.filterMap_eq_nil_iff.mpr fun entry hentry => ?_
  obtain ⟨event, rfl⟩ := h entry hentry
  rfl

/-- A computation that only emits events has no faults. -/
theorem OnlyEmits.faults {a : Recorded α} (h : a.OnlyEmits) : a.faults = [] := by
  refine List.filterMap_eq_nil_iff.mpr fun entry hentry => ?_
  obtain ⟨event, rfl⟩ := h entry hentry
  rfl

end Recorded

end ServiceTopology
