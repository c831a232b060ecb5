import Mathlib.Data.List.Induction
import ServiceTopology.Proofs.Graph.Lookup

/-!
# A build as a run over rows

A build processes metric rows, then caller rows, then callee rows, and threads one assembly through all of
them. Here the three kinds of rows are one type, so that a build is a single run from the empty assembly
and an invariant needs one lemma for a step and one for a run.

The invariant of this module is that the ids of the assembly are those of its nodes. It holds after every
sequence of rows, also after ones that no build would process in that order.
-/

namespace ServiceTopology

/-- A row that a build processes. -/
inductive Row where
  | metric (row : MetricRow)
  | caller (row : ReferenceRow)
  | callee (row : ReferenceRow)
  deriving DecidableEq

/-- The rows that a build processes, in their order. -/
def Measurements.rowSequence (rows : Measurements) (settings : Settings) (services : Services) :
    List Row :=
  rows.metrics.map .metric ++ (rows.keptCallers settings).map .caller ++
    (rows.keptCallees settings services).map .callee

namespace BuildContext

/-- Process a row. -/
def addRow (context : BuildContext) (assembly : Assembly) : Row → Recorded Assembly
  | .metric row => context.addMetric assembly row
  | .caller row => context.addCaller assembly row
  | .callee row => context.addCallee assembly row

/-- Process rows from the empty assembly. -/
def assemble (context : BuildContext) (rows : List Row) : Recorded Assembly :=
  rows.foldlM context.addRow .empty

/-- Processing further rows goes on from the assembly of the earlier ones. -/
theorem assemble_append (context : BuildContext) (done rest : List Row) :
    (context.assemble (done ++ rest)).value =
      rest.foldl (fun assembly row => (context.addRow assembly row).value)
        (context.assemble done).value := by
  simp only [assemble, Recorded.value_foldlM, List.foldl_append]

/-- A row keeps an assembly coherent. -/
theorem coherent_addRow (context : BuildContext) {assembly : Assembly} (h : assembly.Coherent)
    (row : Row) : (context.addRow assembly row).value.Coherent := by
  cases row with
  | metric row => exact h.addNode _
  | caller row => exact (h.discoverAll _).addCall _
  | callee row => exact (h.discoverAll _).addCall _

/-- Every run of rows leaves a coherent assembly. -/
theorem coherent_assemble (context : BuildContext) (rows : List Row) :
    (context.assemble rows).value.Coherent := by
  induction rows using List.reverseRecOn with
  | nil => exact Assembly.coherent_empty
  | append_singleton done row ih =>
    rw [assemble_append]
    exact context.coherent_addRow ih row

end BuildContext

/-! ## What a run leaves behind -/

namespace BuildContext

variable (context : BuildContext)

/-- Nodes that a caller row mentions. -/
def callerNodes (row : ReferenceRow) : List Node :=
  context.callerMentions (context.known row.source) (context.known row.target)

/-- Nodes that a callee row mentions. -/
def calleeNodes (row : ReferenceRow) : List Node :=
  context.calleeMentions (context.known row.source) (context.known row.target)

/-- Call that a caller row adds. -/
def callerRowCall (row : ReferenceRow) : Call :=
  (context.callerCall row (context.known row.source) (context.known row.target)).value

/-- Call that a callee row adds. -/
def calleeRowCall (row : ReferenceRow) : Call :=
  (context.calleeCall row (context.known row.source) (context.known row.target)).value

/-- The call of a caller row comes from the known source. -/
theorem callerRowCall_source (row : ReferenceRow) :
    (context.callerRowCall row).source = (context.known row.source).id := rfl

/-- The call of a caller row is rated by its source. -/
theorem callerRowCall_cpm (row : ReferenceRow) :
    (context.callerRowCall row).cpm =
      (context.callsPerMinute row.calls (context.known row.source).id).value := rfl

/-- The call of a callee row goes to the known target. -/
theorem calleeRowCall_target (row : ReferenceRow) :
    (context.calleeRowCall row).target = (context.known row.target).id := rfl

/-- The call of a callee row is rated by its target. -/
theorem calleeRowCall_cpm (row : ReferenceRow) :
    (context.calleeRowCall row).cpm =
      (context.callsPerMinute row.calls (context.known row.target).id).value := rfl

/-- Metric rows add their nodes one after another. -/
theorem value_assemble_metrics (metrics : List MetricRow) :
    (context.assemble (metrics.map .metric)).value.nodes =
        metrics.map (fun row => (context.metricNode row).value) ∧
      (context.assemble (metrics.map .metric)).value.calls = [] := by
  induction metrics using List.reverseRecOn with
  | nil => exact ⟨rfl, rfl⟩
  | append_singleton done row ih =>
    rw [List.map_append, assemble_append, List.map_append, ← ih.1, ← ih.2]
    exact ⟨rfl, rfl⟩

/-- After the metric rows, caller rows and then callee rows discover nodes in one sequence and add a call
each. -/
theorem value_assemble_rows (metrics : List MetricRow) (callers callees : List ReferenceRow) :
    (context.assemble (metrics.map .metric ++ callers.map .caller ++ callees.map .callee)).value =
      { (context.assemble (metrics.map .metric)).value.discoverAll
          (callers.flatMap context.callerNodes ++ callees.flatMap context.calleeNodes) with
        calls := callers.map context.callerRowCall ++ callees.map context.calleeRowCall } := by
  have hcaller : (fun assembly row => (context.addRow assembly (.caller row)).value) =
      fun (assembly : Assembly) row =>
        (assembly.discoverAll (context.callerNodes row)).addCall (context.callerRowCall row) := by
    funext assembly row
    simp only [addRow, addCaller, Recorded.value_bind, Recorded.value_pure, value_application]
    rfl
  have hcallee : (fun assembly row => (context.addRow assembly (.callee row)).value) =
      fun (assembly : Assembly) row =>
        (assembly.discoverAll (context.calleeNodes row)).addCall (context.calleeRowCall row) := by
    funext assembly row
    simp only [addRow, addCallee, Recorded.value_bind, Recorded.value_pure, value_application]
    rfl
  rw [assemble_append, assemble_append, List.foldl_map, List.foldl_map, hcaller, hcallee,
    Assembly.foldl_discoverAll_addCall, Assembly.foldl_discoverAll_addCall,
    (context.value_assemble_metrics metrics).2, Assembly.discoverAll_withCalls,
    Assembly.discoverAll_append, List.nil_append]

end BuildContext

/-- A build gives the topology that its metric rows, caller rows and narrowed callee rows assemble. -/
theorem value_buildTopology_narrowed (settings : Settings) (services : Services)
    (rows : Measurements) :
    (buildTopology settings services rows).value =
      ((BuildContext.of settings services rows).assemble
        (rows.metrics.map .metric ++ (rows.keptCallers settings).map .caller ++
          (rows.narrowedCallees settings services).map .callee)).value.topology := by
  simp only [buildTopology, Recorded.value_bind, Recorded.value_pure, Recorded.value_foldlM,
    BuildContext.value_narrowCallees, BuildContext.assemble, List.foldl_append, List.foldl_map]
  rfl

/-- With keyed lookups a build gives the topology that its row sequence assembles. -/
theorem value_buildTopology (settings : Settings) (services : Services) (rows : Measurements)
    (hkeyed : services.Keyed) :
    (buildTopology settings services rows).value =
      ((BuildContext.of settings services rows).assemble
        (rows.rowSequence settings services)).value.topology := by
  rw [value_buildTopology_narrowed, rows.narrowedCallees_eq settings hkeyed]
  rfl

end ServiceTopology
