import ServiceTopology.Proofs.Graph.Discovery
import ServiceTopology.Proofs.Interleaving

/-!
# Irrelevant rows

Rows that a build drops leave nothing behind: no node, no call, no alias, no lookup of minutes and, apart from
one warning for an unregistered source, no event. Dropped are the rows with the invalid id at either end, and
the callee rows whose source is neither an address nor the users.

Narrowing looks up the source of every callee row with valid ends, before any other row is processed. So an
inserted callee row with an unregistered source adds its warning among those of the other callee rows.
-/

namespace ServiceTopology

namespace ReferenceRow

/-- An end of the row is the invalid id. -/
def HasInvalidEnd (row : ReferenceRow) (settings : Settings) : Prop :=
  row.source = settings.invalidApplicationId ∨ row.target = settings.invalidApplicationId

/-- The source of the row is registered, and neither as an address nor as the users. -/
def ComesFromInside (row : ReferenceRow) (settings : Settings) (services : Services) : Prop :=
  ∃ application, services.application? row.source = some application ∧
    application.isAddress = false ∧ application.id ≠ settings.noneApplicationId

/-- The source of the row is not registered, and it is not the users. -/
def ComesFromUnregistered (row : ReferenceRow) (settings : Settings) (services : Services) : Prop :=
  services.application? row.source = none ∧ row.source ≠ settings.noneApplicationId

instance (row : ReferenceRow) (settings : Settings) : Decidable (row.HasInvalidEnd settings) :=
  inferInstanceAs (Decidable (_ ∨ _))

end ReferenceRow

/-- The test of the ends of a row refuses it exactly when one of them is invalid. -/
theorem ReferenceRow.hasInvalidEnd_iff (row : ReferenceRow) (settings : Settings) :
    (row.source != settings.invalidApplicationId && row.target != settings.invalidApplicationId) =
      false ↔ row.HasInvalidEnd settings := by
  rw [Bool.and_eq_false_iff, bne_eq_false_iff_eq, bne_eq_false_iff_eq]
  rfl

/-- The rows with valid ends are those without an invalid one. -/
theorem mem_withValidEnds {settings : Settings} {rows : List ReferenceRow} {row : ReferenceRow} :
    row ∈ withValidEnds settings.invalidApplicationId rows ↔
      row ∈ rows ∧ ¬row.HasInvalidEnd settings := by
  rw [withValidEnds, List.mem_filter, ← row.hasInvalidEnd_iff settings, Bool.not_eq_false]

/-! ## Warnings of narrowing -/

namespace BuildContext

variable (context : BuildContext)

/-- Warnings for the rows whose source is not registered. -/
def sourceWarnings (rows : List ReferenceRow) : List TraceEntry :=
  (rows.filter fun row => (context.services.application? row.source).isNone).map fun row =>
    .emitted (.applicationNotFound row.source)

/-- A lookup warns of an id that is not registered. -/
theorem trace_application (id : Int) :
    (context.application id).trace =
      if (context.services.application? id).isNone then [.emitted (.applicationNotFound id)]
      else [] := by
  unfold application
  cases context.services.application? id <;> rfl

/-- Narrowing warns of every source that is not registered, and records nothing else. -/
theorem trace_narrowCallees (rows : List ReferenceRow) :
    (context.narrowCallees rows).trace = context.sourceWarnings rows := by
  induction rows with
  | nil => rfl
  | cons row rest ih =>
    simp only [narrowCallees, comesFromOutside, Recorded.trace_bind, Recorded.trace_pure,
      trace_application, ih, List.append_nil, sourceWarnings, List.filter_cons]
    split
    · rfl
    · rfl

/-- Process the rows that are left after narrowing. -/
def process (metrics : List MetricRow) (callers callees : List ReferenceRow) :
    Recorded Topology := do
  let withMetrics ← metrics.foldlM context.addMetric .empty
  let withCallers ← callers.foldlM context.addCaller withMetrics
  let withCallees ← callees.foldlM context.addCallee withCallers
  let topology := withCallees.topology
  Recorded.emit (.topologyBuilt topology.nodes.length topology.calls.length context.window.step)
  return topology

/-- A row with a source inside does not come from outside. -/
theorem isOutside_of_comesFromInside {context : BuildContext} {row : ReferenceRow}
    (h : row.ComesFromInside context.settings context.services) : context.isOutside row = false := by
  obtain ⟨application, hfound, haddress, hid⟩ := h
  have hknown : context.known row.source = application := by rw [known, hfound, Option.getD_some]
  rw [isOutside, hknown, haddress, Bool.false_or]
  exact beq_false_of_ne hid

/-- A row with an unregistered source does not come from outside. -/
theorem isOutside_of_comesFromUnregistered {context : BuildContext} {row : ReferenceRow}
    (h : row.ComesFromUnregistered context.settings context.services) :
    context.isOutside row = false := by
  rw [isOutside, known, h.1, Option.getD_none, Bool.false_or]
  exact beq_false_of_ne h.2

end BuildContext

section Build

variable (settings : Settings) (services : Services) (rows : Measurements)

/-- A build warns of unregistered sources while it narrows its callee rows, and then processes all rows that
are left. -/
theorem buildTopology_eq_process :
    let context := BuildContext.of settings services rows
    let processed :=
      context.process rows.metrics (rows.keptCallers settings) (rows.narrowedCallees settings services)
    (buildTopology settings services rows).value = processed.value ∧
      (buildTopology settings services rows).trace =
        context.sourceWarnings (withValidEnds settings.invalidApplicationId rows.callees) ++
          processed.trace := by
  intro context processed
  have hbuild : buildTopology settings services rows =
      context.narrowCallees (withValidEnds settings.invalidApplicationId rows.callees) >>=
        context.process rows.metrics (rows.keptCallers settings) := rfl
  rw [hbuild, Recorded.value_bind, Recorded.trace_bind, BuildContext.trace_narrowCallees,
    BuildContext.value_narrowCallees]
  exact ⟨rfl, rfl⟩

variable {settings services rows} {moreCallers callers moreCallees callees : List ReferenceRow}

/-- When the inserted rows are dropped, a build gives its topology and adds the warnings for the unregistered
sources among them. -/
theorem buildTopology_of_dropped (hcallers : Interleaved rows.callers moreCallers callers)
    (hcallees : Interleaved rows.callees moreCallees callees)
    (hinvalid : ∀ row ∈ moreCallers, row.HasInvalidEnd settings)
    (hdropped : ∀ row ∈ moreCallees, row.HasInvalidEnd settings ∨
      (BuildContext.of settings services rows).isOutside row = false) :
    let before := buildTopology settings services rows
    let after := buildTopology settings services { rows with callers, callees }
    after.value = before.value ∧
      Interleaved before.trace ((BuildContext.of settings services rows).sourceWarnings
        (withValidEnds settings.invalidApplicationId moreCallees)) after.trace := by
  intro before after
  have hvalid : Interleaved (withValidEnds settings.invalidApplicationId rows.callees)
      (withValidEnds settings.invalidApplicationId moreCallees)
      (withValidEnds settings.invalidApplicationId callees) := hcallees.filter _
  have hkept : ({ rows with callers, callees } : Measurements).keptCallers settings =
      rows.keptCallers settings :=
    hcallers.filter_eq fun row hrow => (row.hasInvalidEnd_iff settings).mpr (hinvalid row hrow)
  have hnarrowed : ({ rows with callers, callees } : Measurements).narrowedCallees settings services =
      rows.narrowedCallees settings services := by
    refine hvalid.filter_eq fun row hrow => ?_
    obtain ⟨hrow, hends⟩ := mem_withValidEnds.mp hrow
    exact (hdropped row hrow).resolve_left hends
  obtain ⟨hvalue, htrace⟩ := buildTopology_eq_process settings services rows
  obtain ⟨hvalue', htrace'⟩ :=
    buildTopology_eq_process settings services { rows with callers, callees }
  rw [hkept, hnarrowed] at hvalue' htrace'
  refine ⟨hvalue'.trans hvalue.symm, ?_⟩
  rw [htrace, htrace']
  exact ((hvalid.filter _).map _).append_right _

/-- Without an unregistered source there is no warning. -/
theorem BuildContext.sourceWarnings_eq_nil {context : BuildContext} {rows : List ReferenceRow}
    (h : ∀ row ∈ rows, (context.services.application? row.source).isNone = false) :
    context.sourceWarnings rows = [] := by
  rw [sourceWarnings, List.map_eq_nil_iff, List.filter_eq_nil_iff]
  exact fun row hrow => Bool.not_eq_true _ ▸ h row hrow

/-- When no source is registered there is a warning for every row. -/
theorem BuildContext.sourceWarnings_eq_map {context : BuildContext} {rows : List ReferenceRow}
    (h : ∀ row ∈ rows, context.services.application? row.source = none) :
    context.sourceWarnings rows = rows.map fun row => .emitted (.applicationNotFound row.source) := by
  rw [sourceWarnings, List.filter_eq_self.mpr fun row hrow => by rw [h row hrow]; rfl]

end Build

/-- Caller and callee rows with an invalid end, and callee rows whose source is registered and neither an address
nor the users, may be inserted anywhere: a build gives the same topology and leaves the same trace of events and
lookups. Callee rows whose source is not registered and not the users may be inserted as well: the topology is
the same, and the trace has one more warning for each of them with valid ends. -/
theorem irrelevant_rows_invisible (settings : Settings) (services : Services) (rows : Measurements) :
    (∀ moreCallers callers moreCallees callees : List ReferenceRow,
      Interleaved rows.callers moreCallers callers → Interleaved rows.callees moreCallees callees →
      (∀ row ∈ moreCallers, row.HasInvalidEnd settings) →
      (∀ row ∈ moreCallees, row.HasInvalidEnd settings ∨ row.ComesFromInside settings services) →
        let before := buildTopology settings services rows
        let after := buildTopology settings services { rows with callers, callees }
        after.value = before.value ∧ after.trace = before.trace) ∧
    ∀ moreCallees callees : List ReferenceRow, Interleaved rows.callees moreCallees callees →
      (∀ row ∈ moreCallees, row.ComesFromUnregistered settings services) →
        let before := buildTopology settings services rows
        let after := buildTopology settings services { rows with callees }
        after.value = before.value ∧
          Interleaved before.trace ((withValidEnds settings.invalidApplicationId moreCallees).map fun row =>
            .emitted (.applicationNotFound row.source)) after.trace := by
  constructor
  · intro moreCallers callers moreCallees callees hcallers hcallees hinvalid hirrelevant
    obtain ⟨hvalue, htrace⟩ := buildTopology_of_dropped hcallers hcallees hinvalid fun row hrow =>
      (hirrelevant row hrow).imp_right BuildContext.isOutside_of_comesFromInside
    refine ⟨hvalue, ?_⟩
    rw [BuildContext.sourceWarnings_eq_nil] at htrace
    · exact htrace.eq_of_nil
    · intro row hrow
      obtain ⟨hrow, hends⟩ := mem_withValidEnds.mp hrow
      obtain ⟨application, hfound, -⟩ := (hirrelevant row hrow).resolve_left hends
      rw [BuildContext.of_services, hfound]
      rfl
  · intro moreCallees callees hcallees hunregistered
    obtain ⟨hvalue, htrace⟩ := buildTopology_of_dropped (Interleaved.refl rows.callers) hcallees
      (fun _ hrow => absurd hrow List.not_mem_nil) fun row hrow =>
        Or.inr (BuildContext.isOutside_of_comesFromUnregistered (hunregistered row hrow))
    refine ⟨hvalue, ?_⟩
    rw [BuildContext.sourceWarnings_eq_map] at htrace
    · exact htrace
    · exact fun row hrow => (hunregistered row (mem_withValidEnds.mp hrow).1).1

/-- Between the callee rows of the shop, a row of the orders and one with an invalid target are invisible, and
of two rows from an application that is not registered the one with valid ends adds a warning. -/
theorem irrelevant_rows_invisible_shop :
    let before := buildTopology .standard Stores.shop.services .shop
    let after (callers callees : List ReferenceRow) :=
      buildTopology .standard Stores.shop.services { Measurements.shop with callers, callees }
    let gateway : ReferenceRow := ⟨6, 2, 20, 0, 500, 0⟩
    let users : ReferenceRow := ⟨1, 2, 10, 0, 100, 0⟩
    let quiet := after [⟨0, 5, 1, 0, 1, 0⟩, ⟨2, 5, 40, 0, 500, 0⟩]
      [gateway, ⟨2, 5, 1, 0, 1, 0⟩, users, ⟨6, 0, 1, 0, 1, 0⟩]
    let warned := after Measurements.shop.callers [⟨9, 0, 1, 0, 1, 0⟩, gateway, ⟨9, 2, 1, 0, 1, 0⟩, users]
    quiet.value = before.value ∧ quiet.trace = before.trace ∧ warned.value = before.value ∧
      Interleaved before.trace [.emitted (.applicationNotFound 9)] warned.trace := by
  intro before after gateway users quiet warned
  have hirrelevant : ∀ row ∈ ([⟨2, 5, 1, 0, 1, 0⟩, ⟨6, 0, 1, 0, 1, 0⟩] : List ReferenceRow),
      row.HasInvalidEnd .standard ∨ row.ComesFromInside .standard Stores.shop.services := by
    simp only [List.mem_cons, List.not_mem_nil, or_false, forall_eq_or_imp, forall_eq]
    exact ⟨Or.inr ⟨⟨2, "orders", false, none⟩, rfl, rfl, by decide⟩, Or.inl (Or.inr rfl)⟩
  have hunregistered : ∀ row ∈ ([⟨9, 0, 1, 0, 1, 0⟩, ⟨9, 2, 1, 0, 1, 0⟩] : List ReferenceRow),
      row.ComesFromUnregistered .standard Stores.shop.services := by
    simp only [List.mem_cons, List.not_mem_nil, or_false, forall_eq_or_imp, forall_eq]
    exact ⟨⟨rfl, by decide⟩, ⟨rfl, by decide⟩⟩
  obtain ⟨hquiet, hwarned⟩ := irrelevant_rows_invisible .standard Stores.shop.services .shop
  obtain ⟨hvalue, htrace⟩ := hquiet [⟨0, 5, 1, 0, 1, 0⟩] _ _ _ (.insert _ (.kept _ .nil))
    (.kept gateway (.insert _ (.kept users (.insert _ .nil)))) (by decide) hirrelevant
  exact ⟨hvalue, htrace,
    hwarned _ _ (.insert _ (.kept gateway (.insert _ (.kept users .nil)))) hunregistered⟩

end ServiceTopology
