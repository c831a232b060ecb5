import ServiceTopology.Proofs.Graph.RowSequence

/-!
# Calls row for row

The calls of a built topology are one for each kept caller row and then one for each kept callee row. What a
call says depends on its row and on what stays fixed during a build, and neither on other rows nor on the
nodes discovered so far.

The two kinds of rows differ in their keys. A caller row shows the canonical application of its target and
is rated by its source; a callee row shows its target as reported and is rated by it. Both are classified by
the target as reported.
-/

namespace ServiceTopology

/-- The application that a target is shown as: the canonical one of the last mapping row for the target, or
the target itself. -/
def Measurements.shownId (rows : Measurements) (target : Int) : Int :=
  ((rows.mappings.findRev? (·.duplicateId == target)).map (·.applicationId)).getD target

section Build

variable (settings : Settings) (services : Services) (rows : Measurements)
  (hkeyed : services.Keyed)

include hkeyed

/-- A target is looked up once in the aliases, and the canonical application is shown as it is known. -/
theorem value_shownTarget (target : Int) :
    let context := BuildContext.of settings services rows
    (context.shownTarget (context.known target)).value = context.known (rows.shownId target) := by
  intro context
  have hid : (context.known target).id = target := BuildContext.known_id hkeyed target
  have hcanonical : (context.aliases.get? target).getD target = rows.shownId target := by
    rw [Measurements.shownId, ← get?_aliasTable]
    rfl
  simp only [BuildContext.shownTarget, hid, hcanonical]
  by_cases hshown : rows.shownId target = target
  · rw [if_pos hshown, hshown, Recorded.value_pure]
  · rw [if_neg hshown, BuildContext.value_application]

/-- The call of a caller row in terms of the ids in the row. -/
theorem callerRowCall_eq (row : ReferenceRow) :
    let context := BuildContext.of settings services rows
    context.callerRowCall row =
      { source := row.source
        sourceName := context.nameOf row.source
        target := rows.shownId row.target
        targetName := context.nameOf (rows.shownId row.target)
        callType := context.componentLabel row.target
        cpm := (context.callsPerMinute row.calls row.source).value
        averageResponseTime :=
          (BuildContext.averageResponseTime row.durations row.calls row.source).value
        alert := false } := by
  intro context
  have hid (id : Int) : (context.known id).id = id := BuildContext.known_id hkeyed id
  have hshown : (context.shownTarget (context.known row.target)).value =
      context.known (rows.shownId row.target) :=
    value_shownTarget settings services rows hkeyed row.target
  simp only [BuildContext.callerRowCall, BuildContext.callerCall, Recorded.value_bind,
    Recorded.value_pure, hid, hshown]
  rfl

/-- The call of a callee row in terms of the ids in the row. -/
theorem calleeRowCall_eq (row : ReferenceRow) :
    let context := BuildContext.of settings services rows
    context.calleeRowCall row =
      { source := row.source
        sourceName := context.nameOf row.source
        target := row.target
        targetName := context.nameOf row.target
        callType :=
          if row.source = settings.noneApplicationId then "" else context.componentLabel row.target
        cpm := (context.callsPerMinute row.calls row.target).value
        averageResponseTime :=
          (BuildContext.averageResponseTime row.durations row.calls row.target).value
        alert := false } := by
  intro context
  have hid (id : Int) : (context.known id).id = id := BuildContext.known_id hkeyed id
  simp only [BuildContext.calleeRowCall, BuildContext.calleeCall, Recorded.value_bind,
    Recorded.value_pure, hid]
  rfl

/-- The calls of a build are those of the kept caller rows, then those of the kept callee rows. -/
theorem calls_buildTopology :
    let context := BuildContext.of settings services rows
    (buildTopology settings services rows).value.calls =
      (rows.keptCallers settings).map context.callerRowCall ++
        (rows.keptCallees settings services).map context.calleeRowCall := by
  intro context
  rw [value_buildTopology settings services rows hkeyed, Measurements.rowSequence,
    BuildContext.value_assemble_rows]
  rfl

end Build

/-- The calls of a build are one for each kept caller row and then one for each kept callee row, each a
function of its own row: further metric, caller and callee rows leave what it is computed from as it is. A
call without a type comes from the users, or else its target has an empty label. -/
theorem calls_row_for_row (settings : Settings) (services : Services) (rows : Measurements)
    (hkeyed : services.Keyed) :
    let context := BuildContext.of settings services rows
    let label (id : Int) : WideText :=
      ((componentLabels services rows.components).get? id).getD settings.unknownLabel
    (buildTopology settings services rows).value.calls =
        (rows.keptCallers settings).map context.callerRowCall ++
          (rows.keptCallees settings services).map context.calleeRowCall ∧
      (∀ metrics callers callees,
        BuildContext.of settings services { rows with metrics, callers, callees } = context) ∧
      (∀ row, context.callerRowCall row =
        { source := row.source
          sourceName := context.nameOf row.source
          target := rows.shownId row.target
          targetName := context.nameOf (rows.shownId row.target)
          callType := label row.target
          cpm := (context.callsPerMinute row.calls row.source).value
          averageResponseTime :=
            (BuildContext.averageResponseTime row.durations row.calls row.source).value
          alert := false }) ∧
      ∀ row, context.calleeRowCall row =
          { source := row.source
            sourceName := context.nameOf row.source
            target := row.target
            targetName := context.nameOf row.target
            callType := if row.source = settings.noneApplicationId then ("" : WideText) else label row.target
            cpm := (context.callsPerMinute row.calls row.target).value
            averageResponseTime :=
              (BuildContext.averageResponseTime row.durations row.calls row.target).value
            alert := false } ∧
        ((context.calleeRowCall row).callType = "" ↔
          row.source = settings.noneApplicationId ∨ label row.target = "") := by
  intro context label
  have hcallee (row : ReferenceRow) := calleeRowCall_eq settings services rows hkeyed row
  refine ⟨calls_buildTopology settings services rows hkeyed, fun _ _ _ => rfl,
    callerRowCall_eq settings services rows hkeyed, fun row => ⟨hcallee row, ?_⟩⟩
  have htype : (context.calleeRowCall row).callType =
      if row.source = settings.noneApplicationId then ("" : WideText) else label row.target :=
    congrArg Call.callType (hcallee row)
  rw [htype]
  by_cases husers : row.source = settings.noneApplicationId
  · rw [if_pos husers]
    exact iff_of_true rfl (Or.inl husers)
  · rw [if_neg husers]
    exact (or_iff_right husers).symm

/-- Stores in which a gateway, an address, calls an application whose component has an empty name. -/
def Stores.unnamedComponent : Stores where
  registry := .ofList [⟨6, "gateway", true, none⟩, ⟨2, "orders", false, none⟩]
  catalog := ⟨.ofList [(7, "")], .empty, .empty⟩
  fleet := ⟨[]⟩
  archive := ⟨[], []⟩

/-- One call of the gateway, reported by the application. -/
def Measurements.gatewayCall : Measurements where
  window := ⟨.minute, 201801301200, 201801301210, 20180130120000, 20180130121000⟩
  components := [⟨2, 7⟩]
  mappings := []
  metrics := []
  callers := []
  callees := [⟨6, 2, 20, 0, 500, 0⟩]

/-- The call of the gateway is shown with its own ids, and without a type since the component that it
reaches has an empty name. -/
theorem calls_row_for_row_gateway :
    Stores.unnamedComponent.services.Keyed ∧
      (BuildContext.of .standard Stores.unnamedComponent.services .gatewayCall).calleeRowCall
          ⟨6, 2, 20, 0, 500, 0⟩ =
        ⟨6, "gateway", 2, "orders", "", 2, 25, false⟩ := by
  have hkeyed := Stores.unnamedComponent.keyed_services
  have hcalls := calls_row_for_row .standard Stores.unnamedComponent.services .gatewayCall hkeyed
  refine ⟨hkeyed, (hcalls.2.2.2 _).1.trans ?_⟩
  decide +kernel

/-- A call without a type need not come from the users. -/
theorem call_type_empty_without_users :
    ¬ ∀ (settings : Settings) (stores : Stores) (rows : Measurements),
      ∀ call ∈ (buildTopology settings stores.services rows).value.calls.drop
          (rows.keptCallers settings).length,
        call.callType = "" ↔ call.source = settings.noneApplicationId := by
  intro h
  have hcall := h .standard .unnamedComponent .gatewayCall
    ⟨6, "gateway", 2, "orders", "", 2, 25, false⟩ (by decide +kernel)
  exact absurd (hcall.mp rfl) (by decide)

end ServiceTopology
