import Mathlib.Data.List.Basic
import ServiceTopology.Graph.Build

/-!
# Renamed applications

Apply a function to the ids of applications wherever they occur: in records, in stores, in rows and in a
topology. Ids of components, of server types and of server instances are left as they are.

The lemmas are about injective functions. With these, what a renamed store or table holds for a renamed id is
what the original holds for the id, and renaming commutes with the ways in which stores and tables are filled.
-/

namespace ServiceTopology

/-! ## Tables -/

namespace Table

variable {α β : Type}

/-- Apply a function to the keys of a table and another one to its values. -/
def rekeyed (r : Int → Int) (f : α → β) (table : Table α) : Table β :=
  ⟨table.entries.map fun entry => (r entry.1, f entry.2)⟩

/-- A key of a rekeyed table comes from some key of the table. -/
theorem exists_of_get?_rekeyed {r : Int → Int} {f : α → β} {table : Table α} {key : Int} {value : β}
    (h : (table.rekeyed r f).get? key = some value) :
    ∃ oldKey oldValue, table.get? oldKey = some oldValue ∧ r oldKey = key ∧ f oldValue = value := by
  obtain ⟨entries⟩ := table
  simp only [rekeyed, get?] at h ⊢
  induction entries with
  | nil => simp at h
  | cons entry rest ih =>
    obtain ⟨first, old⟩ := entry
    rw [List.map_cons, List.lookup_cons] at h
    by_cases hkey : key = r first
    · simp only [hkey, beq_self_eq_true, Option.some.injEq] at h
      exact ⟨first, old, by simp, hkey.symm, h⟩
    · simp only [beq_false_of_ne hkey] at h
      obtain ⟨oldKey, oldValue, hold, rfl, rfl⟩ := ih h
      have hne : oldKey ≠ first := fun heq => hkey (heq ▸ rfl)
      exact ⟨oldKey, oldValue, by rw [List.lookup_cons, beq_false_of_ne hne]; exact hold, rfl, rfl⟩

variable {r : Int → Int} (hr : Function.Injective r) (f : α → β)

include hr

/-- A rekeyed table binds a key's image to the image of its value. -/
theorem get?_rekeyed (table : Table α) (key : Int) :
    (table.rekeyed r f).get? (r key) = (table.get? key).map f := by
  obtain ⟨entries⟩ := table
  simp only [rekeyed, get?]
  induction entries with
  | nil => rfl
  | cons entry rest ih =>
    obtain ⟨first, value⟩ := entry
    by_cases hkey : key = first
    · simp [hkey]
    · have hne : r key ≠ r first := fun heq => hkey (hr heq)
      rw [List.map_cons, List.lookup_cons, List.lookup_cons, beq_false_of_ne hkey,
        beq_false_of_ne hne]
      exact ih

/-- Rekeying commutes with binding a key. -/
theorem rekeyed_insert (table : Table α) (key : Int) (value : α) :
    (table.insert key value).rekeyed r f = (table.rekeyed r f).insert (r key) (f value) := by
  obtain ⟨entries⟩ := table
  simp only [rekeyed, insert, Table.mk.injEq]
  induction entries with
  | nil => rfl
  | cons entry rest ih =>
    obtain ⟨first, old⟩ := entry
    by_cases hkey : first = key
    · simp [bindIn, hkey]
    · have hne : r first ≠ r key := fun heq => hkey (hr heq)
      simp [bindIn, hkey, hne, ih]

end Table

/-! ## Records and stores -/

section Renamed

variable (r : Int → Int)

/-- An application under its new id. -/
def Application.renamed (application : Application) : Application :=
  { application with id := r application.id }

/-- A server instance of the application with the new id. -/
def ServerInstance.renamed (server : ServerInstance) : ServerInstance :=
  { server with applicationId := r server.applicationId }

/-- A component row of the application with the new id. -/
def ComponentRow.renamed (row : ComponentRow) : ComponentRow :=
  { row with applicationId := r row.applicationId }

/-- A mapping row between new ids. -/
def MappingRow.renamed (row : MappingRow) : MappingRow := ⟨r row.applicationId, r row.duplicateId⟩

/-- A metric row of the application with the new id. -/
def MetricRow.renamed (row : MetricRow) : MetricRow := { row with id := r row.id }

/-- A reference row between new ids. -/
def ReferenceRow.renamed (row : ReferenceRow) : ReferenceRow :=
  { row with source := r row.source, target := r row.target }

/-- A registry of the applications under their new ids. -/
def Registry.renamed (registry : Registry) : Registry where
  applications := registry.applications.rekeyed r (·.renamed r)
  keyed id application h := by
    obtain ⟨oldId, old, hold, rfl, rfl⟩ := Table.exists_of_get?_rekeyed h
    exact congrArg r (registry.keyed oldId old hold)

/-- A fleet of the server instances under the new ids of their applications. -/
def Fleet.renamed (fleet : Fleet) : Fleet := ⟨fleet.instances.map (·.renamed r)⟩

/-- Stores with new ids in their registry and fleet. -/
def Stores.renamed (stores : Stores) : Stores :=
  { stores with registry := stores.registry.renamed r, fleet := stores.fleet.renamed r }

/-- The rows of a window with new ids. -/
def Measurements.renamed (rows : Measurements) : Measurements where
  window := rows.window
  components := rows.components.map (·.renamed r)
  mappings := rows.mappings.map (·.renamed r)
  metrics := rows.metrics.map (·.renamed r)
  callers := rows.callers.map (·.renamed r)
  callees := rows.callees.map (·.renamed r)

/-- A node under its new id. -/
def Node.renamed (node : Node) : Node := { node with id := r node.id }

/-- A call between new ids. -/
def Call.renamed (call : Call) : Call :=
  { call with source := r call.source, target := r call.target }

/-- A topology with new ids. -/
def Topology.renamed (topology : Topology) : Topology :=
  ⟨topology.nodes.map (·.renamed r), topology.calls.map (·.renamed r)⟩

end Renamed

section Injective

variable {r : Int → Int} (hr : Function.Injective r)

include hr

/-- A renamed registry finds a renamed application under its new id. -/
theorem Registry.find?_renamed (registry : Registry) (id : Int) :
    (registry.renamed r).find? (r id) = (registry.find? id).map (·.renamed r) :=
  Table.get?_rekeyed hr _ registry.applications id

/-- Renaming commutes with registering an application. -/
theorem Registry.renamed_register (registry : Registry) (application : Application) :
    (registry.register application).renamed r =
      (registry.renamed r).register (application.renamed r) := by
  simp only [Registry.renamed, register, Registry.mk.injEq]
  exact Table.rekeyed_insert hr _ registry.applications application.id application

/-- A registry of renamed applications is the renamed registry of the applications. -/
theorem Registry.renamed_ofList (applications : List Application) :
    (Registry.ofList applications).renamed r = .ofList (applications.map (·.renamed r)) := by
  rw [ofList, ofList, List.foldl_map]
  exact (List.foldl_hom (Registry.renamed r) fun registry application =>
    (registry.renamed_register hr application).symm).symm

/-- In a renamed fleet the same instances are alive. -/
theorem Fleet.aliveIn_renamed (fleet : Fleet) (id start finish : Int) :
    (fleet.renamed r).aliveIn (r id) start finish =
      (fleet.aliveIn id start finish).map (·.renamed r) := by
  rw [aliveIn, Fleet.renamed, List.filter_map]
  congr 2
  funext server
  simp only [Function.comp_def, ServerInstance.renamed, isAlive, hr.beq_eq]

/-- Labels of renamed component rows are those of the rows under the new ids. -/
theorem labelTable_renamed (name? : Int → Option WideText) (rows : List ComponentRow) :
    labelTable name? (rows.map (·.renamed r)) = (labelTable name? rows).rekeyed r id := by
  unfold labelTable
  rw [List.foldl_map]
  -- The renamed table goes first, since it is what shows where the fold starts.
  symm
  refine (List.foldl_hom (fun labels : Table WideText => labels.rekeyed r id) fun labels row => ?_).symm
  simp only [ComponentRow.renamed]
  cases name? row.componentId with
  | none => rfl
  | some name => simp only [Table.rekeyed_insert hr, id]

/-- Aliases of renamed mapping rows are those of the rows between the new ids. -/
theorem aliasTable_renamed (rows : List MappingRow) :
    aliasTable (rows.map (·.renamed r)) = (aliasTable rows).rekeyed r r := by
  unfold aliasTable
  rw [List.foldl_map]
  symm
  refine (List.foldl_hom (fun aliases : Table Int => aliases.rekeyed r r) fun aliases row => ?_).symm
  rw [Table.rekeyed_insert hr]
  rfl

/-- Renamed rows are dropped like the rows, when the invalid id keeps its name. -/
theorem withValidEnds_renamed {invalidId : Int} (hinvalid : r invalidId = invalidId)
    (rows : List ReferenceRow) :
    withValidEnds invalidId (rows.map (·.renamed r)) =
      (withValidEnds invalidId rows).map (·.renamed r) := by
  have hsame (id : Int) : (r id == invalidId) = (id == invalidId) := by
    conv_lhs => rw [← hinvalid, hr.beq_eq]
  rw [withValidEnds, withValidEnds, List.filter_map]
  congr 2
  funext row
  simp only [Function.comp_def, ReferenceRow.renamed, bne, hsame]

end Injective

end ServiceTopology
