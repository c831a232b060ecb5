import ServiceTopology.Record.Metric
import ServiceTopology.Services

/-!
# Labels and aliases

Tables that a build derives from component and mapping rows: the name of the component that an
application uses, the name of the server type that its component talks to, and the canonical application
that a duplicate stands for. The last row with a known name decides; a row without a name changes nothing.

The rows with a reserved invalid id at either end are dropped before a build looks at them.
-/

namespace ServiceTopology

/-- Bind the applications of component rows to the names that their components have. -/
def labelTable (name? : Int → Option WideText) (rows : List ComponentRow) : Table WideText :=
  rows.foldl (fun labels row =>
    match name? row.componentId with
    | some name => labels.insert row.applicationId name
    | none => labels) .empty

/-- Names of the components of applications. -/
def componentLabels (services : Services) (rows : List ComponentRow) : Table WideText :=
  labelTable services.componentName? rows

/-- Names of the server types that the components of applications talk to. -/
def serverLabels (services : Services) (rows : List ComponentRow) : Table WideText :=
  labelTable (fun componentId => services.serverName? (services.serverOf componentId)) rows

/-- Canonical applications of duplicates. -/
def aliasTable (rows : List MappingRow) : Table Int :=
  rows.foldl (fun aliases row => aliases.insert row.duplicateId row.applicationId) .empty

/-- The last row for a duplicate decides its canonical application. -/
theorem get?_aliasTable (rows : List MappingRow) (id : Int) :
    (aliasTable rows).get? id = (rows.findRev? (·.duplicateId == id)).map (·.applicationId) := by
  have hbindings : aliasTable rows = .ofList (rows.map fun row => (row.duplicateId, row.applicationId)) := by
    rw [aliasTable, Table.ofList, List.foldl_map]
  rw [hbindings, Table.get?_ofList, ← List.map_reverse, List.findRev?_eq_find?_reverse]
  induction rows.reverse with
  | nil => rfl
  | cons row rest ih =>
    rw [List.map_cons, List.lookup_cons, List.find?_cons, Bool.beq_comm]
    cases row.duplicateId == id with
    | true => rfl
    | false => exact ih

/-- An id has an alias exactly when some row names it as a duplicate. -/
theorem contains_aliasTable (rows : List MappingRow) (id : Int) :
    (aliasTable rows).contains id = rows.any (·.duplicateId == id) := by
  rw [Table.contains, get?_aliasTable, Option.isSome_map, List.findRev?_eq_find?_reverse,
    Bool.eq_iff_iff, List.find?_isSome, List.any_eq_true]
  simp

/-- Keep the rows whose ends are both valid. -/
def withValidEnds (invalidId : Int) (rows : List ReferenceRow) : List ReferenceRow :=
  rows.filter fun row => row.source != invalidId && row.target != invalidId

end ServiceTopology
