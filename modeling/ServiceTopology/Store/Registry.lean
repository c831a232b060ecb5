import ServiceTopology.Record.Metadata

/-!
# The registry of applications

Applications known by their id. Registering an application replaces the one that had its id. The type
carries that every application stands under its own id.

The lemmas say which application is found after a registration, and that a found application carries the
id that was asked for.
-/

namespace ServiceTopology

/-- Registered applications by id, each under its own. -/
structure Registry where
  applications : Table Application
  keyed : ∀ id application, applications.get? id = some application → application.id = id
  deriving DecidableEq

namespace Registry

/-- The registry without applications. -/
def empty : Registry := ⟨.empty, by simp⟩

/-- Register an application under its id. -/
def register (registry : Registry) (application : Application) : Registry where
  applications := registry.applications.insert application.id application
  keyed id found hfound := by
    rw [Table.get?_insert] at hfound
    split at hfound
    · cases hfound
      exact Eq.symm ‹id = application.id›
    · exact registry.keyed id found hfound

/-- Register applications from left to right. -/
def ofList (applications : List Application) : Registry :=
  applications.foldl register empty

/-- Find an application. -/
def find? (registry : Registry) (id : Int) : Option Application :=
  registry.applications.get? id

/-- Number of ids. -/
def size (registry : Registry) : Nat := registry.applications.size

/-- A registration is found under its own id and changes no other. -/
@[simp] theorem find?_register (registry : Registry) (application : Application) (id : Int) :
    (registry.register application).find? id =
      if id = application.id then some application else registry.find? id := by
  simp [register, find?]

/-- A found application carries the id that was asked for. -/
theorem find?_id (registry : Registry) {id : Int} {application : Application}
    (h : registry.find? id = some application) : application.id = id :=
  registry.keyed id application h

end Registry

end ServiceTopology
