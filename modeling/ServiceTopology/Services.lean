import ServiceTopology.Score
import ServiceTopology.Store.AlarmArchive
import ServiceTopology.Store.Fleet
import ServiceTopology.Store.Registry
import ServiceTopology.Time.Minutes

/-!
# Services of a build

What a build of a topology asks of its surroundings: metadata, names, server instances, the minutes of a
window, alarms and the two scores. A minutes lookup and an alarm query may fail with a problem.

`Stores.services` answers all of it from stores held in memory; a build works with any other services.
-/

namespace ServiceTopology

/-- What a build asks of its surroundings. -/
structure Services where
  application? : Int → Option Application
  componentName? : Int → Option WideText
  serverOf : Int → Int
  serverName? : Int → Option WideText
  servers : (applicationId start finish : Int) → List ServerInstance
  minutes : (applicationId start finish : Int) → Except Problem Int
  alarms : AlarmScope → AlarmQuery → Recorded (Except Problem AlarmPage)
  sla : (errorCalls calls : Int) → Int
  apdex : (satisfied tolerating frustrated : Int) → Int

namespace Services

/-- Metadata lookups give applications that carry the id that was asked for. -/
def Keyed (services : Services) : Prop :=
  ∀ id application, services.application? id = some application → application.id = id

/-- Answer metadata lookups from a registry and all else as before. -/
def withRegistry (services : Services) (registry : Registry) : Services :=
  { services with application? := registry.find? }

/-- Lookups in a registry are keyed, whatever answers all else. -/
theorem keyed_withRegistry (services : Services) (registry : Registry) :
    (services.withRegistry registry).Keyed :=
  fun _ _ h => registry.find?_id h

end Services

/-- The stores of one deployment. -/
structure Stores where
  registry : Registry
  catalog : Catalog
  fleet : Fleet
  archive : AlarmArchive
  deriving DecidableEq

namespace Stores

/-- Minutes of a window for an application, cut at its registration when it is known. -/
def minutes (stores : Stores) (applicationId start finish : Int) : Except Bucket.Error Int :=
  minutesOfWindow ((stores.registry.find? applicationId).bind (·.registration)) start finish

/-- Run an alarm query, describing its failure as a problem. -/
def alarms (stores : Stores) (scope : AlarmScope) (query : AlarmQuery) :
    Recorded (Except Problem AlarmPage) := do
  let result ← stores.archive.query scope query
  return result.mapError (·.problem)

/-- Answer a build from the stores. -/
def services (stores : Stores) : Services where
  application? := stores.registry.find?
  componentName? := stores.catalog.componentName?
  serverOf := stores.catalog.serverOf
  serverName? := stores.catalog.serverName?
  servers := stores.fleet.aliveIn
  minutes applicationId start finish :=
    (stores.minutes applicationId start finish).mapError (·.problem)
  alarms := stores.alarms
  sla := Score.sla
  apdex := Score.apdex

/-- Stores answer metadata lookups from their registry. -/
theorem services_withRegistry (stores : Stores) :
    stores.services.withRegistry stores.registry = stores.services := rfl

/-- Metadata lookups in stores are keyed. -/
theorem keyed_services (stores : Stores) : stores.services.Keyed := by
  rw [← stores.services_withRegistry]
  exact stores.services.keyed_withRegistry stores.registry

end Stores

end ServiceTopology
