import ServiceTopology.Graph.Build

/-!
# Sessions

A session sends requests to the stores of a deployment, one after another. Four of them are updates: they
register an application, add a server instance or an alarm, or let the queries of a scope fail from now on. The
others look something up, count minutes, query alarms or build a topology; some of these fail, and the session
goes on.

The deployment decides which services stand between the stores and what asks for minutes or builds.
-/

namespace ServiceTopology

/-- What stores are filled with. -/
structure Contents where
  applications : List Application
  catalog : Catalog
  servers : List ServerInstance
  alarms : List AlarmItem
  failing : List AlarmScope

/-- Stores filled from left to right: the last of several applications with one id stays. -/
def Contents.stores (contents : Contents) : Stores where
  registry := .ofList contents.applications
  catalog := contents.catalog
  fleet := ⟨contents.servers⟩
  archive := ⟨contents.alarms, contents.failing⟩

/-- A request to the stores of a deployment. -/
inductive StoreRequest where
  | register (application : Application)
  | addServer (server : ServerInstance)
  | addAlarm (item : AlarmItem)
  | failScope (scope : AlarmScope)
  | findApplication (id : Int)
  | countApplications
  | componentName (componentId : Int)
  | serverOf (componentId : Int)
  | serverName (serverId : Int)
  | findServers (applicationId start finish : Int)
  | countMinutes (applicationId start finish : Int)
  | queryAlarms (scope : AlarmScope) (query : AlarmQuery)
  | build (rows : Measurements)
  deriving DecidableEq

/-- What a request is answered with; an update gives back what was added. -/
inductive StoreReply where
  | registered (application : Application)
  | addedServer (server : ServerInstance)
  | addedAlarm (item : AlarmItem)
  | done
  | application (found : Option Application)
  | count (number : Nat)
  | name (found : Option WideText)
  | id (serverId : Int)
  | servers (alive : List ServerInstance)
  | minutes (result : Except Problem Int)
  | alarms (result : Except AlarmQueryError AlarmPage)
  | built (result : Except PrintFault Topology)

/-- What stands before the stores: the settings of builds, and the services that are made of the stores. -/
structure Deployment where
  settings : Settings
  services : Stores → Services

namespace Deployment

/-- Answer a request, and give the stores after it. -/
def perform (deployment : Deployment) (stores : Stores) : StoreRequest → Recorded (StoreReply × Stores)
  | .register application =>
    return (.registered application, { stores with registry := stores.registry.register application })
  | .addServer server => return (.addedServer server, { stores with fleet := stores.fleet.add server })
  | .addAlarm item => return (.addedAlarm item, { stores with archive := stores.archive.add item })
  | .failScope scope => return (.done, { stores with archive := stores.archive.failScope scope })
  | .findApplication id => return (.application (stores.registry.find? id), stores)
  | .countApplications => return (.count stores.registry.size, stores)
  | .componentName componentId => return (.name (stores.catalog.componentName? componentId), stores)
  | .serverOf componentId => return (.id (stores.catalog.serverOf componentId), stores)
  | .serverName serverId => return (.name (stores.catalog.serverName? serverId), stores)
  | .findServers applicationId start finish =>
    return (.servers (stores.fleet.aliveIn applicationId start finish), stores)
  | .countMinutes applicationId start finish =>
    return (.minutes ((deployment.services stores).minutes applicationId start finish), stores)
  | .queryAlarms scope query => do
    let result ← stores.archive.query scope query
    return (.alarms result, stores)
  | .build rows => do
    let result ← (buildTopology deployment.settings (deployment.services stores) rows).attempt
    return (.built result, stores)

/-- Answer requests one after another, and give the stores after all of them. -/
def performAll (deployment : Deployment) : Stores → List StoreRequest → Recorded (List StoreReply × Stores)
  | stores, [] => return ([], stores)
  | stores, request :: rest => do
    let (reply, after) ← deployment.perform stores request
    let (replies, last) ← deployment.performAll after rest
    return (reply :: replies, last)

end Deployment

end ServiceTopology
