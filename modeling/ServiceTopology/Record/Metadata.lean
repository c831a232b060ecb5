import ServiceTopology.Event
import ServiceTopology.Schema.Decode

/-!
# Metadata records

What is known about the instrumented system apart from its metrics: registered applications, their server
instances, the names of components and server types, and alarms. Each record can be written as a JSON
object with all of its members and read from one.

Addresses that were seen but never instrumented are registered as applications as well, with a flag.
-/

namespace ServiceTopology

open Schema

/-- A registered application or address. -/
structure Application where
  id : Int
  code : WideText
  isAddress : Bool
  registration : Option Int
  deriving DecidableEq

/-- Read an application. -/
def Application.ofJson : Decoder Application :=
  record fun members =>
    Application.mk <$> required members "application_id" integer
      <*> required members "application_code" string
      <*> optional members "is_address" false boolean
      <*> optional members "register_time_bucket" none (nullable integer)

/-- Write an application. -/
def Application.toJson (application : Application) : Json :=
  .obj [("application_id", .int application.id), ("application_code", .str application.code),
    ("is_address", .bool application.isAddress),
    ("register_time_bucket", .ofOption .int application.registration)]

/-- A server instance of an application, alive from its registration to its last heartbeat. -/
structure ServerInstance where
  id : Int
  applicationId : Int
  hostName : WideText
  registration : Int
  heartbeat : Int
  deriving DecidableEq

/-- Read a server instance. -/
def ServerInstance.ofJson : Decoder ServerInstance :=
  record fun members =>
    ServerInstance.mk <$> required members "id" integer
      <*> required members "application_id" integer
      <*> optional members "host_name" "" string
      <*> optional members "register_time_bucket" 0 integer
      <*> optional members "heartbeat_time_bucket" 0 integer

/-- Write a server instance. -/
def ServerInstance.toJson (server : ServerInstance) : Json :=
  .obj [("id", .int server.id), ("application_id", .int server.applicationId),
    ("host_name", .str server.hostName), ("register_time_bucket", .int server.registration),
    ("heartbeat_time_bucket", .int server.heartbeat)]

/-- An alarm that was raised at a scope. -/
structure AlarmItem where
  id : WideText
  title : WideText
  content : WideText
  scope : AlarmScope
  bucket : Int
  deriving DecidableEq

/-- Read an alarm. -/
def AlarmItem.ofJson : Decoder AlarmItem :=
  record fun members =>
    AlarmItem.mk <$> optional members "id" "" string
      <*> optional members "title" "" string
      <*> optional members "content" "" string
      <*> optional members "scope" .application (enumerated AlarmScope.ofName?)
      <*> optional members "time_bucket" 0 integer

/-- Write an alarm. -/
def AlarmItem.toJson (item : AlarmItem) : Json :=
  .obj [("id", .str item.id), ("title", .str item.title), ("content", .str item.content),
    ("scope", .str item.scope.name), ("time_bucket", .int item.bucket)]

/-- A page of the alarms that matched a query, with the number of all that matched. -/
structure AlarmPage where
  items : List AlarmItem
  total : Nat
  deriving DecidableEq

/-- Write a page of alarms. -/
def AlarmPage.toJson (page : AlarmPage) : Json :=
  .obj [("items", .arr (page.items.map AlarmItem.toJson)), ("total", .int page.total)]

/-- Names of components and of server types, and the server type that a component talks to. -/
structure Catalog where
  components : Table WideText
  componentServers : Table Int
  servers : Table WideText
  deriving DecidableEq

namespace Catalog

/-- The catalog without names. -/
def empty : Catalog := ⟨.empty, .empty, .empty⟩

/-- Read a catalog. -/
def ofJson : Decoder Catalog :=
  record fun members =>
    Catalog.mk <$> optional members "components" .empty (table string)
      <*> optional members "component_servers" .empty (table integer)
      <*> optional members "servers" .empty (table string)

/-- Write a table with its keys in decimal. -/
def tableJson {α : Type} (write : α → Json) (names : Table α) : Json :=
  .obj (names.entries.map fun (key, value) => (.plain (Text.decimal key), write value))

/-- Write a catalog. -/
def toJson (catalog : Catalog) : Json :=
  .obj [("components", tableJson .str catalog.components),
    ("component_servers", tableJson .int catalog.componentServers),
    ("servers", tableJson .str catalog.servers)]

/-- Name of a component. -/
def componentName? (catalog : Catalog) (componentId : Int) : Option WideText :=
  catalog.components.get? componentId

/-- Server type that a component talks to; without one, a component is its own server type. -/
def serverOf (catalog : Catalog) (componentId : Int) : Int :=
  (catalog.componentServers.get? componentId).getD componentId

/-- Name of a server type. -/
def serverName? (catalog : Catalog) (serverId : Int) : Option WideText :=
  catalog.servers.get? serverId

end Catalog

end ServiceTopology
