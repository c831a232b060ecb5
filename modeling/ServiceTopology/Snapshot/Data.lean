import ServiceTopology.Graph.Build

/-!
# Snapshots

A snapshot bundles the rows of one window with the metadata that a build needs, so that its topology can
be built again later. Its alarms are listed by section, and the section an alarm is listed in decides its
scope. A snapshot can be written as JSON and read from it.
-/

namespace ServiceTopology

open Schema

/-- Alarms of a snapshot by section. -/
structure AlarmSections where
  application : List AlarmItem
  server : List AlarmItem
  service : List AlarmItem
  deriving DecidableEq

namespace AlarmSections

/-- No alarms. -/
def empty : AlarmSections := ⟨[], [], []⟩

/-- Read the sections of alarms. -/
def ofJson : Decoder AlarmSections :=
  record fun members =>
    AlarmSections.mk <$> optional members "application" [] (list AlarmItem.ofJson)
      <*> optional members "instance" [] (list AlarmItem.ofJson)
      <*> optional members "service" [] (list AlarmItem.ofJson)

/-- Write the sections of alarms. -/
def toJson (alarms : AlarmSections) : Json :=
  .obj [("application", .arr (alarms.application.map AlarmItem.toJson)),
    ("instance", .arr (alarms.server.map AlarmItem.toJson)),
    ("service", .arr (alarms.service.map AlarmItem.toJson))]

/-- Put alarms at a scope. -/
def atScope (scope : AlarmScope) (items : List AlarmItem) : List AlarmItem :=
  items.map fun item => { item with scope }

/-- All alarms, each at the scope of its section. -/
def items (alarms : AlarmSections) : List AlarmItem :=
  atScope .application alarms.application ++ atScope .server alarms.server ++
    atScope .service alarms.service

end AlarmSections

/-- The rows of a window with the metadata that a build needs. -/
structure Snapshot where
  applications : List Application
  components : List ComponentRow
  catalog : Catalog
  mappings : List MappingRow
  metrics : List MetricRow
  callers : List ReferenceRow
  callees : List ReferenceRow
  servers : List ServerInstance
  alarms : AlarmSections
  window : Window
  deriving DecidableEq

namespace Snapshot

/-- Read a snapshot. -/
def ofJson : Decoder Snapshot :=
  record fun members =>
    Snapshot.mk <$> optional members "applications" [] (list Application.ofJson)
      <*> optional members "components" [] (list ComponentRow.ofJson)
      <*> optional members "component_catalog" .empty Catalog.ofJson
      <*> optional members "mappings" [] (list MappingRow.ofJson)
      <*> optional members "application_metrics" [] (list MetricRow.ofJson)
      <*> optional members "caller_metrics" [] (list ReferenceRow.ofJson)
      <*> optional members "callee_metrics" [] (list ReferenceRow.ofJson)
      <*> optional members "servers" [] (list ServerInstance.ofJson)
      <*> optional members "alarms" .empty AlarmSections.ofJson
      <*> required members "window" Window.ofJson

/-- Write a snapshot. -/
def toJson (snapshot : Snapshot) : Json :=
  .obj [("applications", .arr (snapshot.applications.map Application.toJson)),
    ("components", .arr (snapshot.components.map ComponentRow.toJson)),
    ("component_catalog", snapshot.catalog.toJson),
    ("mappings", .arr (snapshot.mappings.map MappingRow.toJson)),
    ("application_metrics", .arr (snapshot.metrics.map MetricRow.toJson)),
    ("caller_metrics", .arr (snapshot.callers.map ReferenceRow.toJson)),
    ("callee_metrics", .arr (snapshot.callees.map ReferenceRow.toJson)),
    ("servers", .arr (snapshot.servers.map ServerInstance.toJson)),
    ("alarms", snapshot.alarms.toJson), ("window", snapshot.window.toJson)]

/-- Rows of the snapshot's window. -/
def measurements (snapshot : Snapshot) : Measurements :=
  { window := snapshot.window
    components := snapshot.components
    mappings := snapshot.mappings
    metrics := snapshot.metrics
    callers := snapshot.callers
    callees := snapshot.callees }

/-- Stores that hold the snapshot's metadata. -/
def stores (snapshot : Snapshot) : Stores :=
  { registry := .ofList snapshot.applications
    catalog := snapshot.catalog
    fleet := ⟨snapshot.servers⟩
    archive := ⟨snapshot.alarms.items, []⟩ }

/-- Build the topology of a snapshot. -/
def build (settings : Settings) (snapshot : Snapshot) : Recorded Topology :=
  buildTopology settings snapshot.stores.services snapshot.measurements

end Snapshot

end ServiceTopology
