import ServiceTopology.Proofs.Schema.ReadBack
import ServiceTopology.Record.Metadata
import ServiceTopology.Record.Metric

/-!
# Records read back

Decoding a written record gives it back, for every metadata record and every metric record. Integers, strings
and truth values travel as themselves, so that nothing is asked of them. Only a catalog has integers as names: its
keys have to be writable, and each of them bound once.
-/

namespace ServiceTopology

open Schema

/-! ## Metadata -/

/-- A scope is found by its name. -/
theorem AlarmScope.ofName?_name (scope : AlarmScope) : AlarmScope.ofName? scope.name = some scope := by
  cases scope <;> decide

/-- A granularity is found by its name. -/
theorem Step.ofName?_name (step : Step) : Step.ofName? step.name = some step := by
  cases step <;> decide

/-- An application is read back, with or without a registration. -/
theorem Application.ofJson_toJson (application : Application) :
    Application.ofJson application.toJson = .valid application := by
  have hregistration : nullable integer (.ofOption .int application.registration) =
      .valid application.registration := nullable_ofOption (fun _ h => nomatch h) integer_int
  simp [Application.ofJson, Application.toJson, record, hregistration]

/-- A server instance is read back. -/
theorem ServerInstance.ofJson_toJson (server : ServerInstance) :
    ServerInstance.ofJson server.toJson = .valid server := by
  simp [ServerInstance.ofJson, ServerInstance.toJson, record]

/-- An alarm is read back with its own scope. -/
theorem AlarmItem.ofJson_toJson (item : AlarmItem) : AlarmItem.ofJson item.toJson = .valid item := by
  simp [AlarmItem.ofJson, AlarmItem.toJson, record, enumerated_str (AlarmScope.ofName?_name item.scope)]

namespace Catalog

/-- Keys of all tables of a catalog. -/
def keys (catalog : Catalog) : List Int :=
  catalog.components.keys ++ (catalog.componentServers.keys ++ catalog.servers.keys)

/-- A catalog whose tables bind each key once, as tables do that were collected key by key. -/
structure Distinct (catalog : Catalog) : Prop where
  components : catalog.components.keys.Nodup
  componentServers : catalog.componentServers.keys.Nodup
  servers : catalog.servers.keys.Nodup

/-- A catalog with writable keys, each bound once in its table, is read back. -/
theorem ofJson_toJson {catalog : Catalog} (hdistinct : catalog.Distinct)
    (hkeys : ∀ key ∈ catalog.keys, Text.Writable key) :
    Catalog.ofJson catalog.toJson = .valid catalog := by
  simp only [keys, List.forall_mem_append] at hkeys
  have hcomponents : table string (tableJson .str catalog.components) = .valid catalog.components :=
    table_map string_str hdistinct.components hkeys.1
  have hcomponentServers :
      table integer (tableJson .int catalog.componentServers) = .valid catalog.componentServers :=
    table_map integer_int hdistinct.componentServers hkeys.2.1
  have hservers : table string (tableJson .str catalog.servers) = .valid catalog.servers :=
    table_map string_str hdistinct.servers hkeys.2.2
  simp [Catalog.ofJson, Catalog.toJson, record, hcomponents, hcomponentServers, hservers]

/-- Every catalog that was decoded binds each key once, also where the names in the text repeat a key. -/
theorem distinct_of_ofJson {value : Json} {catalog : Catalog} (h : Catalog.ofJson value = .valid catalog) :
    catalog.Distinct := by
  have hkeys {α : Type} {members : Json.Members} {name : String} {decode : Decoder α} {names : Table α}
      (h : optional members name .empty (table decode) = .valid names) : names.keys.Nodup := by
    obtain rfl | ⟨value, hvalue⟩ := optional_eq_valid h
    · exact List.nodup_nil
    · exact nodup_keys_of_table hvalue
  cases value with
  | obj members =>
    obtain ⟨_, servers, htwo, hservers, rfl⟩ := seq_eq_valid h
    obtain ⟨_, componentServers, hone, hcomponentServers, rfl⟩ := seq_eq_valid htwo
    obtain ⟨components, hcomponents, rfl⟩ := map_eq_valid hone
    exact ⟨hkeys hcomponents, hkeys hcomponentServers, hkeys hservers⟩
  | null | bool | int | float | str | arr => cases h

end Catalog

/-! ## Metrics -/

/-- A window is read back. -/
theorem Window.ofJson_toJson (window : Window) : Window.ofJson window.toJson = .valid window := by
  simp [Window.ofJson, Window.toJson, record, enumerated_str (Step.ofName?_name window.step)]

/-- A component row is read back. -/
theorem ComponentRow.ofJson_toJson (row : ComponentRow) : ComponentRow.ofJson row.toJson = .valid row := by
  simp [ComponentRow.ofJson, ComponentRow.toJson, record]

/-- A mapping row is read back. -/
theorem MappingRow.ofJson_toJson (row : MappingRow) : MappingRow.ofJson row.toJson = .valid row := by
  simp [MappingRow.ofJson, MappingRow.toJson, record]

/-- A metric row is read back. -/
theorem MetricRow.ofJson_toJson (row : MetricRow) : MetricRow.ofJson row.toJson = .valid row := by
  simp [MetricRow.ofJson, MetricRow.toJson, record]

/-- A reference row is read back. -/
theorem ReferenceRow.ofJson_toJson (row : ReferenceRow) : ReferenceRow.ofJson row.toJson = .valid row := by
  simp [ReferenceRow.ofJson, ReferenceRow.toJson, record]

end ServiceTopology
