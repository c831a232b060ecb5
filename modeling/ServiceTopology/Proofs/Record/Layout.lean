import ServiceTopology.Proofs.Json.Compact
import ServiceTopology.Proofs.Record.ReadBack

/-!
# Nesting of written records

How deep the containers of a written record are nested, whatever the record holds. The members of a record have
distinct names because the names are fixed, those of a written table because distinct keys have distinct digits.
-/

namespace ServiceTopology

open Json Text

variable (depth : Nat)

/-- A written application is a single object. -/
theorem Application.fits_toJson (application : Application) : application.toJson.Fits (depth + 1) := by
  have hregistration : (ofOption .int application.registration).Fits depth := by
    cases application.registration <;> simp [ofOption]
  simp [Application.toJson, hregistration]

/-- A written server instance is a single object. -/
theorem ServerInstance.fits_toJson (server : ServerInstance) : server.toJson.Fits (depth + 1) := by
  simp [ServerInstance.toJson]

/-- A written alarm is a single object. -/
theorem AlarmItem.fits_toJson (item : AlarmItem) : item.toJson.Fits (depth + 1) := by
  simp [AlarmItem.toJson]

/-- A written table is a single object when its keys are distinct and its values are scalars. -/
theorem Catalog.fits_tableJson {α : Type} {write : α → Json} (h : ∀ a, (write a).Fits depth)
    {names : Table α} (hdistinct : names.keys.Nodup) : (tableJson write names).Fits (depth + 1) := by
  have hnames : (names.entries.map fun entry => WideText.plain (decimal entry.1)) =
      names.keys.map (WideText.plain ∘ decimal) := by
    rw [Table.keys, List.map_map]
    rfl
  rw [tableJson, fits_obj, List.map_map, List.forall_mem_map]
  refine ⟨?_, fun entry _ => h entry.2⟩
  exact hnames ▸ hdistinct.map fun _ _ hkey => Number.decimal_injective (WideText.plain.inj hkey)

/-- A written catalog is an object of tables. -/
theorem Catalog.fits_toJson {catalog : Catalog} (hdistinct : catalog.Distinct) :
    catalog.toJson.Fits (depth + 2) := by
  simp [Catalog.toJson, fits_tableJson depth (fits_str depth) hdistinct.components,
    fits_tableJson depth (fits_int depth) hdistinct.componentServers,
    fits_tableJson depth (fits_str depth) hdistinct.servers]

/-- A written window is a single object. -/
theorem Window.fits_toJson (window : Window) : window.toJson.Fits (depth + 1) := by
  simp [Window.toJson]

/-- A written component row is a single object. -/
theorem ComponentRow.fits_toJson (row : ComponentRow) : row.toJson.Fits (depth + 1) := by
  simp [ComponentRow.toJson]

/-- A written mapping row is a single object. -/
theorem MappingRow.fits_toJson (row : MappingRow) : row.toJson.Fits (depth + 1) := by
  simp [MappingRow.toJson]

/-- A written metric row is a single object. -/
theorem MetricRow.fits_toJson (row : MetricRow) : row.toJson.Fits (depth + 1) := by
  simp [MetricRow.toJson]

/-- A written reference row is a single object. -/
theorem ReferenceRow.fits_toJson (row : ReferenceRow) : row.toJson.Fits (depth + 1) := by
  simp [ReferenceRow.toJson]

end ServiceTopology
