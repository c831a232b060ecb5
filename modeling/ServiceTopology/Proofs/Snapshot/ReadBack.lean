import ServiceTopology.Proofs.Json.Indented
import ServiceTopology.Proofs.Json.ReadBack
import ServiceTopology.Proofs.Record.Layout
import ServiceTopology.Proofs.Text.Utf8
import ServiceTopology.Snapshot.Load

/-!
# Snapshots read back

Loading a file that holds a written snapshot gives exactly that snapshot and announces it once, whatever the
layout of the file is. Three readers are composed: bytes become text, the text becomes a JSON value, and the value
becomes a snapshot again.

The integers of the snapshot have to be writable, and each key of its catalog bound once. The second is so in
every catalog that was decoded.
-/

namespace ServiceTopology

open Schema Json Text

/-! ## Sections -/

/-- Sections of alarms are read back. -/
theorem AlarmSections.ofJson_toJson (alarms : AlarmSections) :
    AlarmSections.ofJson alarms.toJson = .valid alarms := by
  simp [AlarmSections.ofJson, AlarmSections.toJson, record,
    list_map fun item _ => AlarmItem.ofJson_toJson item]

/-- Sections of alarms are an object of lists of objects. -/
theorem AlarmSections.fits_toJson (depth : Nat) (alarms : AlarmSections) :
    alarms.toJson.Fits (depth + 3) := by
  simp [AlarmSections.toJson, AlarmItem.fits_toJson]

/-! ## Snapshots -/

namespace Snapshot

/-- A snapshot whose integers stay within the digit limit, the keys of its catalog included. -/
structure Writable (snapshot : Snapshot) : Prop where
  integers : ∀ n ∈ snapshot.toJson.integers, Text.Writable n
  keys : ∀ key ∈ snapshot.catalog.keys, Text.Writable key

/-- A snapshot is read back from what it is written as. -/
theorem ofJson_toJson {snapshot : Snapshot} (hdistinct : snapshot.catalog.Distinct)
    (hkeys : ∀ key ∈ snapshot.catalog.keys, Text.Writable key) :
    Snapshot.ofJson snapshot.toJson = .valid snapshot := by
  simp [Snapshot.ofJson, Snapshot.toJson, record, list_map fun a _ => Application.ofJson_toJson a,
    list_map fun row _ => ComponentRow.ofJson_toJson row, Catalog.ofJson_toJson hdistinct hkeys,
    list_map fun row _ => MappingRow.ofJson_toJson row, list_map fun row _ => MetricRow.ofJson_toJson row,
    list_map fun row _ => ReferenceRow.ofJson_toJson row,
    list_map fun server _ => ServerInstance.ofJson_toJson server, AlarmSections.ofJson_toJson,
    Window.ofJson_toJson]

/-- Containers of a written snapshot are nested at most four deep. -/
theorem fits_toJson (depth : Nat) {snapshot : Snapshot} (hdistinct : snapshot.catalog.Distinct) :
    snapshot.toJson.Fits (depth + 4) := by
  simp [Snapshot.toJson, Application.fits_toJson, ComponentRow.fits_toJson, Catalog.fits_toJson _ hdistinct,
    MappingRow.fits_toJson, MetricRow.fits_toJson, ReferenceRow.fits_toJson, ServerInstance.fits_toJson,
    AlarmSections.fits_toJson, Window.fits_toJson]

/-- A file that holds a document of a written snapshot is read as that snapshot. -/
theorem ofFile_documentText {snapshot : Snapshot} (hwritable : snapshot.Writable)
    (hdistinct : snapshot.catalog.Distinct) {depth : Nat} {text : List Char}
    (htext : DocumentText depth snapshot.toJson text) (path : String) :
    ofFile depth path (.ok (text.flatMap String.utf8EncodeChar)) = .ok snapshot := by
  have hread : readDocument depth path (unifyLineEnds text) = .ok snapshot.toJson := by
    rw [unifyLineEnds_eq_self fun c hc => (htext.plain c hc).2, readDocument,
      read_documentText htext hwritable.integers]
    rfl
  rw [ofFile_of_decoded depth path (decodeUtf8_encode text), hread]
  change (Snapshot.ofJson snapshot.toJson).toExcept.mapError _ = _
  rw [ofJson_toJson hdistinct hwritable.keys]
  rfl

/-- A written snapshot is printed as a document in either layout, and any document of it is loaded as that
snapshot and announced by one event, as long as the reader can follow four containers into each other. -/
theorem load_written {snapshot : Snapshot} (hwritable : snapshot.Writable)
    (hdistinct : snapshot.catalog.Distinct) (depth : Nat) :
    DocumentText (depth + 4) snapshot.toJson snapshot.toJson.compact ∧
      (∃ text, snapshot.toJson.document = .ofText text ∧ DocumentText (depth + 4) snapshot.toJson text) ∧
      ∀ (lookup : String → FileState) (path : String) (text : List Char),
        DocumentText (depth + 4) snapshot.toJson text →
        lookup (PathName.normalize path) = .ok (text.flatMap String.utf8EncodeChar) →
        load (depth + 4) lookup path =
          ⟨.ok snapshot,
            [.emitted (.snapshotLoaded (PathName.normalize path) snapshot.applications.length
              snapshot.metrics.length snapshot.callers.length snapshot.callees.length)]⟩ := by
  have hfits : snapshot.toJson.Fits (depth + 4) := fits_toJson depth hdistinct
  refine ⟨documentText_compact hfits, exists_document hfits hwritable.integers, ?_⟩
  intro lookup path text htext hfile
  rw [load, hfile, ofFile_documentText hwritable hdistinct htext]
  rfl

/-- A snapshot with negative integers, an absent registration, texts that need escapes of all kinds, a name bound
to a negative key, and an alarm whose own scope is not that of its section. -/
def mixed : Snapshot :=
  { applications := [⟨1, "cart", false, some 20240131000000⟩, ⟨-2, "\x22α\x5c\t𝄞\x22", true, none⟩]
    components := [⟨1, 4⟩]
    catalog := ⟨⟨[(4, "Tomcat"), (-7, "")]⟩, ⟨[(4, 10)]⟩, ⟨[(10, "Tomcat"), (9, "é")]⟩⟩
    mappings := [⟨1, -2⟩]
    metrics := [⟨1, 10, 1, -250, 30, 5, 4, 1⟩, ⟨3, 0, 0, 0, 0, 0, 0, 0⟩]
    callers := [⟨1, -2, 7, 0, 70, 0⟩]
    callees := []
    servers := [⟨11, 1, "host\n", 20240101000000, 20240201000000⟩]
    alarms := ⟨[], [⟨"a1", "", "slow", .service, 20240131000001⟩], []⟩
    window := ⟨.minute, 202401310000, 202401310010, 20240131000000, 20240131001000⟩ }

/-- The snapshot with texts of all kinds is loaded from its one-line document, also without room to spare. -/
theorem load_written_mixed :
    mixed.Writable ∧ mixed.catalog.Distinct ∧
      load 4 (fun _ => .ok (mixed.toJson.compact.flatMap String.utf8EncodeChar)) "dumps/./mixed.json" =
        ⟨.ok mixed, [.emitted (.snapshotLoaded "dumps/mixed.json" 2 2 1 0)]⟩ := by
  have hwritable : mixed.Writable := ⟨by decide +kernel, by decide +kernel⟩
  have hdistinct : mixed.catalog.Distinct := ⟨by decide, by decide, by decide⟩
  have hpath : PathName.normalize "dumps/./mixed.json" = "dumps/mixed.json" := by decide +kernel
  obtain ⟨hcompact, -, hload⟩ := load_written hwritable hdistinct 0
  have hmixed := hload (fun _ => .ok (mixed.toJson.compact.flatMap String.utf8EncodeChar))
    "dumps/./mixed.json" mixed.toJson.compact hcompact rfl
  rw [hpath] at hmixed
  exact ⟨hwritable, hdistinct, hmixed⟩

end Snapshot

end ServiceTopology
