import ServiceTopology.CommandLine.Run
import ServiceTopology.Proofs.FileTree
import ServiceTopology.Proofs.Graph.Document
import ServiceTopology.Proofs.Graph.Faults
import ServiceTopology.Proofs.Snapshot.ReadBack

/-!
# The build command with JSON output

What is written for a snapshot file: on standard output exactly the document of the topology that is built from it,
on standard error the log, whatever its level.

Paths that start with a hyphen are read as options, and a topology beyond the digit limit is not printed in
full; neither is treated here.
-/

namespace ServiceTopology.CommandLine

/-! ## Reading the arguments -/

/-- Arguments that choose a level of the log, or none. -/
def levelArguments : Option String → List String
  | none => []
  | some text => ["--log-level", text]

/-- The level that is chosen by an argument, or else by the environment, or else by default. -/
def chosenLevel (environmentLevel choice : Option String) : Except UsageError String :=
  checkLevel (choice.getD ((environmentLevel.filter (· != "")).getD Settings.standard.logLevel.lossy))

/-- A path that starts with no hyphen is an argument. -/
theorem looksLikeOption_eq_false {path : String} (h : path.toList.head? ≠ some '-') :
    looksLikeOption path = false := by
  simp [looksLikeOption, h]

/-- The arguments of a build with JSON output are understood. -/
theorem readBuild_json {path : String} (h : path.toList.head? ≠ some '-') (level : String) :
    readBuild level [path, "--format", "json"] = .ok (.build level path .json) := by
  have hparse : parse buildOptions false [path, "--format", "json"] =
      .ok ⟨[("--format", "json")], [path]⟩ := by
    have hdashes : path ≠ "--" := by
      rintro rfl
      exact h rfl
    rw [parse, if_neg hdashes, looksLikeOption_eq_false h]
    rfl
  rw [readBuild, hparse]
  rfl

/-- The arguments of the program are understood, with the level that is chosen. -/
theorem read_json {path : String} (h : path.toList.head? ≠ some '-') {environmentLevel choice : Option String}
    {level : String} (hlevel : chosenLevel environmentLevel choice = .ok level) :
    read Settings.standard.logLevel.lossy environmentLevel
      (levelArguments choice ++ ["build", path, "--format", "json"]) = .ok (.build level path .json) := by
  have hparse : parse programOptions true (levelArguments choice ++ ["build", path, "--format", "json"]) =
      .ok ⟨choice.toList.map fun text => ("--log-level", text), ["build", path, "--format", "json"]⟩ := by
    cases choice <;> rfl
  have himmediate : immediate? ⟨choice.toList.map fun text => ("--log-level", text),
      ["build", path, "--format", "json"]⟩ = none := by
    cases choice <;> rfl
  have hvalue : Parsed.value? ⟨choice.toList.map fun text => ("--log-level", text),
      ["build", path, "--format", "json"]⟩ "--log-level" = choice := by
    cases choice <;> rfl
  rw [chosenLevel] at hlevel
  simp only [read, hparse, bind, Except.bind, himmediate, hvalue, hlevel, readBuild_json h]

/-- Every level that passes the check chooses a threshold. -/
theorem exists_threshold {text level : String} (h : checkLevel text = .ok level) :
    ∃ threshold, LogLevel.ofName level = .ok threshold := by
  have hlevels : ∀ name ∈ levelNames, (LogLevel.ofName name).isOk = true := by decide +kernel
  unfold checkLevel at h
  dsimp only at h
  split at h
  case isTrue hmem =>
    cases h
    specialize hlevels _ (List.contains_iff_mem.mp hmem)
    cases hname : LogLevel.ofName text.toUpper with
    | ok threshold => exact ⟨threshold, rfl⟩
    | error label =>
      rw [hname] at hlevels
      cases hlevels
  case isFalse => cases h

/-! ## Running the command -/

/-- Where a snapshot is loaded from, there is no directory. -/
theorem isDirectory_of_loaded {depth : Nat} {lookup : String → FileState} {path : String} {snapshot : Snapshot}
    (hload : (Snapshot.load depth lookup path).value = .ok snapshot) :
    (lookup (PathName.normalize path)).isDirectory = false := by
  cases hfile : lookup (PathName.normalize path) with
  | ok bytes => rfl
  | error fault =>
    rw [Snapshot.load, hfile] at hload
    cases fault <;> cases hload

/-- A path at which a snapshot is loaded passes the check of paths. -/
theorem checkPath_of_loaded {surroundings : Surroundings} (hlookup : KeepsDirectories surroundings.lookup)
    {path : String} {snapshot : Snapshot}
    (hload : (Snapshot.load surroundings.depth surroundings.lookup path).value = .ok snapshot) (level : String) :
    checkPath surroundings (.build level path .json) = .ok (.build level path .json) := by
  have hdirectory : (surroundings.lookup path).isDirectory = false := by
    by_contra hfound
    have hshown := hlookup path (by simpa using hfound)
    rw [isDirectory_of_loaded hload] at hshown
    cases hshown
  simp [checkPath, hdirectory]

/-- A snapshot that is loaded and whose topology is within the digit limit has its document printed, after the log. -/
theorem runBuild_json (surroundings : Surroundings) {path : String} {snapshot : Snapshot}
    (hload : (Snapshot.load surroundings.depth surroundings.lookup path).value = .ok snapshot) {text : List Char}
    (hprinted : printDocument (snapshot.build surroundings.settings).value = .ofText text) (log : LogConfig) :
    runBuild surroundings log path .json =
      ⟨log.write surroundings.rendering
          (((Snapshot.load surroundings.depth surroundings.lookup path).events ++
            (snapshot.build surroundings.settings).events).map LogEntry.ofEvent) ++ [(.output, text)],
        .exit 0⟩ := by
  have hbuilt : (snapshot.build surroundings.settings).attempt =
      ⟨.ok (snapshot.build surroundings.settings).value, (snapshot.build surroundings.settings).trace⟩ :=
    attempt_buildTopology_stores surroundings.settings snapshot.stores snapshot.measurements
  simp only [runBuild, hload, hbuilt, printAs, hprinted]
  rfl

/-- For a file from which a snapshot is loaded, the build command with JSON output ends well. On standard output it
leaves one document and a line feed, and nothing else, at every level of the log and however entries are rendered. The
document is read as the topology that is built from the snapshot.

The log is on standard error: the lines of the entries that reach the level, of loading first and then of building. -/
theorem json_output {lookup : String → FileState} (hlookup : KeepsDirectories lookup) {path : String}
    (hpath : path.toList.head? ≠ some '-') {depth : Nat} {snapshot : Snapshot}
    (hload : (Snapshot.load depth lookup path).value = .ok snapshot)
    (hwritable : (snapshot.build .standard).value.Writable) :
    (snapshot.build .standard).attempt.value = .ok (snapshot.build .standard).value ∧
    ∃ text, (snapshot.build .standard).value.ReadFrom text ∧
      (snapshot.build .standard).value.ReadFrom (text ++ ['\n']) ∧
      chosenLevel none none = .ok "INFO" ∧
      ∀ environmentLevel choice level, chosenLevel environmentLevel choice = .ok level →
        ∃ threshold, LogLevel.ofName level = .ok threshold ∧
          ∀ rendering, ∃ outcome,
            run ⟨.standard, environmentLevel, lookup, depth, rendering⟩
              (levelArguments choice ++ ["build", path, "--format", "json"]) = .ok outcome ∧
            outcome.ending = .exit 0 ∧
            outcome.textOn .output = String.ofList (text ++ ['\n']) ∧
            outcome.textOn .error = String.ofList
              ((logged threshold
                (((Snapshot.load depth lookup path).events ++
                  (snapshot.build .standard).events).map LogEntry.ofEvent)).mapIdx fun position entry =>
                    rendering.console (entry.members (.str (rendering.timestamp position))) ++ ['\n']).flatten := by
  obtain ⟨text, hprinted, htext, hline⟩ := hwritable.exists_printed
  refine ⟨congrArg Recorded.value (attempt_buildTopology_stores .standard snapshot.stores snapshot.measurements),
    text, htext, hline, by decide +kernel, fun environmentLevel choice level hlevel => ?_⟩
  obtain ⟨threshold, hthreshold⟩ := exists_threshold hlevel
  refine ⟨threshold, hthreshold, fun rendering => ?_⟩
  have hlog : LogConfig.ofLevel level Settings.standard.logJson = .ok ⟨threshold, false, .error⟩ := by
    rw [LogConfig.ofLevel, hthreshold]
    rfl
  have hchecked : checkPath ⟨.standard, environmentLevel, lookup, depth, rendering⟩ (.build level path .json) =
      .ok (.build level path .json) := checkPath_of_loaded hlookup hload level
  have hrun : run ⟨.standard, environmentLevel, lookup, depth, rendering⟩
      (levelArguments choice ++ ["build", path, "--format", "json"]) =
        .ok (runBuild ⟨.standard, environmentLevel, lookup, depth, rendering⟩ ⟨threshold, false, .error⟩ path
          .json) := by
    simp only [run, read_json hpath hlevel, bind, Except.bind, hchecked]
    rw [carryOut, withLog, hlog]
    rfl
  have hbuild := runBuild_json ⟨.standard, environmentLevel, lookup, depth, rendering⟩ hload hprinted
    ⟨threshold, false, .error⟩
  rw [hbuild] at hrun
  refine ⟨_, hrun, rfl, ?_, ?_⟩
  · rw [Outcome.textOn, Written.on_append, LogConfig.on_write, if_neg nofun, Written.on_singleton, if_pos rfl,
      List.nil_append]
  · rw [Outcome.textOn, Written.on_append, LogConfig.on_write, if_pos rfl, Written.on_singleton, if_neg nofun,
      List.append_nil, LogConfig.lines_console]

/-- The snapshot with texts of all kinds, in which a name ends in half of a surrogate pair. -/
def halvedName : Snapshot :=
  { Snapshot.mixed with
    applications := [⟨1, .broken [0x63, 0xD83D] rfl, false, none⟩, ⟨-2, "\x22α\x5c\t𝄞\x22", true, none⟩] }

/-- A tree with one file in it, which holds that snapshot. -/
def halvedTree : FileTree :=
  .directory [("halved.json", .file (halvedName.toJson.compact.flatMap String.utf8EncodeChar))]

/-- The build command prints the topology of the snapshot with the halved name and nothing else on standard output,
also when every event is logged. -/
theorem json_output_halved :
    KeepsDirectories halvedTree.lookup ∧ "./halved.json".toList.head? ≠ some '-' ∧
      (Snapshot.load 4 halvedTree.lookup "./halved.json").value = .ok halvedName ∧
      (halvedName.build .standard).value.Writable ∧
      ∃ text, (halvedName.build .standard).value.ReadFrom (text ++ ['\n']) ∧
        ∃ outcome, run ⟨.standard, some "error", halvedTree.lookup, 4, ⟨fun _ => "", Json.compact ∘ .obj⟩⟩
            ["--log-level", "debug", "build", "./halved.json", "--format", "json"] = .ok outcome ∧
          outcome.textOn .output = String.ofList (text ++ ['\n']) ∧ outcome.textOn .error ≠ "" := by
  have hpath : "./halved.json".toList.head? ≠ some '-' := by decide
  have hloaded : Snapshot.load 4 halvedTree.lookup "./halved.json" =
      (do Recorded.emit (Snapshot.loadedEvent "halved.json" halvedName); return .ok halvedName) := by
    have hdistinct : halvedName.catalog.Distinct := ⟨by decide, by decide, by decide⟩
    have hdocument : Json.DocumentText 4 halvedName.toJson halvedName.toJson.compact :=
      Json.documentText_compact (Snapshot.fits_toJson 0 hdistinct)
    have hfile : halvedTree.lookup (PathName.normalize "./halved.json") =
        .ok (halvedName.toJson.compact.flatMap String.utf8EncodeChar) := rfl
    rw [Snapshot.load, hfile,
      Snapshot.ofFile_documentText ⟨by decide +kernel, by decide +kernel⟩ hdistinct hdocument]
    rfl
  have hload : (Snapshot.load 4 halvedTree.lookup "./halved.json").value = .ok halvedName := by
    rw [hloaded]
    rfl
  have hwritable : (halvedName.build .standard).value.Writable :=
    ⟨by decide +kernel, by decide +kernel⟩
  have hlevel : chosenLevel (some "error") (some "debug") = .ok "DEBUG" := by decide +kernel
  obtain ⟨-, text, -, hline, -, hall⟩ := json_output halvedTree.keepsDirectories hpath hload hwritable
  obtain ⟨threshold, hthreshold, hrendered⟩ := hall _ _ _ hlevel
  obtain ⟨outcome, hrun, -, houtput, herror⟩ := hrendered ⟨fun _ => "", Json.compact ∘ .obj⟩
  refine ⟨halvedTree.keepsDirectories, hpath, hload, hwritable, text, hline, outcome, hrun, houtput, ?_⟩
  -- The first line of the log announces the snapshot.
  have hdebug : LogLevel.ofName "DEBUG" = .ok .debug := by decide +kernel
  cases hthreshold.symm.trans hdebug
  rw [herror, hloaded, Recorded.events_bind, Recorded.events_emit, Recorded.events_pure, List.append_nil,
    List.singleton_append, List.map_cons, logged, List.filter_cons_of_pos rfl, List.mapIdx_cons, List.flatten_cons]
  intro hempty
  have hnil := String.ofList_eq_empty_iff.mp hempty
  simp at hnil

end ServiceTopology.CommandLine
