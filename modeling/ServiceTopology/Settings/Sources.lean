import ServiceTopology.Settings
import ServiceTopology.Settings.Assignments
import ServiceTopology.Text.Case

/-!
# Sources of settings

Settings come from overrides, from environment variables, from a file of assignments and from the
defaults; an earlier source wins. Variables are named like the settings after a common start, and case
does not matter in their names. Their values are texts.

Overrides carry the exact names of settings and values of any type.
-/

namespace ServiceTopology.Settings

open ServiceTopology.Text

/-- Start of the names of variables, in lower case. -/
def variableStart : String := "svcmap_"

/-- Name of the setting that a variable belongs to. -/
def settingName? (variableName : String) : Option String :=
  let name := (lower variableName).toList
  let start := variableStart.toList
  if start.isPrefixOf name then some (String.ofList (name.drop start.length)) else none

/-- Named values that a source assigns to settings. A name that is assigned again keeps its place; of the
names that differ in case alone the last one counts, and without a value it leaves the setting alone. -/
def sourceMembers (source : List Assignment) : Json.Members :=
  let byName := Json.Members.ofList (source.map fun a => (.plain a.name, .ofOption (Json.str ∘ .plain) a.value))
  let bySetting := Json.Members.ofList (byName.filterMap fun (name, value) =>
    (settingName? name.lossy).map fun setting => (.plain setting, value))
  bySetting.filter fun
    | (_, .null) => false
    | _ => true

/-- Validate settings from overrides, environment variables and a file of assignments. -/
def ofSources (overrides : Json.Members) (environment : List Variable) (file : List Char) :
    Checked Settings :=
  let fromEnvironment := environment.map fun (name, value) => ⟨name, some value⟩
  ofMembers (overrides ++ sourceMembers fromEnvironment ++
    sourceMembers (assignments environment file))

end ServiceTopology.Settings
