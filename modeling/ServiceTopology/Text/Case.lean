import ServiceTopology.Text.Cased
import ServiceTopology.Text.CaseTable

/-!
# Upper and lower case

Map a text to its upper-case or lower-case form, character by character. A character may become several
(the sharp s becomes two capitals), so the maps work on texts and not on single characters.

The forms follow the tables, except that a capital sigma at the end of a word has a lower-case form of its
own. The language of the text is not consulted.
-/

namespace ServiceTopology.Text

/-- Map one character by a table of expansions, then by a table of runs; keep it when neither lists it. -/
def mapCase (expansions : List (Nat × List Nat)) (runs : List CaseRun) (c : Char) : List Char :=
  match expansions.lookup c.toNat with
  | some points => points.map Char.ofNat
  | none =>
    match runs.find? (·.covers c.toNat) with
    | some run => [Char.ofNat (c.toNat + run.offset).toNat]
    | none => [c]

/-- Upper-case form of a character. -/
def upperChar (c : Char) : List Char := mapCase upperExpansions upperRuns c

/-- Give the upper-case form of a text. -/
def upper (text : String) : String := String.ofList (text.toList.flatMap upperChar)

/-- Map a text to lower case; `before` holds the characters before it, the nearest first. -/
def lowerFrom : (before : List Char) → List Char → List Char
  | _, [] => []
  | before, c :: rest =>
    let form :=
      if c = 'Σ' && sigmaIsFinal before rest then ['ς'] else mapCase lowerExpansions lowerRuns c
    form ++ lowerFrom (c :: before) rest

/-- Give the lower-case form of a text. -/
def lower (text : String) : String := String.ofList (lowerFrom [] text.toList)

/-- The sharp s becomes two capitals. -/
example : upper "straße" = "STRASSE" := by decide +kernel

/-- A sigma at the end of a word takes its final form. -/
example : lower "ΣΑΣ" = "σας" := by decide +kernel

end ServiceTopology.Text
