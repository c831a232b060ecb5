import ServiceTopology.Number.Double
import ServiceTopology.Text.Wide

/-!
# JSON values

The values that a JSON document denotes. Integers and floating-point numbers are different values; the
members of an object keep the order in which their names first appeared.

Names within one object are distinct in every value that is read; the type does not enforce it.
-/

namespace ServiceTopology

/-- A JSON value. -/
inductive Json where
  | null
  | bool (value : Bool)
  | int (value : Int)
  | float (value : Double)
  | str (value : WideText)
  | arr (items : List Json)
  | obj (members : List (WideText × Json))

namespace Json

/-- Named members of an object. -/
abbrev Members := List (WideText × Json)

/-- Bind a name, in its old place when it is bound already and at the end otherwise. -/
def Members.bind (name : WideText) (value : Json) : Members → Members
  | [] => [(name, value)]
  | (other, old) :: rest =>
    if other = name then (name, value) :: rest else (other, old) :: Members.bind name value rest

/-- Collect members in order, a repeated name taking its last value. -/
def Members.ofList (members : List (WideText × Json)) : Members :=
  members.foldl (fun known member => Members.bind member.1 member.2 known) []

/-- Look up a member of an object; other values have none. -/
def get? (name : WideText) : Json → Option Json
  | obj members => members.lookup name
  | _ => none

/-- Write an optional value, its absence as null. -/
def ofOption {α : Type} (write : α → Json) : Option α → Json
  | some value => write value
  | none => null

end Json

end ServiceTopology
