import ServiceTopology.Json.Value
import ServiceTopology.Number.Literal
import ServiceTopology.Schema.Checked
import ServiceTopology.Table

/-!
# Decoding JSON values

Validate JSON values as integers, truth values, texts, ratios, lists, maps and records. Decoding is
lenient about numbers: a truth value, a whole floating-point number or a text may stand for an integer.

Names of a record that its description does not mention are ignored.
-/

namespace ServiceTopology.Schema

/-- A decoder validates one JSON value. -/
abbrev Decoder (α : Type) := Json → Checked α

/-- Decode a text as a string, in which no surrogate stands alone. -/
def ofString {α : Type} (decode : String → Checked α) : WideText → Checked α
  | .plain text => decode text
  | .broken _ _ => .reject .brokenString

/-- Decode an integer written as text. -/
def integerText : WideText → Checked Int :=
  ofString fun text =>
    match Number.readInteger text.toList with
    | .ok n => .valid n
    | .error .malformed => .reject .integerUnreadable
    | .error .tooLong => .reject .integerTooLong

/-- Magnitude that an integer of 64 bits with a sign does not reach: two to the power 63. -/
def wordBound : Nat := Nat.pow 2 63

/-- Decode a floating-point number as an integer of at most 64 bits. -/
def integerFloat (value : Double) : Checked Int :=
  match value.toRat? with
  | none => .reject .notFinite
  | some q =>
    if q.den ≠ 1 then .reject .integerHasFraction
    else if q.num.natAbs < wordBound then .valid q.num
    else .reject .integerTooLong

/-- Decode an integer. -/
def integer : Decoder Int
  | .int n => .valid n
  | .bool value => .valid (if value then 1 else 0)
  | .float value => integerFloat value
  | .str text => integerText text
  | _ => .reject .notInteger

/-- Words for true, in lower case. -/
def trueWords : List String := ["1", "on", "t", "true", "y", "yes"]

/-- Words for false, in lower case. -/
def falseWords : List String := ["0", "off", "f", "false", "n", "no"]

/-- Decode a truth value written as text; case is ignored for ASCII letters. -/
def booleanText : WideText → Checked Bool :=
  ofString fun text =>
    let word := text.toLower
    if trueWords.contains word then .valid true
    else if falseWords.contains word then .valid false
    else .reject .booleanUnreadable

/-- Decode an integer as a truth value. -/
def booleanInteger (n : Int) : Checked Bool :=
  if n = 1 then .valid true
  else if n = 0 then .valid false
  else if -wordBound ≤ n ∧ n < wordBound then .reject .booleanUnreadable
  else .reject .notBoolean

/-- Decode a truth value. -/
def boolean : Decoder Bool
  | .bool value => .valid value
  | .int n => booleanInteger n
  | .float value =>
    match value.toRat? with
    | some q => if q = 1 then .valid true else if q = 0 then .valid false else .reject .notBoolean
    | none => .reject .notBoolean
  | .str text => booleanText text
  | _ => .reject .notBoolean

/-- Decode a text. -/
def string : Decoder WideText
  | .str text => .valid text
  | _ => .reject .notString

/-- Decode a ratio. -/
def ratio : Decoder Rat
  | .int n => .valid n
  | .bool value => .valid (if value then 1 else 0)
  | .float value =>
    match value.toRat? with
    | some q => .valid q
    | none => .reject .ratioUnreadable
  | .str (.plain text) =>
    match Number.readRatio? text.toList with
    | some q => .valid q
    | none => .reject .ratioUnreadable
  | .str (.broken _ _) => .reject .ratioUnreadable
  | _ => .reject .notRatio

/-- Decode one of several values by its exact name. -/
def enumerated {α : Type} (ofName? : String → Option α) : Decoder α
  | .str text =>
    ofString (fun name =>
      match ofName? name with
      | some value => .valid value
      | none => .reject .notEnumerated) text
  | _ => .reject .notEnumerated

/-- Decode a value or null. -/
def nullable {α : Type} (decode : Decoder α) : Decoder (Option α)
  | .null => .valid none
  | value => some <$> decode value

/-- Decode items that start at a list index. -/
def itemsFrom {α : Type} (decode : Decoder α) : Nat → List Json → Checked (List α)
  | _, [] => .valid []
  | index, item :: rest =>
    List.cons <$> (decode item).under (.index index) <*> itemsFrom decode (index + 1) rest

/-- Decode a list. -/
def list {α : Type} (decode : Decoder α) : Decoder (List α)
  | .arr items => itemsFrom decode 0 items
  | _ => .reject .notList

/-- Decode the bindings of a map; an unreadable key is marked at the end of its path. -/
def bindings {α : Type} (decode : Decoder α) : Json.Members → Checked (List (Int × α))
  | [] => .valid []
  | (key, value) :: rest =>
    let entry := Prod.mk <$> (integerText key).under (.name "[key]") <*> decode value
    List.cons <$> entry.under (.name key.lossy) <*> bindings decode rest

/-- Decode a map with integer keys, equal keys taking the last value. -/
def table {α : Type} (decode : Decoder α) : Decoder (Table α)
  | .obj members => Table.ofList <$> bindings decode members
  | _ => .reject .notMap

/-- Decode the members of a record. -/
def record {α : Type} (decode : Json.Members → Checked α) : Decoder α
  | .obj members => decode members
  | _ => .reject .notRecord

/-- Decode a member that has to be present. -/
def required {α : Type} (members : Json.Members) (name : String) (decode : Decoder α) : Checked α :=
  match members.lookup (WideText.plain name) with
  | some value => (decode value).under (.name name)
  | none => (Checked.reject .missing : Checked α).under (.name name)

/-- Decode a member that may be absent. -/
def optional {α : Type} (members : Json.Members) (name : String) (default : α) (decode : Decoder α) :
    Checked α :=
  match members.lookup (WideText.plain name) with
  | some value => (decode value).under (.name name)
  | none => .valid default

end ServiceTopology.Schema
