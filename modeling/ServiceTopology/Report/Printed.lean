import ServiceTopology.Text.Decimal
import ServiceTopology.Text.Terminal
import ServiceTopology.Text.Wide

/-!
# Printed text

Text that a report has printed so far, and the reason why it stopped, if it did. Three things cannot be
printed: an integer beyond the digit limit, a ratio beyond the double format, and a line in which a surrogate
stands alone.

What was printed before a stop stays printed; nothing follows it.
-/

namespace ServiceTopology

/-- Things that cannot be printed. -/
inductive PrintFault where
  | integerTooLong
  | ratioTooLarge
  | loneSurrogate
  deriving DecidableEq

/-- Wording of a fault. -/
def PrintFault.message : PrintFault → String
  | integerTooLong =>
    "Exceeds the limit (" ++ Text.decimal Text.digitLimit ++ " digits) for integer string conversion; "
      ++ "use sys.set_int_max_str_digits() to increase the limit"
  | ratioTooLarge => "integer division result too large for a float"
  | loneSurrogate => "surrogates not allowed"

/-- Print an integer within the digit limit. -/
def printInteger (n : Int) : Except PrintFault (List Char) :=
  if Text.Writable n then .ok (Text.intDigits n) else .error .integerTooLong

/-- Text printed so far, and why printing stopped. -/
structure Printed where
  text : List Char
  stop : Option PrintFault
  deriving DecidableEq

namespace Printed

/-- Print a text. -/
def ofText (text : List Char) : Printed := ⟨text, none⟩

/-- Print a text that may not be printable. -/
def ofExcept : Except PrintFault (List Char) → Printed
  | .ok text => ofText text
  | .error fault => ⟨[], some fault⟩

/-- Print one thing after another; nothing follows where printing stopped. -/
def append (first second : Printed) : Printed :=
  match first.stop with
  | some _ => first
  | none => ⟨first.text ++ second.text, second.stop⟩

instance : Append Printed := ⟨append⟩

/-- Echo a line, unless a surrogate stands alone in it. -/
def ofLine (line : List CodePoint) : Printed :=
  if line.any CodePoint.isSurrogate then ⟨[], some .loneSurrogate⟩
  else ofText (Text.echo (line.map CodePoint.shown))

/-- Echo lines one after another. -/
def ofLines : List (List CodePoint) → Printed
  | [] => ofText []
  | line :: rest => append (ofLine line) (ofLines rest)

/-- Printing one text after another prints both. -/
@[simp] theorem ofText_append_ofText (first second : List Char) :
    ofText first ++ ofText second = ofText (first ++ second) := rfl

end Printed

end ServiceTopology
