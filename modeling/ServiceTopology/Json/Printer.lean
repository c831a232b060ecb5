import ServiceTopology.Json.Value
import ServiceTopology.Json.Escape
import ServiceTopology.Report.Printed

/-!
# Printing JSON in ASCII

Two layouts: one line, and one value per line indented by two blanks a level. A finite floating-point
number is printed in full as a decimal, so that reading it back gives the same number.

The one-line layout prints integers of any size. The indented layout stops in front of the first integer
beyond the digit limit and says so.
-/

namespace ServiceTopology

namespace Json

open ServiceTopology.Text

/-- Decimal places that hold a fraction with a power of two as denominator. -/
def decimalPlaces (denominator : Nat) : Nat := denominator.log2

/-- Print a rational whose denominator is a power of two as a decimal with at least one place. -/
def floatDigits (value : Rat) : List Char :=
  let places := max 1 (decimalPlaces value.den)
  let unit := Nat.pow 10 places
  let scaled := value.num.natAbs * unit / value.den
  let fraction := natDigits (scaled % unit)
  (if value < 0 then ['-'] else []) ++ natDigits (scaled / unit) ++ '.' ::
    (List.replicate (places - fraction.length) '0' ++ fraction)

/-- Print a floating-point number. -/
def doubleText : Double → List Char
  | .finite value => floatDigits value
  | .negativeZero => "-0.0".toList
  | .infinite false => "Infinity".toList
  | .infinite true => "-Infinity".toList
  | .notANumber => "NaN".toList

/-- Print a truth value. -/
def boolText (value : Bool) : List Char := if value then "true".toList else "false".toList

mutual

/-- Print a value on one line. -/
def compact : Json → List Char
  | .null => "null".toList
  | .bool value => boolText value
  | .int value => intDigits value
  | .float value => doubleText value
  | .str value => quote value
  | .arr [] => "[]".toList
  | .arr (first :: rest) => '[' :: (compact first ++ compactItems rest)
  | .obj [] => "\x7b\x7d".toList
  | .obj ((name, first) :: rest) =>
    '\x7b' :: (quote name ++ ':' :: ' ' :: (compact first ++ compactMembers rest))

/-- Print the items after the first one, and the closing bracket. -/
def compactItems : List Json → List Char
  | [] => [']']
  | item :: rest => ',' :: ' ' :: (compact item ++ compactItems rest)

/-- Print the members after the first one, and the closing brace. -/
def compactMembers : List (WideText × Json) → List Char
  | [] => ['\x7d']
  | (name, value) :: rest =>
    ',' :: ' ' :: (quote name ++ ':' :: ' ' :: (compact value ++ compactMembers rest))

end

/-- Start a new line at an indentation level. -/
def newLine (level : Nat) : List Char := '\n' :: List.replicate (2 * level) ' '

mutual

/-- Print a value over several lines, inside the given number of containers. -/
def indented (level : Nat) : Json → Printed
  | .null => .ofText "null".toList
  | .bool value => .ofText (boolText value)
  | .int value => .ofExcept (printInteger value)
  | .float value => .ofText (doubleText value)
  | .str value => .ofText (quote value)
  | .arr [] => .ofText "[]".toList
  | .arr (first :: rest) =>
    .ofText ('[' :: newLine (level + 1)) ++ (indented (level + 1) first ++ indentedItems level rest)
  | .obj [] => .ofText "\x7b\x7d".toList
  | .obj ((name, first) :: rest) =>
    .ofText ('\x7b' :: newLine (level + 1)) ++ (.ofText (quote name ++ [':', ' ']) ++
      (indented (level + 1) first ++ indentedMembers level rest))

/-- Print the items after the first one, and the closing bracket on a line of its own. -/
def indentedItems (level : Nat) : List Json → Printed
  | [] => .ofText (newLine level ++ [']'])
  | item :: rest =>
    .ofText (',' :: newLine (level + 1)) ++ (indented (level + 1) item ++ indentedItems level rest)

/-- Print the members after the first one, and the closing brace on a line of its own. -/
def indentedMembers (level : Nat) : List (WideText × Json) → Printed
  | [] => .ofText (newLine level ++ ['\x7d'])
  | (name, value) :: rest =>
    .ofText (',' :: newLine (level + 1)) ++ (.ofText (quote name ++ [':', ' ']) ++
      (indented (level + 1) value ++ indentedMembers level rest))

end

/-- Print a document over several lines, with a line end after it. -/
def document (value : Json) : Printed := indented 0 value ++ .ofText ['\n']

end Json

end ServiceTopology
