import ServiceTopology.Text.Blank
import ServiceTopology.Text.Decimal

/-!
# Numbers written as text

Read an integer or a ratio from a text that stands in place of a number. Both grammars allow single
underscores between digits. An integer may end in a point and zeros; a ratio is either a quotient of two
integers or a decimal with an optional exponent.

A text with more digits than the limit is not converted. The size of an exponent is not limited.
-/

namespace ServiceTopology.Number

open ServiceTopology.Text

/-- Reasons why a text is not an integer. -/
inductive IntegerFault where
  | malformed
  | tooLong
  deriving DecidableEq

/-- Read digits with single underscores between them, the whole text. The flag tells whether a digit
precedes. -/
def plainDigits? (digit? : Char → Option Char) : Bool → List Char → Option (List Char)
  | afterDigit, [] => if afterDigit then some [] else none
  | afterDigit, c :: rest =>
    match digit? c with
    | some d => (plainDigits? digit? true rest).map (d :: ·)
    | none => if c = '_' && afterDigit then plainDigits? digit? false rest else none

/-- Keep an ASCII digit. -/
def keepDigit? (c : Char) : Option Char := if c.isDigit then some c else none

/-- Split off an optional sign; the flag tells whether it is a minus. -/
def splitSign : List Char → Bool × List Char
  | '-' :: rest => (true, rest)
  | '+' :: rest => (false, rest)
  | text => (false, text)

/-- Give a magnitude a sign. -/
def signed (negative : Bool) (magnitude : Nat) : Int := if negative then -magnitude else magnitude

/-- Test for a point followed by one or more zeros, or nothing at all. -/
def isZeroFraction : List Char → Bool
  | [] => true
  | '.' :: zeros => !zeros.isEmpty && zeros.all (· == '0')
  | _ => false

/-- Read an integer literal, blank space around it dropped. -/
def readInteger (text : List Char) : Except IntegerFault Int :=
  let (negative, body) := splitSign (trim isWhiteSpace text)
  let whole := body.takeWhile (· != '.')
  match plainDigits? keepDigit? false whole with
  | none => .error .malformed
  | some digits =>
    if !isZeroFraction (body.drop whole.length) then .error .malformed
    else if digitLimit < (digits.dropWhile (· == '0')).length then .error .tooLong
    else .ok (signed negative (digitsValue digits))

/-- Value of a run of digits and underscores within the digit limit. -/
def digitGroup? (text : List Char) : Option Nat :=
  (plainDigits? asciiDigit? false text).bind fun digits =>
    if digits.length ≤ digitLimit then some (digitsValue digits) else none

/-- Read an exponent: an optional sign and digits. -/
def exponent? (text : List Char) : Option Int :=
  let (negative, digits) := splitSign text
  (digitGroup? digits).map (signed negative)

/-- Multiply a rational by a power of ten. -/
def scaleByTen (value : Rat) (exponent : Int) : Rat :=
  value * mkRat (Nat.pow 10 exponent.toNat) (Nat.pow 10 (-exponent).toNat)

/-- Characters of a digit group. -/
def isGroupChar (c : Char) : Bool := c = '_' || (asciiDigit? c).isSome

/-- Read the part of a ratio after its whole digits: a denominator, or a fraction and an exponent. -/
def ratioTail? (whole : Option Nat) : List Char → Option Rat
  | '/' :: denominator =>
    match whole, digitGroup? denominator with
    | some n, some d => if d = 0 then none else some (mkRat n d)
    | _, _ => none
  | tail =>
    let fraction : Option (List Char × List Char) :=
      match tail with
      | '.' :: rest => some (rest.takeWhile isGroupChar, rest.dropWhile isGroupChar)
      | _ => none
    let (digits, rest) := fraction.getD ([], tail)
    let exponent : Option Int :=
      match rest with
      | [] => some 0
      | c :: text => if c = 'e' || c = 'E' then exponent? text else none
    let decimals : Option Nat := if digits.isEmpty then some 0 else digitGroup? digits
    match exponent, decimals with
    | some e, some f =>
      if whole.isNone && digits.isEmpty then none
      else
        let places := (digits.filter (· != '_')).length
        some (scaleByTen ((whole.getD 0 * Nat.pow 10 places + f : Nat) : Rat) (e - places))
    | _, _ => none

/-- Read a ratio literal, blank space around it dropped. -/
def readRatio? (text : List Char) : Option Rat :=
  let (negative, body) := splitSign (trim isSpacing text)
  let whole := body.takeWhile isGroupChar
  let magnitude : Option Rat :=
    if whole.isEmpty then ratioTail? none (body.drop whole.length)
    else (digitGroup? whole).bind fun n => ratioTail? (some n) (body.drop whole.length)
  magnitude.map fun m => if negative then -m else m

/-- A decimal is read exactly. -/
example : readRatio? "-.5e-1".toList = some (mkRat (-1) 20) := by decide +kernel

end ServiceTopology.Number
