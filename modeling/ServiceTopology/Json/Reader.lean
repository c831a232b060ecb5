import ServiceTopology.Json.Value
import ServiceTopology.Text.Decimal

/-!
# Reading JSON

Read a JSON document from a text. Besides the standard values the reader accepts the words `NaN`,
`Infinity` and `-Infinity`. Texts are read by UTF-16 code units, so that the escapes of two surrogates next to
each other make a character and a surrogate may stand alone.

Every reader takes the text that is left and returns what remains of it. A complaint records how much text
was left at the place it is about, so that its position follows from the length of the document alone.
An integer may have as many digits as can be converted. Containers may be nested as deep as the caller allows,
which for a recursive reader is what the stack has room for.
-/

namespace ServiceTopology.Json

open ServiceTopology.Text

/-- Reasons why a text is not a JSON document. -/
inductive Complaint where
  | expectingValue
  | expectingName
  | expectingColon
  | expectingComma
  | extraData
  | unterminatedString
  | controlCharacter
  | unknownEscape
  | badUnicodeEscape
  | byteOrderMark
  deriving DecidableEq

/-- Wording of a complaint. -/
def Complaint.message : Complaint → String
  | expectingValue => "Expecting value"
  | expectingName => "Expecting property name enclosed in double quotes"
  | expectingColon => "Expecting \x27:\x27 delimiter"
  | expectingComma => "Expecting \x27,\x27 delimiter"
  | extraData => "Extra data"
  | unterminatedString => "Unterminated string starting at"
  | controlCharacter => "Invalid control character at"
  | unknownEscape => "Invalid \x5cescape"
  | badUnicodeEscape => "Invalid \x5cuXXXX escape"
  | byteOrderMark => "Unexpected UTF-8 BOM (decode using utf-8-sig)"

/-- The two kinds of container. -/
inductive Container where
  | array
  | object
  deriving DecidableEq

/-- Faults that end the reading; `left` is the length of the text from the place of a complaint on. -/
inductive Fault where
  | malformed (what : Complaint) (left : Nat)
  | integerTooLong (digits : Nat)
  | tooDeep (container : Container)
  deriving DecidableEq

/-- What a reader gives: a value and the text after it. -/
abbrev Scanned (α : Type) := Except Fault (α × List Char)

/-- Complain about the place where the given text starts. -/
def complain {α : Type} (what : Complaint) (place : List Char) : Except Fault α :=
  .error (.malformed what place.length)

/-- Test for white space between tokens. -/
def isSpace (c : Char) : Bool := c = ' ' || c = '\t' || c = '\n' || c = '\r'

/-- Drop white space. -/
def skipSpace (text : List Char) : List Char := text.dropWhile isSpace

/-! ## Texts -/

/-- Value of a hexadecimal digit. -/
def hexValue? (c : Char) : Option Nat :=
  if '0' ≤ c && c ≤ '9' then some (c.toNat - 0x30)
  else if 'a' ≤ c && c ≤ 'f' then some (c.toNat - 0x57)
  else if 'A' ≤ c && c ≤ 'F' then some (c.toNat - 0x37)
  else none

/-- Value of four hexadecimal digits. -/
def codeUnit? (a b c d : Char) : Option UInt16 :=
  match hexValue? a, hexValue? b, hexValue? c, hexValue? d with
  | some a, some b, some c, some d => some (UInt16.ofNat (((a * 16 + b) * 16 + c) * 16 + d))
  | _, _, _, _ => none

/-- Character that an escape letter stands for. -/
def letterChar? (c : Char) : Option Char :=
  if c = '\x22' || c = '\x5c' || c = '/' then some c
  else if c = 'n' then some '\n'
  else if c = 'r' then some '\r'
  else if c = 't' then some '\t'
  else if c = 'b' then some '\x08'
  else if c = 'f' then some '\x0c'
  else none

/-- Read an escape of four hexadecimal digits at its `u`: a code unit and the length of the escape without the
backslash. -/
def unicodeEscape (text : List Char) : Except Fault (UInt16 × Nat) :=
  match text with
  | _ :: a :: b :: c :: d :: after =>
    if after.isEmpty then complain .badUnicodeEscape text
    else
      match codeUnit? a b c d with
      | some unit => .ok (unit, 5)
      | none => complain .badUnicodeEscape text
  | _ => complain .badUnicodeEscape text

/-- Read an escape after its backslash: code units and the length of what stands for them. -/
def escapeAt (opening : List Char) (text : List Char) : Except Fault (List UInt16 × Nat) :=
  match text with
  | [] => complain .unterminatedString opening
  | letter :: _ =>
    if letter = 'u' then
      match unicodeEscape text with
      | .ok (unit, length) => .ok ([unit], length)
      | .error fault => .error fault
    else
      match letterChar? letter with
      | some c => .ok (codeUnits c, 1)
      | none => .error (.malformed .unknownEscape (text.length + 1))

/-- Put code units in front of the rest of a text. -/
def prependUnits (units : List UInt16) : Scanned (List UInt16) → Scanned (List UInt16)
  | .ok (more, rest) => .ok (units ++ more, rest)
  | .error fault => .error fault

/-- Read the code units of a text after its opening quote, dropping the next `skip` characters first; `opening` is
what is left from the opening quote on. -/
def stringBody (opening : List Char) : (skip : Nat) → List Char → Scanned (List UInt16)
  | _, [] => complain .unterminatedString opening
  | skip + 1, _ :: rest => stringBody opening skip rest
  | 0, c :: rest =>
    if c = '\x22' then .ok ([], rest)
    else if c = '\x5c' then
      match escapeAt opening rest with
      | .ok (escaped, length) => prependUnits escaped (stringBody opening length rest)
      | .error fault => .error fault
    else if c.toNat < 0x20 then complain .controlCharacter (c :: rest)
    else prependUnits (codeUnits c) (stringBody opening 0 rest)

/-- Read a text at its opening quote. -/
def stringAt (text : List Char) : Scanned WideText :=
  match stringBody text 0 (text.drop 1) with
  | .ok (units, rest) => .ok (WideText.ofUnits units, rest)
  | .error fault => .error fault

/-! ## Numbers and words -/

/-- Split off a fraction: a point and at least one digit. -/
def splitFraction : List Char → Option (List Char) × List Char
  | '.' :: rest =>
    let digits := rest.takeWhile Char.isDigit
    if digits.isEmpty then (none, '.' :: rest) else (some digits, rest.dropWhile Char.isDigit)
  | text => (none, text)

/-- Split off the digits of an exponent after its mark and sign. -/
def splitExponentDigits (negative : Bool) (text : List Char) : Option (Int × List Char) :=
  let digits := text.takeWhile Char.isDigit
  if digits.isEmpty then none
  else
    let size : Int := digitsValue digits
    some (if negative then -size else size, text.dropWhile Char.isDigit)

/-- Split off an exponent: a mark, an optional sign and at least one digit. -/
def splitExponent (text : List Char) : Option Int × List Char :=
  let found : Option (Int × List Char) :=
    match text with
    | mark :: rest =>
      if mark = 'e' || mark = 'E' then
        match rest with
        | '-' :: digits => splitExponentDigits true digits
        | '+' :: digits => splitExponentDigits false digits
        | digits => splitExponentDigits false digits
      else none
    | [] => none
  match found with
  | some (exponent, rest) => (some exponent, rest)
  | none => (none, text)

/-- Split off the whole part of a number: a zero, or digits that start with another one. -/
def splitWhole (text : List Char) : List Char × List Char :=
  match text with
  | '0' :: rest => (['0'], rest)
  | _ => (text.takeWhile Char.isDigit, text.dropWhile Char.isDigit)

/-- Read a number after its sign; `place` is the text from the start of the value on. -/
def numberAt (negative : Bool) (text place : List Char) : Scanned Json :=
  let (whole, afterWhole) := splitWhole text
  if whole.isEmpty then complain .expectingValue place
  else
    let (fraction, afterFraction) := splitFraction afterWhole
    let (exponent, rest) := splitExponent afterFraction
    match fraction, exponent with
    | none, none =>
      if digitLimit < whole.length then .error (.integerTooLong whole.length)
      else
        let magnitude : Int := digitsValue whole
        .ok (.int (if negative then -magnitude else magnitude), rest)
    | _, _ =>
      let decimals := fraction.getD []
      let digits := digitsValue (whole ++ decimals)
      .ok (.float (.ofDecimal negative digits (exponent.getD 0 - decimals.length)), rest)

/-- Words that stand for a value. -/
def words : List (List Char × Json) :=
  [("null".toList, .null), ("true".toList, .bool true), ("false".toList, .bool false),
   ("NaN".toList, .float .notANumber), ("Infinity".toList, .float (.infinite false)),
   ("-Infinity".toList, .float (.infinite true))]

/-- Read a text, a word or a number. -/
def scalarAt (text : List Char) : Scanned Json :=
  match text with
  | '\x22' :: _ =>
    match stringAt text with
    | .ok (value, rest) => .ok (.str value, rest)
    | .error fault => .error fault
  | _ =>
    match words.find? fun word => word.1.isPrefixOf text with
    | some (word, value) => .ok (value, text.drop word.length)
    | none =>
      match text with
      | '-' :: rest => numberAt true rest text
      | _ => numberAt false text text

/-! ## Containers -/

/-- Read elements separated by commas up to a closing character, at least one. There are at most as
many of them as `fuel` has characters. -/
def elements {α : Type} (close : Char) (element : List Char → Scanned α) :
    (fuel : List Char) → List Char → Scanned (List α)
  | [], text => complain .expectingValue text
  | _ :: fuel, text =>
    match element text with
    | .error fault => .error fault
    | .ok (first, afterFirst) =>
      match skipSpace afterFirst with
      | [] => complain .expectingComma []
      | c :: rest =>
        if c = close then .ok ([first], rest)
        else if c = ',' then
          match elements close element fuel (skipSpace rest) with
          | .ok (more, after) => .ok (first :: more, after)
          | .error fault => .error fault
        else complain .expectingComma (c :: rest)

/-- Read the elements of a container after its opening character. -/
def containerBody {α : Type} (close : Char) (element : List Char → Scanned α) (text : List Char) :
    Scanned (List α) :=
  let start := skipSpace text
  if start.head? = some close then .ok ([], start.drop 1)
  else elements close element (close :: start) start

/-- Read a name, a colon and a value. -/
def memberAt (value : List Char → Scanned Json) (text : List Char) : Scanned (WideText × Json) :=
  match text with
  | '\x22' :: _ =>
    match stringAt text with
    | .error fault => .error fault
    | .ok (name, afterName) =>
      match skipSpace afterName with
      | ':' :: rest =>
        match value (skipSpace rest) with
        | .ok (member, after) => .ok ((name, member), after)
        | .error fault => .error fault
      | other => complain .expectingColon other
  | _ => complain .expectingName text

/-- Read a value whose containers are nested at most `depth` deep. -/
def valueAt : (depth : Nat) → List Char → Scanned Json
  | 0, text =>
    match text with
    | '[' :: _ => .error (.tooDeep .array)
    | '\x7b' :: _ => .error (.tooDeep .object)
    | _ => scalarAt text
  | depth + 1, text =>
    match text with
    | '[' :: rest =>
      match containerBody ']' (valueAt depth) rest with
      | .ok (items, after) => .ok (.arr items, after)
      | .error fault => .error fault
    | '\x7b' :: rest =>
      match containerBody '\x7d' (memberAt (valueAt depth)) rest with
      | .ok (members, after) => .ok (.obj (Members.ofList members), after)
      | .error fault => .error fault
    | _ => scalarAt text

/-! ## Documents -/

/-- A place in a text: line and column counted from one, and the characters before it. -/
structure Position where
  line : Nat
  column : Nat
  offset : Nat
  deriving DecidableEq

/-- Find the place where only `left` characters of a text are left. -/
def positionOf (text : List Char) (left : Nat) : Position :=
  let before := text.take (text.length - left)
  { line := before.count '\n' + 1
    column := (before.reverse.takeWhile (· != '\n')).length + 1
    offset := before.length }

/-- Faults of a document, complaints with their position. -/
inductive DocumentFault where
  | malformed (what : Complaint) (position : Position)
  | integerTooLong (digits : Nat)
  | tooDeep (container : Container)
  deriving DecidableEq

/-- Place a fault in the document it was found in. -/
def Fault.inDocument (text : List Char) : Fault → DocumentFault
  | malformed what left => .malformed what (positionOf text left)
  | integerTooLong digits => .integerTooLong digits
  | tooDeep container => .tooDeep container

/-- Read a value and nothing but white space around it. -/
def wholeValue (depth : Nat) (text : List Char) : Except Fault Json :=
  if text.head? = some '\ufeff' then complain .byteOrderMark text
  else
    match valueAt depth (skipSpace text) with
    | .error fault => .error fault
    | .ok (value, after) =>
      match skipSpace after with
      | [] => .ok value
      | rest => complain .extraData rest

/-- Read a document whose containers are nested at most `depth` deep. -/
def read (depth : Nat) (text : List Char) : Except DocumentFault Json :=
  (wholeValue depth text).mapError (·.inDocument text)

end ServiceTopology.Json
