import ServiceTopology.Text.Case

/-!
# Texts with surrogates

JSON spells a text by UTF-16 code units. Most sequences of units encode a string; one in which a surrogate stands
alone does not, and is still a text that is read, kept and written again. A wide text is a string, or code units that
encode none.

Two surrogates next to each other that make a pair are one character in every text.
-/

namespace ServiceTopology

namespace Text

/-! ## Code units -/

/-- Test for the first unit of a surrogate pair. -/
def isHighSurrogate (unit : UInt16) : Bool := 0xD800 ≤ unit.toNat && unit.toNat ≤ 0xDBFF

/-- Test for the second unit of a surrogate pair. -/
def isLowSurrogate (unit : UInt16) : Bool := 0xDC00 ≤ unit.toNat && unit.toNat ≤ 0xDFFF

/-- Character of a surrogate pair. -/
def pairChar (high low : UInt16) : Char :=
  Char.ofNat (0x10000 + (high.toNat - 0xD800) * 0x400 + (low.toNat - 0xDC00))

/-- Code units of a character. -/
def codeUnits (c : Char) : List UInt16 :=
  if c.toNat < 0x10000 then [UInt16.ofNat c.toNat]
  else [UInt16.ofNat (0xD800 + (c.toNat - 0x10000) / 0x400), UInt16.ofNat (0xDC00 + (c.toNat - 0x10000) % 0x400)]

end Text

/-! ## Code points -/

/-- A code point of a text: a character, or a surrogate that stands alone. -/
inductive CodePoint where
  | char (c : Char)
  | surrogate (unit : UInt16)
  deriving DecidableEq

namespace CodePoint

open Text

/-- Code point of a unit that is no part of a pair. -/
def ofUnit (unit : UInt16) : CodePoint :=
  if isHighSurrogate unit || isLowSurrogate unit then surrogate unit else char (Char.ofNat unit.toNat)

/-- Code points that code units encode. -/
def ofUnits : List UInt16 → List CodePoint
  | [] => []
  | [unit] => [ofUnit unit]
  | high :: low :: rest =>
    if isHighSurrogate high && isLowSurrogate low then char (pairChar high low) :: ofUnits rest
    else ofUnit high :: ofUnits (low :: rest)

/-- Code units of a code point. -/
def units : CodePoint → List UInt16
  | char c => codeUnits c
  | surrogate unit => [unit]

/-- Character that is shown for a code point, the replacement character for a surrogate. -/
def shown : CodePoint → Char
  | char c => c
  | surrogate _ => '\ufffd'

/-- Test for a surrogate that stands alone. -/
def isSurrogate : CodePoint → Bool
  | char _ => false
  | surrogate _ => true

/-- Characters of code points, unless one is a surrogate. -/
def chars? : List CodePoint → Option (List Char)
  | [] => some []
  | char c :: rest => (chars? rest).map (c :: ·)
  | surrogate _ :: _ => none

/-- Code points have characters exactly when they are those characters. -/
theorem chars?_eq_some_iff {points : List CodePoint} {chars : List Char} :
    chars? points = some chars ↔ points = chars.map char := by
  induction points generalizing chars with
  | nil => cases chars <;> simp [chars?]
  | cons point rest ih =>
    cases point with
    | char c =>
      cases chars with
      | nil => simp [chars?]
      | cons head tail => simpa [chars?, ih] using and_comm
    | surrogate unit => cases chars <;> simp [chars?]

end CodePoint

/-! ## Wide texts -/

/-- Decode code units, unless a surrogate stands alone among them. -/
def Text.decodeUtf16? (units : List UInt16) : Option (List Char) := CodePoint.chars? (CodePoint.ofUnits units)

/-- A text as JSON spells it: a string, or code units among which a surrogate stands alone. -/
inductive WideText where
  | plain (text : String)
  | broken (units : List UInt16) (h : Text.decodeUtf16? units = none)
  deriving DecidableEq

namespace WideText

instance : Coe String WideText := ⟨plain⟩

/-- The text with the given code units. -/
def ofUnits (units : List UInt16) : WideText :=
  match h : Text.decodeUtf16? units with
  | some chars => plain (String.ofList chars)
  | none => broken units h

/-- Code points of a text. -/
def codePoints : WideText → List CodePoint
  | plain text => text.toList.map .char
  | broken units _ => CodePoint.ofUnits units

/-- Code units of a text. -/
def units (text : WideText) : List UInt16 := text.codePoints.flatMap CodePoint.units

/-- Give the upper-case form of a text; a surrogate that stands alone is left as it is. -/
def upper : WideText → WideText
  | plain text => plain (Text.upper text)
  | broken units _ =>
    ofUnits ((CodePoint.ofUnits units).flatMap fun
      | .char c => (Text.upperChar c).flatMap Text.codeUnits
      | .surrogate unit => [unit])

/-- The string in place of a text, with a replacement character for each byte of a surrogate that stands alone. -/
def lossy : WideText → String
  | plain text => text
  | broken units _ =>
    String.ofList ((CodePoint.ofUnits units).flatMap fun
      | .char c => [c]
      | .surrogate _ => ['\ufffd', '\ufffd', '\ufffd'])

end WideText

end ServiceTopology
