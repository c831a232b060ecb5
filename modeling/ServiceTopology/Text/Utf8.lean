import ServiceTopology.Text.Decimal
import ServiceTopology.Text.Quoted

/-!
# Strict UTF-8

Decode bytes as UTF-8 and refuse anything that is not the one encoding of a character: stray or missing
continuation bytes, overlong forms, surrogates and code points beyond the last one. A refusal names the
cause and the bytes it is about, the first of them by its position.

A sequence is refused at the first byte that cannot continue it; the bytes before that one are the ones
named.
-/

namespace ServiceTopology.Text

/-- Causes for refusing bytes. -/
inductive Utf8Cause where
  | invalidStart
  | invalidContinuation
  | unexpectedEnd
  deriving DecidableEq

/-- Wording of a cause. -/
def Utf8Cause.message : Utf8Cause → String
  | invalidStart => "invalid start byte"
  | invalidContinuation => "invalid continuation byte"
  | unexpectedEnd => "unexpected end of data"

/-- Refused bytes: their position, the first of them, their number and the cause. -/
structure Utf8Error where
  position : Nat
  byte : UInt8
  length : Nat
  cause : Utf8Cause
  deriving DecidableEq

/-- Wording of a refusal. -/
def Utf8Error.message (error : Utf8Error) : String :=
  let place :=
    if error.length = 1 then
      "byte 0x" ++ String.ofList (hexDigits 2 error.byte.toNat) ++ " in position " ++
        decimal error.position
    else
      "bytes in position " ++ decimal error.position ++ "-" ++
        decimal (error.position + error.length - 1)
  "\x27utf-8\x27 codec can\x27t decode " ++ place ++ ": " ++ error.cause.message

/-- How a sequence goes on after its first byte: the number of continuation bytes, the bits that the
first byte contributes, and the range of the byte after it. -/
structure Utf8Lead where
  continuations : Nat
  bits : Nat
  low : Nat
  high : Nat

/-- Classify a first byte. -/
def utf8Lead? (byte : UInt8) : Option Utf8Lead :=
  let b := byte.toNat
  if b < 0x80 then some ⟨0, b, 0, 0⟩
  else if b < 0xC2 then none
  else if b < 0xE0 then some ⟨1, b - 0xC0, 0x80, 0xBF⟩
  else if b = 0xE0 then some ⟨2, 0, 0xA0, 0xBF⟩
  else if b = 0xED then some ⟨2, 0xD, 0x80, 0x9F⟩
  else if b < 0xF0 then some ⟨2, b - 0xE0, 0x80, 0xBF⟩
  else if b = 0xF0 then some ⟨3, 0, 0x90, 0xBF⟩
  else if b < 0xF4 then some ⟨3, b - 0xF0, 0x80, 0xBF⟩
  else if b = 0xF4 then some ⟨3, 4, 0x80, 0x8F⟩
  else none

/-- Read continuation bytes, the first of them in a given range and the rest in the full one. The result
is the code point, or the number of bytes that fitted and the cause of the refusal. -/
def continuationBits : (count low high bits : Nat) → List UInt8 → Except (Nat × Utf8Cause) Nat
  | 0, _, _, bits, _ => .ok bits
  | _ + 1, _, _, _, [] => .error (0, .unexpectedEnd)
  | count + 1, low, high, bits, byte :: rest =>
    if low ≤ byte.toNat && byte.toNat ≤ high then
      (continuationBits count 0x80 0xBF (bits * 64 + (byte.toNat - 0x80)) rest).mapError
        fun (fitted, cause) => (fitted + 1, cause)
    else .error (0, .invalidContinuation)

/-- Decode bytes from a position on, dropping the next `skip` bytes of a sequence already read. -/
def decodeUtf8From : (skip position : Nat) → List UInt8 → Except Utf8Error (List Char)
  | _, _, [] => .ok []
  | skip + 1, position, _ :: rest => decodeUtf8From skip (position + 1) rest
  | 0, position, byte :: rest =>
    match utf8Lead? byte with
    | none => .error ⟨position, byte, 1, .invalidStart⟩
    | some lead =>
      match continuationBits lead.continuations lead.low lead.high lead.bits rest with
      | .error (fitted, cause) => .error ⟨position, byte, fitted + 1, cause⟩
      | .ok point =>
        (decodeUtf8From lead.continuations (position + 1) rest).map (Char.ofNat point :: ·)

/-- Decode bytes as UTF-8. -/
def decodeUtf8 (bytes : List UInt8) : Except Utf8Error (List Char) := decodeUtf8From 0 0 bytes

/-- Turn the line ends of other conventions into single line feeds. -/
def unifyLineEnds : List Char → List Char
  | '\r' :: '\n' :: rest => '\n' :: unifyLineEnds rest
  | '\r' :: rest => '\n' :: unifyLineEnds rest
  | c :: rest => c :: unifyLineEnds rest
  | [] => []

end ServiceTopology.Text
