import ServiceTopology.Text.Quoted
import ServiceTopology.Text.Wide

/-!
# Quoted strings in ASCII

Write a text between double quotes with ASCII characters only. Printable ASCII stands for itself,
apart from the double quote and the backslash; five control characters have letters of their own; every
other character is written as one or two UTF-16 code units in lower-case hexadecimal, and so is a surrogate
that stands alone.
-/

namespace ServiceTopology.Json

open ServiceTopology.Text

/-- Escape letter of a character, if it has one. -/
def escapeLetter? (c : Char) : Option Char :=
  if c = '\x22' then some '\x22'
  else if c = '\x5c' then some '\x5c'
  else if c = '\n' then some 'n'
  else if c = '\r' then some 'r'
  else if c = '\t' then some 't'
  else if c = '\x08' then some 'b'
  else if c = '\x0c' then some 'f'
  else none

/-- Write one code unit as an escape. -/
def unitEscape (unit : UInt16) : List Char := '\x5c' :: 'u' :: hexDigits 4 unit.toNat

/-- Write one character of a text. -/
def escapeChar (c : Char) : List Char :=
  match escapeLetter? c with
  | some letter => ['\x5c', letter]
  | none => if 0x20 ≤ c.toNat && c.toNat ≤ 0x7E then [c] else (codeUnits c).flatMap unitEscape

/-- Write one code point of a text. -/
def escapePoint : CodePoint → List Char
  | .char c => escapeChar c
  | .surrogate unit => unitEscape unit

/-- Write a text between double quotes. -/
def quote (text : WideText) : List Char :=
  '\x22' :: (text.codePoints.flatMap escapePoint ++ ['\x22'])

end ServiceTopology.Json
