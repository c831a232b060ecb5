/-!
# Decimal digits

Naturals and integers as decimal digits, and the longest run of digits that is converted in either
direction. The printing here is unlimited; callers that obey the limit ask `Writable` first.

Reading a run of digits undoes printing it, for every natural number.
-/

namespace ServiceTopology.Text

/-- Longest run of decimal digits that is converted to or from an integer. -/
def digitLimit : Nat := 4300

/-- Print a natural number. -/
def natDigits (n : Nat) : List Char := Nat.toDigits 10 n

/-- Print an integer, with a sign only when it is negative. -/
def intDigits : Int → List Char
  | .ofNat n => natDigits n
  | .negSucc n => '-' :: natDigits (n + 1)

/-- Print an integer as a string. -/
def decimal (n : Int) : String := String.ofList (intDigits n)

/-- Read a run of ASCII digits. -/
def digitsValue (digits : List Char) : Nat := Nat.ofDigitChars 10 digits 0

/-- Reading the printed digits gives the number back. -/
theorem digitsValue_natDigits (n : Nat) : digitsValue (natDigits n) = n :=
  Nat.ofDigitChars_toDigits (by decide) (by decide)

/-- An integer is writable when its digits stay within the limit. -/
def Writable (n : Int) : Prop := n.natAbs < Nat.pow 10 digitLimit

instance (n : Int) : Decidable (Writable n) := inferInstanceAs (Decidable (_ < _))

/-- Value of a Unicode decimal digit, for the runs of ten that start at the listed code points. -/
def decimalDigitStarts : List Nat :=
  [0x30, 0x660, 0x6F0, 0x7C0, 0x966, 0x9E6, 0xA66, 0xAE6, 0xB66, 0xBE6, 0xC66, 0xCE6, 0xD66,
   0xDE6, 0xE50, 0xED0, 0xF20, 0x1040, 0x1090, 0x17E0, 0x1810, 0x1946, 0x19D0, 0x1A80, 0x1A90,
   0x1B50, 0x1BB0, 0x1C40, 0x1C50, 0xA620, 0xA8D0, 0xA900, 0xA9D0, 0xA9F0, 0xAA50, 0xABF0,
   0xFF10, 0x104A0, 0x10D30, 0x11066, 0x110F0, 0x11136, 0x111D0, 0x112F0, 0x11450, 0x114D0,
   0x11650, 0x116C0, 0x11730, 0x118E0, 0x11950, 0x11C50, 0x11D50, 0x11DA0, 0x16A60, 0x16AC0,
   0x16B50, 0x1D7CE, 0x1D7D8, 0x1D7E2, 0x1D7EC, 0x1D7F6, 0x1E140, 0x1E2F0, 0x1E950, 0x1FBF0]

/-- Give the ASCII digit of the same value as a Unicode decimal digit. -/
def asciiDigit? (c : Char) : Option Char :=
  (decimalDigitStarts.find? fun start => start ≤ c.toNat && c.toNat < start + 10).map fun start =>
    Char.ofNat (0x30 + (c.toNat - start))

end ServiceTopology.Text
