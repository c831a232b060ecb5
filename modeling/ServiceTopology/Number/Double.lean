import ServiceTopology.Number.Rounding

/-!
# The double format

Numbers of the 64-bit binary floating-point format, as exact values. A finite number is a rational of the
form `m * 2 ^ e` with `m` below `2 ^ 53` and `e` at least `-1074`; the type does not enforce the form, the
rounding functions produce it.

Rounding goes to the nearest number of the format, a tie to the even significand. A magnitude that rounds
to `2 ^ 1024` or beyond has no finite number.
-/

namespace ServiceTopology

/-- A value of the double format. -/
inductive Double where
  | finite (value : Rat)
  | negativeZero
  | infinite (negative : Bool)
  | notANumber
  deriving DecidableEq

namespace Double

/-- Exponent of the largest power of two that a positive quotient reaches. -/
def binade (n d : Nat) : Int :=
  let k : Int := n.log2 - d.log2
  if n * Nat.pow 2 (-k).toNat < d * Nat.pow 2 k.toNat then k - 1 else k

/-- Exponent of the spacing of the format at a positive quotient. -/
def spacing (n d : Nat) : Int := max (binade n d - 52) (-1074)

/-- Number of spacings, rounded, in a positive quotient. -/
def significand (n d : Nat) : Nat :=
  let e := spacing n d
  Number.roundQuotient (n * Nat.pow 2 (-e).toNat) (d * Nat.pow 2 e.toNat)

/-- Round a non-negative quotient to the format, giving nothing when it is too large. -/
def nearestMagnitude? (n d : Nat) : Option Rat :=
  let e := spacing n d
  let m := significand n d * Nat.pow 2 e.toNat
  if m < Nat.pow 2 1024 then some (mkRat m (Nat.pow 2 (-e).toNat)) else none

/-- Round a rational to the format, giving nothing when it is too large. -/
def nearest? (x : Rat) : Option Rat :=
  (nearestMagnitude? x.num.natAbs x.den).map fun magnitude => if x < 0 then -magnitude else magnitude

/-- Give a magnitude of the format a sign. -/
def withSign (negative : Bool) (magnitude : Rat) : Double :=
  if negative then (if magnitude = 0 then negativeZero else finite (-magnitude)) else finite magnitude

/-- Read the decimal `digits * 10 ^ exponent`. Magnitudes far outside the format are settled by the
number of digits alone. -/
def ofDecimal (negative : Bool) (digits : Nat) (exponent : Int) : Double :=
  let size : Int := (Nat.toDigits 10 digits).length + exponent
  if digits = 0 ∨ size < -330 then withSign negative 0
  else if 320 < size then infinite negative
  else
    match nearestMagnitude? (digits * Nat.pow 10 exponent.toNat) (Nat.pow 10 (-exponent).toNat) with
    | some magnitude => withSign negative magnitude
    | none => infinite negative

/-- Exact value of a finite number. -/
def toRat? : Double → Option Rat
  | finite value => some value
  | negativeZero => some 0
  | infinite _ => none
  | notANumber => none

end Double

end ServiceTopology
