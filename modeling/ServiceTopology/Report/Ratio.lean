import ServiceTopology.Number.Double
import ServiceTopology.Report.Printed

/-!
# Printing ratios

A whole ratio is printed as an integer. Any other ratio is rounded to the double format and the result to
hundredths, a tie going to the even hundredth; it is printed with two decimals and keeps its sign even
when nothing but zeros is left.

The two roundings are composed on purpose: the decimals printed are those of the nearest double.
-/

namespace ServiceTopology

/-- Round a magnitude to hundredths. -/
def hundredths (magnitude : Rat) : Nat :=
  Number.roundQuotient (magnitude.num.natAbs * 100) magnitude.den

/-- Print a number of hundredths with two decimals. -/
def twoDecimals (count : Nat) : List Char :=
  Text.natDigits (count / 100) ++
    ['.', Nat.digitChar (count % 100 / 10), Nat.digitChar (count % 10)]

/-- Print a ratio. -/
def printRatio (q : Rat) : Except PrintFault (List Char) :=
  if q.den = 1 then printInteger q.num
  else
    match Double.nearest? q with
    | none => .error .ratioTooLarge
    | some nearest =>
      let sign := if q < 0 then ['-'] else []
      .ok (sign ++ twoDecimals (hundredths nearest))

end ServiceTopology
