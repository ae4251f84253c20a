import SendMeter.Decimal.Dyadic

namespace SendMeter.Decimal

/-- The float `mantissa * 2 ^ exponent` in quarters of its last place, with the ends of the interval
of numbers that are rounded to it. The ends belong to the interval iff the mantissa is even. -/
structure Neighbourhood where
  low : Nat
  middle : Nat
  high : Nat
  unit : Int
  closed : Bool

/-- Below a power of two the floats lie twice as close, so the lower half of the interval is a half
as long; the smallest floats have no closer ones below them. -/
def Neighbourhood.of (mantissa : Nat) (exponent : Int) : Neighbourhood :=
  { low := if mantissa = Nat.pow 2 52 ∧ exponent ≠ -1074 then 4 * mantissa - 1 else 4 * mantissa - 2
    middle := 4 * mantissa
    high := 4 * mantissa + 2
    unit := exponent - 2
    closed := mantissa % 2 == 0 }

/-- A point of a decimal grid, in units of the grid. -/
def Neighbourhood.accepts (n : Neighbourhood) (scale : Int) (point : Nat) : Bool :=
  let low := (Fraction.scaled n.low 2 n.unit).shift (-scale)
  let high := (Fraction.scaled n.high 2 n.unit).shift (-scale)
  let above := low.numerator < point * low.denominator ||
    (n.closed && low.numerator == point * low.denominator)
  let below := point * high.denominator < high.numerator ||
    (n.closed && point * high.denominator == high.numerator)
  above && below

/-- The point of the grid with unit `10 ^ scale` that reads back as the float, if there is one: the
nearer of the two neighbours, and the even one if both are equally near. -/
def Neighbourhood.pointOn? (n : Neighbourhood) (scale : Int) : Option Nat :=
  let middle := (Fraction.scaled n.middle 2 n.unit).shift (-scale)
  let lower := middle.numerator / middle.denominator
  let upper := lower + 1
  match n.accepts scale lower, n.accepts scale upper with
  | false, false => none
  | true, false => some lower
  | false, true => some upper
  | true, true =>
    let toLower := middle.numerator - lower * middle.denominator
    let toUpper := upper * middle.denominator - middle.numerator
    if toLower < toUpper then some lower
    else if toUpper < toLower then some upper
    else if lower % 2 = 0 then some lower
    else some upper

/-- The first grid with a point in the interval, grids getting finer by ten. -/
def Neighbourhood.search (n : Neighbourhood) : Nat → Int → Nat × Int
  | 0, scale => ((n.pointOn? scale).getD 0, scale)
  | finer + 1, scale =>
    match n.pointOn? scale with
    | some point => (point, scale)
    | none => n.search finer (scale - 1)

/-- The number of decimal digits of a whole number, none for zero. -/
def digitCount (n : Nat) : Nat :=
  if n = 0 then 0 else digitCount (n / 10) + 1

/-- The number of digits before the point; for a number below a tenth, minus the number of zeros
that follow the point. -/
def magnitude (f : Fraction) : Int :=
  if f.denominator ≤ f.numerator then digitCount (f.numerator / f.denominator)
  else
    let steps := digitCount (f.denominator / f.numerator)
    if f.denominator ≤ f.numerator * Nat.pow 10 (steps - 1) then 2 - steps else 1 - steps

def stripZeros : Nat → Nat → Int → Nat × Int
  | 0, digits, scale => (digits, scale)
  | fuel + 1, digits, scale =>
    if digits ≠ 0 ∧ digits % 10 = 0 then stripZeros fuel (digits / 10) (scale + 1)
    else (digits, scale)

/-- The shortest digits of a positive float and the power of ten of the last of them. Seventeen
digits are always enough. -/
def shortest (mantissa : Nat) (exponent : Int) : Nat × Int :=
  let first := magnitude (.scaled mantissa 2 exponent) - 1
  let found := (Neighbourhood.of mantissa exponent).search 17 first
  stripZeros 18 found.1 found.2

end SendMeter.Decimal
