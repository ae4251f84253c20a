import SendMeter.Decimal.Shortest

namespace SendMeter.Decimal

/-- The choices that the digits of a number leave open. -/
structure Style where
  /-- More digits before the point than this many are written with an exponent. -/
  longest : Int
  /-- This many zeros behind the point are written with an exponent. -/
  smallest : Int
  /-- The least number of digits of an exponent. -/
  exponentDigits : Nat
  notANumber : String
  infinity : String

/-- Numbers in messages, tables and settings: an exponent from 10 ^ 16 on and below 10 ^ -4, of at
least two digits. -/
def plain : Style :=
  { longest := 16, smallest := 4, exponentDigits := 2, notANumber := "nan", infinity := "inf" }

/-- Numbers in a line of statistics. -/
def statistics : Style :=
  { plain with notANumber := "NaN", infinity := "Infinity" }

/-- The digits of a whole number, with zeros in front up to a least number of them. -/
def padded (width n : Nat) : String :=
  let digits := Nat.repr n
  String.ofList (List.replicate (width - digits.length) '0') ++ digits

/-- Digits with the point after the first `before` of them. A whole number keeps one zero behind the
point. -/
def positional (digits : String) (before : Int) : String :=
  match before with
  | .ofNat n =>
    if n = 0 then "0." ++ digits
    else if digits.length ≤ n then
      digits ++ String.ofList (List.replicate (n - digits.length) '0') ++ ".0"
    else String.ofList (digits.toList.take n) ++ "." ++ String.ofList (digits.toList.drop n)
  | .negSucc n => "0." ++ String.ofList (List.replicate (n + 1) '0') ++ digits

/-- Digits with the point after the first of them, and a signed exponent. -/
def scientific (style : Style) (digits : String) (exponent : Int) : String :=
  let rest := digits.toList.drop 1
  String.ofList (digits.toList.take 1) ++
    (if rest.isEmpty then "" else "." ++ String.ofList rest) ++
    (if exponent < 0 then "e-" else "e+") ++ padded style.exponentDigits exponent.natAbs

/-- The text of `digits * 10 ^ scale`. -/
def laidOut (style : Style) (digits : Nat) (scale : Int) : String :=
  let text := Nat.repr digits
  let before := text.length + scale
  if style.longest < before ∨ before ≤ -style.smallest then scientific style text (before - 1)
  else positional text before

/-- The text of a float with the fewest digits that read back. -/
def render (style : Style) (x : Float) : String :=
  match Shape.of x with
  | .notANumber => style.notANumber
  | .infinite negative => (if negative then "-" else "") ++ style.infinity
  | .finite negative mantissa exponent =>
    let sign := if negative then "-" else ""
    if mantissa = 0 then sign ++ "0.0"
    else
      let found := shortest mantissa exponent
      sign ++ laidOut style found.1 found.2

/-- The whole number nearest to a fraction, a half going to the even neighbour. -/
def Fraction.round (f : Fraction) : Nat :=
  let floor := f.numerator / f.denominator
  let twice := 2 * (f.numerator % f.denominator)
  if twice < f.denominator then floor
  else if f.denominator < twice then floor + 1
  else if floor % 2 = 0 then floor
  else floor + 1

/-- The text of a float with a fixed number of decimal places and no exponent. -/
def fixed (places : Nat) (x : Float) : String :=
  match Shape.of x with
  | .notANumber => plain.notANumber
  | .infinite negative => (if negative then "-" else "") ++ plain.infinity
  | .finite negative mantissa exponent =>
    let rounded := ((Fraction.scaled mantissa 2 exponent).shift places).round
    let digits := (padded (places + 1) rounded).toList
    let whole := digits.take (digits.length - places)
    let behind := digits.drop (digits.length - places)
    (if negative then "-" else "") ++ String.ofList whole ++
      (if places = 0 then "" else "." ++ String.ofList behind)

end SendMeter.Decimal
