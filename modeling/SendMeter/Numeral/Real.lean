import SendMeter.Numeral.Integer

namespace SendMeter.Numeral

/-- The text of a number, taken apart: the digits `values` stand for a whole number, times
`10 ^ scale`. -/
inductive RealText where
  | notANumber
  | infinity
  | digits (values : List Nat) (scale : Int)

/-- Magnitudes beyond these exponents overflow, or vanish, whatever the digits are. -/
def overflowMagnitude : Int := 310

def underflowMagnitude : Int := -330

/-- The float nearest to a number; too large a number is infinite. -/
def RealText.value : RealText → Float
  | .notANumber => 0 / 0
  | .infinity => 1 / 0
  | .digits ds scale =>
    let significant := ds.dropWhile (· = 0)
    let magnitude := significant.length + scale
    if significant.isEmpty ∨ magnitude < underflowMagnitude then 0
    else if overflowMagnitude < magnitude then 1 / 0
    else Float.ofScientific (valueOfDigits 10 significant) (scale < 0) scale.natAbs

/-- The digits that a text begins with, and the text behind them. -/
def spanDigits (cs : List Char) : List Nat × List Char :=
  ((cs.takeWhile Text.isAsciiDigit).filterMap Text.asciiDigit?, cs.dropWhile Text.isAsciiDigit)

/-- The exponent that a text consists of: nothing, or a mark, a sign and digits. -/
def exponent? : List Char → Option Int
  | [] => some 0
  | mark :: cs =>
    if mark = 'e' || mark = 'E' then
      let signed := splitSign cs
      let span := spanDigits signed.2
      if span.1.isEmpty || !span.2.isEmpty then none
      else
        let value := valueOfDigits 10 span.1
        some (if signed.1 then -(value : Int) else value)
    else none

/-- Digits with at most one point, and an exponent. -/
def decimal? (cs : List Char) : Option RealText :=
  let whole := spanDigits cs
  let behind := match whole.2 with
    | '.' :: rest => spanDigits rest
    | rest => ([], rest)
  if whole.1.isEmpty && behind.1.isEmpty then none
  else (exponent? behind.2).map fun exponent =>
    .digits (whole.1 ++ behind.1) (exponent - behind.1.length)

def unsigned? (cs : List Char) : Option RealText :=
  let name := String.ofList (cs.map Char.toLower)
  if name = "nan" then some .notANumber
  else if name = "inf" || name = "infinity" then some .infinity
  else decimal? cs

/-- The float that an ASCII text without blanks stands for. -/
def realOfAscii? (cs : List Char) : Option Float :=
  let signed := splitSign cs
  (unsigned? signed.2).map fun real => if signed.1 then -real.value else real.value

/-- Every underscore stands between two digits. -/
def underscoresInDigits (before : Bool) : List Char → Bool
  | [] => true
  | '_' :: rest => before && (rest.head?.any Text.isAsciiDigit) && underscoresInDigits false rest
  | c :: rest => underscoresInDigits (Text.isAsciiDigit c) rest

/-- The float that a text stands for: blanks around it, digits of any script, and single underscores
between digits are ignored. -/
def readReal? (cs : List Char) : Option Float :=
  let cs := Text.trim Text.isBlank (toAscii cs)
  if underscoresInDigits false cs then realOfAscii? (cs.filter (· ≠ '_')) else none

/-- The message for a text in quotes that is no number. -/
def realFaultMessage (quoted : List Char) : String :=
  "could not convert string to float: " ++ String.ofList quoted

end SendMeter.Numeral
