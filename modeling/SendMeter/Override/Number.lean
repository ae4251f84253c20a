import SendMeter.Numeral.Real

namespace SendMeter.Override

inductive WholeFault where
  | malformed
  | tooLong
deriving DecidableEq, Repr

/-- Single underscores, none of them at an end. -/
def underscoresInside (cs : List Char) : Bool :=
  cs.contains '_' && cs.head? != some '_' && cs.getLast? != some '_' &&
    !(cs.zip (cs.drop 1)).contains ('_', '_')

/-- Digits without zeros in front, among which underscores may stand behind the first zero. The
last of them is kept if nothing but a point follows. -/
def withoutLeadingZeros : List Char → List Char
  | '0' :: cs =>
    let fills (c : Char) : Bool := c = '0' || c = '_'
    let rest := cs.dropWhile fills
    if rest.head?.all (· = '.') then
      ((cs.takeWhile fills).getLast?.getD '0') :: rest
    else rest
  | cs => cs

/-- The digits of a whole number without the zeros behind its point. A point without zeros behind it
stays. -/
def withoutZeros (cs : List Char) : List Char :=
  let behind := (cs.dropWhile (· ≠ '.')).drop 1
  if behind.isEmpty || !behind.all (· = '0') then cs else cs.takeWhile (· ≠ '.')

def withoutUnderscores (cs : List Char) : List Char :=
  if underscoresInside cs then cs.filter (· ≠ '_') else cs

/-- Whether a minus sign stands in front, and the text behind it. -/
def splitMinus : List Char → Bool × List Char
  | '-' :: cs => (true, cs)
  | cs => (false, cs)

/-- The number in digits without zeros in front, with or without a minus sign. -/
def bareWhole? (cs : List Char) : Option Int :=
  let (negative, digits) := splitMinus cs
  let isLong := digits.head? = some '0' && 1 < digits.length || Numeral.digitLimit < digits.length
  if digits.isEmpty || !digits.all Text.isAsciiDigit || isLong then none
  else
    let value := Numeral.valueOfDigits 10 (digits.filterMap Text.asciiDigit?)
    some (if negative then -(value : Int) else value)

/-- Whether a text starts with more digits than are read, the first of them not a zero. -/
def startsTooLong (cs : List Char) : Bool :=
  let digits := (splitMinus cs).2.takeWhile Text.isAsciiDigit
  digits.head? != some '0' && Numeral.digitLimit < digits.length

/-- A whole number with everything taken off that may stand around its digits. What is not a digit
in the first place is left to be refused. -/
def bared (cs : List Char) : List Char :=
  let (negative, digits) := Numeral.splitSign (Text.trim Text.isBlank cs)
  let digits :=
    if digits.head?.any Text.isAsciiDigit then
      withoutUnderscores (withoutZeros (withoutLeadingZeros digits))
    else []
  if negative then '-' :: digits else digits

/-- The whole number that a text stands for. Only a number that is written without anything around
it is too long; otherwise too many digits are no number. -/
def wholeOfText (s : String) : Except WholeFault Int :=
  if startsTooLong s.toList then .error .tooLong
  else match bareWhole? (bared s.toList) with
    | some n => .ok n
    | none => .error .malformed

/-- The float that a text stands for. Underscores are ignored where no blanks surround the number.
-/
def realOfText? (s : String) : Option Float :=
  match Numeral.realOfAscii? (Text.trim Text.isBlank s.toList) with
  | some x => some x
  | none =>
    if underscoresInside s.toList then Numeral.realOfAscii? (s.toList.filter (· ≠ '_')) else none

end SendMeter.Override
