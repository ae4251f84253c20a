import SendMeter.Numeral.Sign
import SendMeter.Text.Blank
import SendMeter.Text.Digit
import SendMeter.Text.Quoted

namespace SendMeter.Numeral

/-- Digits of every script as ASCII digits, and blanks outside ASCII as spaces. -/
def toAscii (cs : List Char) : List Char :=
  cs.map fun c =>
    if c.toNat < 127 then c
    else if Text.isBlank c then ' '
    else match Text.decimalDigit? c with
      | some d => Text.hexDigit d
      | none => c

/-- Why a text is no whole number. -/
inductive IntegerFault where
  | malformed
  | tooManyDigits (count : Nat)
deriving DecidableEq, Repr

def digitLimit : Nat := 4300

/-- At most this many characters of a quoted text are shown. -/
def shownLimit : Nat := 200

/-- The message for a text in quotes that was read in a base. -/
def IntegerFault.message (base : Nat) (quoted : List Char) : IntegerFault → String
  | .malformed =>
    s!"invalid literal for int() with base {base}: " ++ String.ofList (quoted.take shownLimit)
  | .tooManyDigits count =>
    s!"Exceeds the limit ({digitLimit} digits) for integer string conversion: " ++
      s!"value has {count} digits; use sys.set_int_max_str_digits() to increase the limit"

/-- The value of digits, the first one being the highest. -/
def valueOfDigits (base : Nat) (digits : List Nat) : Nat :=
  digits.foldl (fun value digit => base * value + digit) 0

def digitIn? (base : Nat) (c : Char) : Option Nat :=
  (Text.asciiDigit? c).filter (· < base)

/-- Underscores stand one at a time and between digits. -/
def underscoresSeparate : List Char → Bool
  | [] => false
  | ['_'] => false
  | [_] => true
  | '_' :: _ => false
  | _ :: '_' :: '_' :: _ => false
  | _ :: '_' :: rest => underscoresSeparate rest
  | _ :: c :: rest => underscoresSeparate (c :: rest)

/-- The letter that may mark digits of a base, behind a zero. -/
def baseMark? : Nat → Option Char
  | 2 => some 'b'
  | 8 => some 'o'
  | 16 => some 'x'
  | _ => none

/-- Digits without the mark of their base. -/
def withoutMark (base : Nat) : List Char → List Char
  | '0' :: c :: rest => if baseMark? base = some c.toLower then rest else '0' :: c :: rest
  | cs => cs

/-- The whole number in a text of ASCII digits. -/
def integerOfAscii (base : Nat) (cs : List Char) : Except IntegerFault Int :=
  let signed := splitSign (Text.trimStart Text.isBlank cs)
  let body := withoutMark base signed.2
  let isDigit c := c = '_' || (digitIn? base c).isSome
  let run := body.takeWhile isDigit
  let rest := body.dropWhile isDigit
  let digits := run.filterMap (digitIn? base)
  if !underscoresSeparate run then .error .malformed
  else if base = 10 ∧ digitLimit < digits.length then .error (.tooManyDigits digits.length)
  else if !rest.all Text.isBlank then .error .malformed
  else
    let value := valueOfDigits base digits
    .ok (if signed.1 then -(value : Int) else value)

/-- The whole number that a text stands for. -/
def readInteger (base : Nat) (cs : List Char) : Except IntegerFault Int :=
  integerOfAscii base (toAscii cs)

end SendMeter.Numeral
