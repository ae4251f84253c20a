import SendMeter.Numeral.Integer
import SendMeter.Yaml.Fault
import SendMeter.Yaml.Value

namespace SendMeter.Yaml

/-- The digits of a time of day. -/
structure TimeText where
  hour : List Char
  minute : List Char
  second : List Char
  fraction : List Char
  /-- Minutes east of Greenwich. -/
  offset : Option Int
deriving DecidableEq, Repr

/-- The digits of a date, with a time of day if there is one. -/
structure MomentText where
  year : List Char
  month : List Char
  day : List Char
  time : Option TimeText
deriving DecidableEq, Repr

/-- Between two numbers of digits, as many as there are, and what follows them. -/
def takeDigits? (least most : Nat) (cs : List Char) : Option (List Char × List Char) :=
  let digits := (cs.take most).takeWhile Char.isDigit
  if digits.length < least then none else some (digits, cs.drop digits.length)

def takeMark? (mark : Char) : List Char → Option (List Char)
  | c :: rest => if c = mark then some rest else none
  | [] => none

def digitsValue (digits : List Char) : Nat :=
  Numeral.valueOfDigits 10 (digits.filterMap Text.asciiDigit?)

/-- A text without the line feed at its end, if there is one. -/
def withoutFinalBreak (cs : List Char) : List Char :=
  if cs.getLast? = some '\n' then cs.dropLast else cs

namespace MomentText

/-- Hours and minutes behind a sign, up to the end. -/
def offsetBehindSign? (east : Bool) (cs : List Char) : Option Int := do
  let (hours, rest) ← takeDigits? 1 2 cs
  let minutes ← match rest with
    | [] => some 0
    | _ => do
      let (minutes, rest) ← takeDigits? 2 2 (← takeMark? ':' rest)
      if rest.isEmpty then some (digitsValue minutes) else none
  let size : Int := digitsValue hours * 60 + minutes
  return if east then size else -size

/-- What follows the seconds: nothing, or an offset. -/
def offset? (cs : List Char) : Option (Option Int) :=
  match cs with
  | [] => some none
  | cs =>
    match cs.dropWhile fun c => c = ' ' || c = '\t' with
    | ['Z'] => some (some 0)
    | '+' :: rest => (offsetBehindSign? true rest).map some
    | '-' :: rest => (offsetBehindSign? false rest).map some
    | _ => none

def time? (cs : List Char) : Option TimeText := do
  let (hour, rest) ← takeDigits? 1 2 cs
  let (minute, rest) ← takeDigits? 2 2 (← takeMark? ':' rest)
  let (second, rest) ← takeDigits? 2 2 (← takeMark? ':' rest)
  let (fraction, rest) := match rest with
    | '.' :: rest => (rest.takeWhile Char.isDigit, rest.dropWhile Char.isDigit)
    | rest => ([], rest)
  let offset ← offset? rest
  return { hour, minute, second, fraction, offset }

/-- A time of day stands behind a letter or behind blanks. -/
def timeBehindDate? : List Char → Option (Option TimeText)
  | [] => some none
  | c :: rest =>
    if c = 'T' || c = 't' then (time? rest).map some
    else if c = ' ' || c = '\t' then
      (time? (rest.dropWhile fun c => c = ' ' || c = '\t')).map some
    else none

/-- A text as a date or a moment. -/
def read? (cs : List Char) : Option MomentText := do
  let (year, rest) ← takeDigits? 4 4 cs
  let (month, rest) ← takeDigits? 1 2 (← takeMark? '-' rest)
  let (day, rest) ← takeDigits? 1 2 (← takeMark? '-' rest)
  let time ← timeBehindDate? rest
  return { year, month, day, time }

/-- Whether a text is a date or a moment without being marked as one: a date has all its digits. -/
def isPlain (m : MomentText) : Bool :=
  m.time.isSome || (m.month.length = 2 && m.day.length = 2)

/-- The first six digits behind the point, as microseconds. -/
def microseconds (fraction : List Char) : Nat :=
  let digits := fraction.take 6
  digitsValue (digits ++ List.replicate (6 - digits.length) '0')

/-- The date, if it is in the calendar. -/
def date (m : MomentText) : Except CalendarFault Date :=
  let year := digitsValue m.year
  let month := digitsValue m.month
  let day := digitsValue m.day
  if year = 0 then .error (.year year)
  else if month < 1 || 12 < month then .error .month
  else if day < 1 || Date.daysIn year month < day then .error .day
  else .ok { year, month, day }

/-- The value that the text stands for, if there is such a date and time. -/
def value (m : MomentText) : Except CalendarFault Value :=
  match m.time with
  | none => m.date.map .date
  | some t =>
    let far := t.offset.filter fun minutes => 1440 ≤ minutes.natAbs
    match far with
    | some minutes => .error (.offset minutes)
    | none => do
      let date ← m.date
      let hour := digitsValue t.hour
      let minute := digitsValue t.minute
      let second := digitsValue t.second
      if 23 < hour then throw .hour
      if 59 < minute then throw .minute
      if 59 < second then throw .second
      return .moment {
        date, hour, minute, second
        microsecond := microseconds t.fraction
        offset := t.offset }

end MomentText

end SendMeter.Yaml
