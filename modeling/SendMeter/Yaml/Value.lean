import SendMeter.Decimal.Layout
import SendMeter.Text.Point

namespace SendMeter.Yaml

structure Date where
  year : Nat
  month : Nat
  day : Nat
deriving DecidableEq, Repr

/-- A date with a time of day; the offset is minutes east of Greenwich. -/
structure Moment where
  date : Date
  hour : Nat
  minute : Nat
  second : Nat
  microsecond : Nat
  offset : Option Int
deriving DecidableEq, Repr

inductive Value where
  | null
  | bool (b : Bool)
  | int (n : Int)
  | float (x : Float)
  /-- Not a number, with the place that it comes from. -/
  | nan (origin : Nat)
  | text (s : String)
  /-- Code points that are no text, for there is a surrogate among them. -/
  | nonText (points : List Text.Point)
  | bytes (bytes : List UInt8)
  | date (d : Date)
  | moment (m : Moment)
  | list (items : List Value)
  | map (entries : List (Value × Value))
  | set (items : List Value)

namespace Date

def isLeap (year : Nat) : Bool :=
  (year % 4 == 0 && year % 100 != 0) || year % 400 == 0

def daysIn (year month : Nat) : Nat :=
  if month = 2 then (if isLeap year then 29 else 28)
  else if month = 4 ∨ month = 6 ∨ month = 9 ∨ month = 11 then 30
  else 31

/-- Days before the first of January of a year. -/
def daysBeforeYear (year : Nat) : Nat :=
  let y := year - 1
  y * 365 + y / 4 - y / 100 + y / 400

/-- Days of the first months of a year. -/
def daysInFirst (year : Nat) : Nat → Nat
  | 0 => 0
  | month + 1 => daysInFirst year month + daysIn year (month + 1)

/-- Days since the day before the first of January of the year one. -/
def dayNumber (d : Date) : Nat :=
  daysBeforeYear d.year + daysInFirst d.year (d.month - 1) + d.day

def render (d : Date) : String :=
  Decimal.padded 4 d.year ++ "-" ++ Decimal.padded 2 d.month ++ "-" ++ Decimal.padded 2 d.day

end Date

namespace Moment

/-- Microseconds on the clock that the moment is given in. -/
def localTime (m : Moment) : Int :=
  ((((m.date.dayNumber : Int) * 24 + m.hour) * 60 + m.minute) * 60 + m.second) * 1000000 +
    m.microsecond

/-- Two moments are the same if both have an offset and they happen at once, or neither has one and
they show the same time. -/
def same (a b : Moment) : Bool :=
  match a.offset, b.offset with
  | some east, some east' =>
    a.localTime - east * 60000000 == b.localTime - east' * 60000000
  | none, none => a.localTime == b.localTime
  | _, _ => false

def renderOffset (minutes : Int) : String :=
  (if minutes < 0 then "-" else "+") ++ Decimal.padded 2 (minutes.natAbs / 60) ++ ":" ++
    Decimal.padded 2 (minutes.natAbs % 60)

def render (m : Moment) : String :=
  m.date.render ++ " " ++ Decimal.padded 2 m.hour ++ ":" ++ Decimal.padded 2 m.minute ++ ":" ++
    Decimal.padded 2 m.second ++
    (if m.microsecond = 0 then "" else "." ++ Decimal.padded 6 m.microsecond) ++
    (m.offset.elim "" renderOffset)

end Moment

namespace Value

/-- The number that a truth value, an integer or a finite float stands for. -/
def number? : Value → Option Rat
  | bool b => some (if b then 1 else 0)
  | int n => some n
  | float x => match Decimal.Shape.of x with
    | .finite negative mantissa exponent =>
      let size := (Decimal.Fraction.scaled mantissa 2 exponent).value
      some (if negative then -size else size)
    | _ => none
  | _ => none

/-- Equality of mapping keys. Numbers are equal across their kinds; what is not a number is the
same key only as itself, from the same place; collections are no keys. -/
def sameKey (a b : Value) : Bool :=
  match a.number?, b.number? with
  | some x, some y => x == y
  | some _, none => false
  | none, some _ => false
  | none, none =>
    match a, b with
    | null, null => true
    | float x, float y => x == y
    | nan origin, nan origin' => origin == origin'
    | text s, text s' => s == s'
    | nonText ps, nonText ps' => ps == ps'
    | bytes b, bytes b' => b == b'
    | date d, date d' => d == d'
    | moment m, moment m' => m.same m'
    | _, _ => false

/-- Whether a value can be the key of a mapping. -/
def isKey : Value → Bool
  | list _ => false
  | map _ => false
  | set _ => false
  | _ => true

/-- Whether a value counts as empty: absent, false, zero, or without content. -/
def isEmpty : Value → Bool
  | null => true
  | bool b => !b
  | int n => n == 0
  | float x => x == 0
  | text s => s.isEmpty
  | bytes b => b.isEmpty
  | list items => items.isEmpty
  | map entries => entries.isEmpty
  | set items => items.isEmpty
  | _ => false

/-- One byte in quotes. -/
def escapedByte (quote : Char) (b : UInt8) : List Char :=
  let c := Char.ofNat b.toNat
  if b.toNat < 127 then Text.escaped quote c
  else '\\' :: 'x' :: Text.hexDigits 2 b.toNat

/-- Bytes in quotes, after a mark. -/
def quotedBytes (bytes : List UInt8) : String :=
  let quote := Text.quoteFor (bytes.map fun b => Char.ofNat b.toNat)
  String.ofList ('b' :: quote :: bytes.flatMap (escapedByte quote) ++ [quote])

def ofPoints (ps : List Text.Point) : Value :=
  ((Text.characters? ps).map fun cs => text (String.ofList cs)).getD (nonText ps)

/-- The text of a key. -/
def keyPoints : Value → List Text.Point
  | null => Text.stringPoints "None"
  | bool b => Text.stringPoints (if b then "True" else "False")
  | int n => Text.stringPoints (toString n)
  | float x => Text.stringPoints (Decimal.render Decimal.plain x)
  | nan _ => Text.stringPoints Decimal.plain.notANumber
  | text s => Text.stringPoints s
  | nonText ps => ps
  | bytes b => Text.stringPoints (quotedBytes b)
  | date d => Text.stringPoints d.render
  | moment m => Text.stringPoints m.render
  | list _ => Text.stringPoints "[]"
  | map _ => Text.stringPoints "\x7b\x7d"
  | set _ => Text.stringPoints "set()"

/-- Entries with a value put under a key: an equal key keeps its place and its own form. -/
def put {β : Type} (entries : List (Value × β)) (key : Value) (value : β) : List (Value × β) :=
  if entries.any fun entry => entry.1.sameKey key then
    entries.map fun entry => if entry.1.sameKey key then (entry.1, value) else entry
  else entries ++ [(key, value)]

/-- The value under a text key. -/
def lookup? (entries : List (Value × Value)) (key : String) : Option Value :=
  (entries.find? fun entry => entry.1.sameKey (text key)).map (·.2)

end Value

end SendMeter.Yaml
