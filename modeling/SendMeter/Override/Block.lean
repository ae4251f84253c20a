import SendMeter.Override.Number
import SendMeter.Scalar
import SendMeter.Text.Utf8
import SendMeter.Yaml.Value

namespace SendMeter

/-- The settings that a block overrides. -/
structure Override where
  window : Option Int
  periodUnit : Option Float
  averagingPeriod : Option Float

/-- What is wrong with the value under a key. -/
inductive Problem where
  | belowOne
  | notPositive
  | notInteger
  | integerText
  | fractionalPart
  | notFinite
  | integerTooLong
  | notNumber
  | numberText
  | notText
  | unknownKey
deriving DecidableEq, Repr

def Problem.code : Problem → String
  | .belowOne => "greater_than_equal"
  | .notPositive => "greater_than"
  | .notInteger => "int_type"
  | .integerText => "int_parsing"
  | .fractionalPart => "int_from_float"
  | .notFinite => "finite_number"
  | .integerTooLong => "int_parsing_size"
  | .notNumber => "float_type"
  | .numberText => "float_parsing"
  | .notText => "string_unicode"
  | .unknownKey => "extra_forbidden"

def Problem.message : Problem → String
  | .belowOne => "Input should be greater than or equal to 1"
  | .notPositive => "Input should be greater than 0"
  | .notInteger => "Input should be a valid integer"
  | .integerText => "Input should be a valid integer, unable to parse string as an integer"
  | .fractionalPart => "Input should be a valid integer, got a number with a fractional part"
  | .notFinite => "Input should be a finite number"
  | .integerTooLong => "Unable to parse input string as an integer, exceeded maximum size"
  | .notNumber => "Input should be a valid number"
  | .numberText => "Input should be a valid number, unable to parse string as a number"
  | .notText =>
    "Input should be a valid string, unable to parse raw data as a unicode string"
  | .unknownKey => "Extra inputs are not permitted"

/-- What is wrong with a block, and the key under which it is wrong. A key that is no text itself
makes the whole block wrong. -/
structure Issue where
  key : Option String
  problem : Problem
deriving DecidableEq, Repr

namespace Override

def windowKey : String := "window_size"

def periodUnitKey : String := "period_unit"

def averagingPeriodKey : String := "averaging_period"

def keys : List String := [windowKey, periodUnitKey, averagingPeriodKey]

/-- The override that changes nothing. -/
def empty : Override := ⟨none, none, none⟩

/-- The integer that a float is; it has to be below 2 ^ 63 in size. -/
def wholeOfFloat (x : Float) : Except Problem Int :=
  if !x.isFinite then .error .notFinite
  else match (Decimal.Shape.of x).integer? with
    | none => .error .fractionalPart
    | some n => if n.natAbs < Nat.pow 2 63 then .ok n else .error .integerTooLong

def integerOfText (s : String) : Except Problem Int :=
  (wholeOfText s).mapError fun
    | .malformed => .integerText
    | .tooLong => .integerTooLong

/-- The text that bytes stand for. -/
def textOfBytes? (bytes : List UInt8) : Option String :=
  (Text.Utf8.decode bytes).toOption.map String.ofList

/-- The integer that a value stands for. -/
def whole : Yaml.Value → Except Problem Int
  | .bool b => .ok (if b then 1 else 0)
  | .int n => .ok n
  | .float x => wholeOfFloat x
  | .nan _ => .error .notFinite
  | .text s => integerOfText s
  | .nonText _ => .error .notText
  | .bytes b => match textOfBytes? b with
    | some s => integerOfText s
    | none => .error .integerText
  | _ => .error .notInteger

def realOfText (s : String) : Except Problem Float :=
  match realOfText? s with
  | some x => .ok x
  | none => .error .numberText

/-- The float that a value stands for. -/
def real : Yaml.Value → Except Problem Float
  | .bool b => .ok (if b then 1 else 0)
  | .int n => (Scalar.ofInt n).mapError fun _ => .notNumber
  | .float x => .ok x
  | .nan _ => .ok (0 / 0)
  | .text s => realOfText s
  | .nonText _ => .error .notText
  | .bytes b => match textOfBytes? b with
    | some s => realOfText s
    | none => .error .numberText
  | _ => .error .notNumber

/-- A window, absent if it is null. -/
def readWindow : Yaml.Value → Except Problem (Option Int)
  | .null => .ok none
  | value => match whole value with
    | .error problem => .error problem
    | .ok n => if n < 1 then .error .belowOne else .ok (some n)

/-- A period, absent if it is null. What is not a number is not positive. -/
def readPeriod : Yaml.Value → Except Problem (Option Float)
  | .null => .ok none
  | value => match real value with
    | .error problem => .error problem
    | .ok x => if (0 : Float) < x then .ok (some x) else .error .notPositive

/-- The setting under a key, with what is wrong with it. -/
def readSetting {β : Type} (block : List (String × Yaml.Value)) (key : String)
    (read : Yaml.Value → Except Problem (Option β)) : Option β × List Issue :=
  match block.lookup key with
  | none => (none, [])
  | some value => match read value with
    | .ok setting => (setting, [])
    | .error problem => (none, [⟨some key, problem⟩])

def unknownKeys (block : List (String × Yaml.Value)) : List Issue :=
  (block.filter fun entry => !keys.contains entry.1).map fun entry => ⟨some entry.1, .unknownKey⟩

/-- The overrides of a block, or all that is wrong with it. -/
def ofBlock (block : List (String × Yaml.Value)) : Except (List Issue) Override :=
  let window := readSetting block windowKey readWindow
  let periodUnit := readSetting block periodUnitKey readPeriod
  let averagingPeriod := readSetting block averagingPeriodKey readPeriod
  match window.2 ++ periodUnit.2 ++ averagingPeriod.2 ++ unknownKeys block with
  | [] => .ok ⟨window.1, periodUnit.1, averagingPeriod.1⟩
  | issues => .error issues

/-- An entry whose key is a text. -/
def textEntry? : Yaml.Value × Yaml.Value → Option (String × Yaml.Value)
  | (.text key, value) => some (key, value)
  | _ => none

/-- The overrides that entries stand for, whose keys are made of code points. -/
def ofEntries (entries : List (Yaml.Value × Yaml.Value)) : Except (List Issue) Override :=
  match entries.mapM textEntry? with
  | none => .error [⟨none, .notText⟩]
  | some block => ofBlock block

/-- What checks the entries of a block, and the numbers that it takes their values for. -/
class Validator where
  whole : Yaml.Value → Except Problem Int
  real : Yaml.Value → Except Problem Float
  validate : List (Yaml.Value × Yaml.Value) → Except (List Issue) Override

instance : Validator := ⟨whole, real, ofEntries⟩

end Override

/-- The headline of a report on a block. -/
def issuesMessage (issues : List Issue) : String :=
  s!"{issues.length} validation error" ++ (if issues.length = 1 then "" else "s") ++
    " for ChannelSettings"

end SendMeter
