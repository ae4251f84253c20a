import SendMeter.Text.LetterCase
import SendMeter.Yaml.Scalar.Base64
import SendMeter.Yaml.Tag

namespace SendMeter.Yaml

/-- A number without its underscores: whether it is negative, and what stands behind its sign. -/
def signedDigits (ps : List Text.Point) : Except Fault (Bool × List Text.Point) :=
  match ps.filter (· ≠ .char '_') with
  | [] => .error .emptyNumber
  | .char '-' :: digits => .ok (true, digits)
  | .char '+' :: digits => .ok (false, digits)
  | digits => .ok (false, digits)

/-- The parts of a number that counts in sixties, if it is one. -/
def sixtieths? (digits : List Text.Point) : Option (List (List Text.Point)) :=
  if digits.contains (.char ':') then some (Text.splitOn (· = .char ':') digits) else none

def integer (base : Nat) (ps : List Text.Point) : Except Fault Int :=
  (Numeral.readInteger base (ps.map Text.Point.charOrReplacement)).mapError (.integer base ps)

/-- The value of parts, each of which counts sixty of the next one. -/
def sixtiethsValue (parts : List Int) : Int :=
  parts.foldl (fun value part => value * 60 + part) 0

/-- A whole number; a zero in front of its digits makes them octal. -/
def intOfText (ps : List Text.Point) : Except Fault Int := do
  let (negative, digits) ← signedDigits ps
  let size ← match digits with
    | [] => .error .emptyNumber
    | [.char '0'] => .ok 0
    | .char '0' :: .char 'b' :: rest => integer 2 rest
    | .char '0' :: .char 'x' :: rest => integer 16 rest
    | .char '0' :: _ => integer 8 digits
    | _ =>
      match sixtieths? digits with
      | some parts => (parts.mapM (integer 10)).map sixtiethsValue
      | none => integer 10 digits
  return if negative then -size else size

def real (ps : List Text.Point) : Except Fault Float :=
  match Numeral.readReal? (ps.map Text.Point.charOrReplacement) with
  | some x => .ok x
  | none => .error (.real ps)

/-- A sum with one more part in front, which counts a number of the last part, and what the part
in front of that one counts. -/
def addSixtieth (sum : Float × Int) (part : Float) : Except Fault (Float × Int) :=
  match (Scalar.ofInt sum.2 : Except ArithmeticError Float) with
  | .error e => .error (.arithmetic e)
  | .ok base => .ok (sum.1 + part * base, sum.2 * 60)

/-- The sum of parts, each of which counts sixty of the next one. The last part is added first. -/
def sixtiethsSum (parts : List Float) : Except Fault Float :=
  (parts.reverse.foldlM addSixtieth ((0 : Float), (1 : Int))).map (·.1)

def lower (ps : List Text.Point) : List Text.Point :=
  Text.mapRuns Text.lower [] ps

def nanName : List Text.Point := Text.stringPoints ".nan"

def floatOfText (ps : List Text.Point) : Except Fault Float := do
  let (negative, digits) ← signedDigits (lower ps)
  let size ←
    if digits = Text.stringPoints ".inf" then .ok (1 / 0)
    else if digits = nanName then .ok (0 / 0)
    else match sixtieths? digits with
      | some parts => (parts.mapM real).bind sixtiethsSum
      | none => real digits
  return if negative then -size else size

/-- A float as a value at a place. What is not a number by its name is the same in all places. -/
def floatValue (place : Nat) (ps : List Text.Point) (x : Float) : Value :=
  if !x.isNaN then .float x
  else match signedDigits (lower ps) with
    | .ok (_, digits) => .nan (if digits = nanName then 0 else place + 1)
    | .error _ => .nan (place + 1)

def truthOfText (ps : List Text.Point) : Except Fault Bool :=
  let word := lower ps
  match truthWords.find? fun entry => Text.stringPoints entry.1 = word with
  | some entry => .ok entry.2
  | none => .error (.truth word)

def bytesOfText (cs : List Char) : Except Fault (List UInt8) :=
  if cs.all fun c => c.toNat < 128 then
    match base64? cs with
    | some bytes => .ok bytes
    | none => .error .unreadable
  else .error .unreadable

def momentOfText (cs : List Char) : Except Fault Value :=
  match MomentText.read? (withoutFinalBreak cs) with
  | none => .error .notMoment
  | some m => m.value.mapError .calendar

/-- The value of a scalar at a place, under a tag that stands for single values. -/
def scalarValue (tag : Tag) (place : Nat) (ps : List Text.Point) : Except Fault Value :=
  match tag with
  | .null => .ok .null
  | .bool => (truthOfText ps).map .bool
  | .int => (intOfText ps).map .int
  | .float => (floatOfText ps).map (floatValue place ps)
  | .bytes => (bytesOfText (ps.map Text.Point.charOrReplacement)).map .bytes
  | .moment => momentOfText (ps.map Text.Point.charOrReplacement)
  | .text => .ok (.ofPoints ps)
  | _ => .error .unreadable

end SendMeter.Yaml
