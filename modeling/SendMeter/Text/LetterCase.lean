import SendMeter.Text.CaseClass
import SendMeter.Text.CaseTable

namespace SendMeter.Text

def CaseRun.shift? (runs : List CaseRun) (n : Nat) : Option Char :=
  (runs.find? (·.covers n)).map fun run => Char.ofNat ((n : Int) + run.shift).toNat

def upperLetters (c : Char) : List Char :=
  if c.toNat < 128 then [c.toUpper]
  else match upperExpansions.lookup c.toNat with
    | some letters => letters.map Char.ofNat
    | none => [(CaseRun.shift? upperRuns c.toNat).getD c]

def lowerLetter (c : Char) : Char :=
  if c.toNat < 128 then c.toLower else (CaseRun.shift? lowerRuns c.toNat).getD c

def upper (cs : List Char) : List Char :=
  cs.flatMap upperLetters

def capitalSigma : Char := 'Σ'

/-- The nearest character that is not passed over is a letter with a case. -/
def leadsToCased (cs : List Char) : Bool :=
  (cs.find? fun c => !isPassed c).any isCased

/-- Lower case of one letter. The text before it stands in reverse order. -/
def lowerLetters (before after : List Char) (c : Char) : List Char :=
  if c = 'İ' then ['i', Char.ofNat 0x307]
  else if c = capitalSigma && leadsToCased before && !leadsToCased after then ['ς']
  else [lowerLetter c]

def lowerFrom (before : List Char) : List Char → List Char
  | [] => []
  | c :: cs => lowerLetters before cs c ++ lowerFrom (c :: before) cs

def lower (cs : List Char) : List Char :=
  lowerFrom [] cs

end SendMeter.Text
