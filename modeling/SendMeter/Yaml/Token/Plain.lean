import SendMeter.Yaml.Token.Quoted

namespace SendMeter.Yaml

/-- How far the gap goes that is being read. Lists stand in reverse. -/
inductive PlainMode where
  | text
  | blanks (blanks : List Char)
  | breaks (first : Char) (more : List Char) (column : Nat)
deriving DecidableEq, Repr

namespace PlainMode

/-- The text that a gap stands for, in reverse. -/
def pending : PlainMode → List Char
  | text => []
  | blanks bs => bs
  | breaks first more _ => foldedBreaks first more

def addSpace : PlainMode → PlainMode
  | text => blanks [' ']
  | blanks bs => blanks (' ' :: bs)
  | breaks first more column => breaks first more (column + 1)

def addBreak (c : Char) : PlainMode → PlainMode
  | breaks first more _ => breaks first (breakText c :: more) 0
  | _ => breaks (breakText c) [] 0

/-- Whether the scalar cannot go on behind the gap. -/
def ends (flow : Bool) (margin : Nat) (next : Char) : PlainMode → Bool
  | text => false
  | blanks _ => next = '#'
  | breaks _ _ column => next = '#' || (!flow && column < margin)

def brokeLine : PlainMode → Bool
  | breaks _ _ _ => true
  | _ => false

end PlainMode

/-- Whether a scalar ends in front of a character. -/
def endsPlain (flow : Bool) (c : Char) (rest : List Char) : Bool :=
  isGap c || (c = ':' && (atGap rest || (flow && rest.head?.any isFlowMark))) ||
    (flow && (isFlowMark c || c = '?'))

/-- A scalar, whether a line ends behind it, and what follows. -/
structure PlainScan where
  text : List Char
  brokeLine : Bool
  rest : List Char
deriving DecidableEq, Repr

/-- The scalar up to its end. The margin is the least column of its later lines. -/
def scanPlain (flow : Bool) (margin : Nat) (mode : PlainMode) (done : List Char) :
    List Char → PlainScan
  | [] => ⟨done.reverse, mode.brokeLine, []⟩
  | c :: rest =>
    if c = ' ' then scanPlain flow margin mode.addSpace done rest
    else if isBreak c then
      if atDocumentMark rest then ⟨done.reverse, true, rest⟩
      else scanPlain flow margin (mode.addBreak c) done rest
    else if mode.ends flow margin c || endsPlain flow c rest then
      ⟨done.reverse, mode.brokeLine, c :: rest⟩
    else scanPlain flow margin .text (c :: mode.pending ++ done) rest

end SendMeter.Yaml
