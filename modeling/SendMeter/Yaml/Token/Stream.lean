import SendMeter.Yaml.Token.Block
import SendMeter.Yaml.Token.Plain
import SendMeter.Yaml.Token.Property

namespace SendMeter.Yaml

/-- A place in the text. -/
structure Position where
  index : Nat
  line : Nat
  column : Nat
deriving DecidableEq, Repr

namespace Position

def start : Position := ⟨0, 0, 0⟩

/-- The place behind a character. A byte order mark takes no column. -/
def next (p : Position) (c : Char) : Position :=
  if isBreak c then ⟨p.index + 1, p.line + 1, 0⟩
  else if c = byteOrderMark then { p with index := p.index + 1 }
  else { p with index := p.index + 1, column := p.column + 1 }

def past (p : Position) (cs : List Char) : Position :=
  cs.foldl next p

end Position

/-- A place that may turn out to be the start of a key. -/
structure KeyCandidate where
  /-- The number of tokens in front of it. -/
  token : Nat
  /-- Nothing but a key can stand there. -/
  required : Bool
  position : Position
deriving DecidableEq, Repr

/-- A key reaches no further than this. -/
def keyLimit : Nat := 1024

/-- A key is on one line and is not too long. -/
def KeyCandidate.isStale (k : KeyCandidate) (p : Position) : Bool :=
  k.position.line ≠ p.line || keyLimit < p.index - k.position.index

/-- How far a text has been read. A margin is one more than the column of a block. -/
structure Scanner where
  rest : List Char
  position : Position
  /-- The tokens so far, in reverse, and their number. -/
  tokens : List Token
  count : Nat
  /-- The margin of the block that is open, zero if none is, and those around it. -/
  margin : Nat
  margins : List Nat
  /-- The candidate between the innermost brackets, and those around them. -/
  candidate : Option KeyCandidate
  candidates : List (Option KeyCandidate)
  keyAllowed : Bool
deriving Repr

namespace Scanner

def start (cs : List Char) : Scanner :=
  { rest := cs, position := .start, tokens := [], count := 0, margin := 0, margins := [],
    candidate := none, candidates := [], keyAllowed := true }

/-- Whether the place is between brackets. -/
def inFlow (s : Scanner) : Bool :=
  !s.candidates.isEmpty

def emit (s : Scanner) (t : Token) : Scanner :=
  { s with tokens := t :: s.tokens, count := s.count + 1 }

/-- A token put in front of the one with a number. -/
def insert (s : Scanner) (number : Nat) (t : Token) : Scanner :=
  { s with tokens := s.tokens.insertIdx (s.count - number) t, count := s.count + 1 }

/-- The scanner in front of a rest of its text. -/
def goTo (s : Scanner) (rest : List Char) : Scanner :=
  let read := s.rest.take (s.rest.length - rest.length)
  { s with rest, position := s.position.past read }

/-- Blanks, comments and line breaks in front of a token, left out; at most `fuel` lines. -/
def skipGap : Nat → Scanner → Scanner
  | 0, s => s
  | fuel + 1, s =>
    let spaces := s.rest.dropWhile (· = ' ')
    let rest := if spaces.head? = some '#' then spaces.dropWhile (!isBreak ·) else spaces
    match rest with
    | c :: more =>
      if isBreak c then skipGap fuel { s.goTo more with keyAllowed := s.keyAllowed || !s.inFlow }
      else s.goTo rest
    | [] => s.goTo rest

/-- A candidate that is dropped must not be required. -/
def drop? (k : Option KeyCandidate) (drops : KeyCandidate → Bool) :
    Except Fault (Option KeyCandidate) :=
  match k with
  | none => .ok none
  | some k =>
    if !drops k then .ok (some k)
    else if k.required then .error .unreadable
    else .ok none

def dropStale (s : Scanner) : Except Fault Scanner := do
  let candidate ← drop? s.candidate (·.isStale s.position)
  let candidates ← s.candidates.mapM fun k => drop? k (·.isStale s.position)
  return { s with candidate, candidates }

def dropCandidate (s : Scanner) : Except Fault Scanner := do
  let candidate ← drop? s.candidate fun _ => true
  return { s with candidate }

/-- The place as a candidate, if keys are allowed. -/
def addCandidate (s : Scanner) : Except Fault Scanner := do
  if !s.keyAllowed then return s
  let s ← s.dropCandidate
  let required := !s.inFlow && s.margin == s.position.column + 1
  return { s with candidate := some ⟨s.count, required, s.position⟩ }

/-- Closes the blocks that are indented deeper than a margin. -/
def closeBlocks (s : Scanner) (margin : Nat) : List Nat → Scanner
  | [] => s
  | outer :: margins =>
    if margin < s.margin then
      closeBlocks { s.emit .blockEnd with margin := outer, margins } margin margins
    else s

def unwind (s : Scanner) (margin : Nat) : Scanner :=
  if s.inFlow then s else s.closeBlocks margin s.margins

/-- Opens a block at a column that is indented deeper than the block around it. -/
def openBlock (s : Scanner) (column : Nat) : Option Scanner :=
  if s.margin < column + 1 then
    some { s with margin := column + 1, margins := s.margin :: s.margins }
  else none

/-- Outside of brackets a mark stands only where a key may stand, and opens a block if it is the
first at its column. -/
def markBlock (s : Scanner) (start : Token) : Except Fault Scanner :=
  if s.inFlow then .ok s
  else if !s.keyAllowed then .error .unreadable
  else .ok ((s.openBlock s.position.column).elim s fun opened => opened.emit start)

/-- The scanner behind a mark of some characters. -/
def pass (s : Scanner) (length : Nat) (t : Token) : Scanner :=
  (s.goTo (s.rest.drop length)).emit t

def finish (s : Scanner) : Except Fault Scanner := do
  let s ← (s.unwind 0).dropCandidate
  return { s.emit .streamEnd with keyAllowed := false }

def scanDirectiveToken (s : Scanner) : Except Fault Scanner := do
  let s ← (s.unwind 0).dropCandidate
  let (directive, rest) ← scanDirective s.rest.tail
  return { (s.goTo rest).emit (.directive directive) with keyAllowed := false }

def scanDocumentMark (s : Scanner) (t : Token) : Except Fault Scanner := do
  let s ← (s.unwind 0).dropCandidate
  return { s.pass 3 t with keyAllowed := false }

def openFlow (s : Scanner) (t : Token) : Except Fault Scanner := do
  let s ← s.addCandidate
  return { s.pass 1 t with
    candidate := none, candidates := s.candidate :: s.candidates, keyAllowed := true }

def closeFlow (s : Scanner) (t : Token) : Except Fault Scanner := do
  let s ← s.dropCandidate
  let s := { s.pass 1 t with keyAllowed := false }
  match s.candidates with
  | [] => return s
  | candidate :: candidates => return { s with candidate, candidates }

def scanFlowEntry (s : Scanner) : Except Fault Scanner := do
  let s ← { s with keyAllowed := true }.dropCandidate
  return s.pass 1 .flowEntry

def scanBlockEntry (s : Scanner) : Except Fault Scanner := do
  let s ← s.markBlock .blockSequenceStart
  let s ← { s with keyAllowed := true }.dropCandidate
  return s.pass 1 .blockEntry

def scanKey (s : Scanner) : Except Fault Scanner := do
  let s ← s.markBlock .blockMappingStart
  let s ← { s with keyAllowed := !s.inFlow }.dropCandidate
  return s.pass 1 .key

/-- A colon: it makes a key of the candidate, or follows a key that was marked. -/
def scanValue (s : Scanner) : Except Fault Scanner := do
  match s.candidate with
  | some k =>
    let s := { s with candidate := none, keyAllowed := false }.insert k.token .key
    let opened := if s.inFlow then none else s.openBlock k.position.column
    let s := opened.elim s fun opened => opened.insert k.token .blockMappingStart
    return s.pass 1 .value
  | none =>
    let s ← s.markBlock .blockMappingStart
    return { s.pass 1 .value with keyAllowed := !s.inFlow }

/-- A token that may be a key, or the start of one. -/
def scanNode (s : Scanner) (scan : List Char → Except Fault (Token × List Char)) :
    Except Fault Scanner := do
  let s ← s.addCandidate
  let (token, rest) ← scan s.rest
  return { (s.goTo rest).emit token with keyAllowed := false }

def scanPlainToken (s : Scanner) : Except Fault Scanner := do
  let s ← s.addCandidate
  let scan := scanPlain s.inFlow s.margin .text [] s.rest
  let token := .scalar (Text.points scan.text) true
  return { (s.goTo scan.rest).emit token with keyAllowed := scan.brokeLine }

def scanBlockToken (s : Scanner) (folded : Bool) : Except Fault Scanner := do
  let s ← s.dropCandidate
  let (text, rest) ← scanBlock folded s.margin s.rest.tail
  return { (s.goTo rest).emit (.scalar (Text.points text) false) with keyAllowed := true }

def scanQuotedToken (double : Bool) (cs : List Char) : Except Fault (Token × List Char) := do
  let (text, rest) ← scanQuoted double .text [] cs.tail
  return (.scalar text false, rest)

/-- Whether a character starts a plain scalar: it is no mark, or no mark in this place. -/
def startsPlain (inFlow : Bool) (c : Char) (rest : List Char) : Bool :=
  !(isGap c || isIndicator c) ||
    (!atGap rest && (c = '-' || (!inFlow && (c = '?' || c = ':'))))

/-- The token that starts with a character. -/
def scanToken (s : Scanner) (c : Char) (rest : List Char) : Except Fault Scanner :=
  let first := s.position.column = 0
  let marks := s.inFlow || atGap rest
  if first && c = '%' then s.scanDirectiveToken
  else if first && c = '-' && atDocumentMark s.rest then s.scanDocumentMark .documentStart
  else if first && c = '.' && atDocumentMark s.rest then s.scanDocumentMark .documentEnd
  else match c with
    | '[' => s.openFlow .flowSequenceStart
    | '{' => s.openFlow .flowMappingStart
    | ']' => s.closeFlow .flowSequenceEnd
    | '}' => s.closeFlow .flowMappingEnd
    | ',' => s.scanFlowEntry
    | '*' => s.scanNode fun cs => do
      let (name, rest) ← scanAnchor cs.tail
      return (.alias name, rest)
    | '&' => s.scanNode fun cs => do
      let (name, rest) ← scanAnchor cs.tail
      return (.anchor name, rest)
    | '!' => s.scanNode fun cs => do
      let (name, rest) ← scanTag cs.tail
      return (.tag name, rest)
    | '\'' => s.scanNode (scanQuotedToken false)
    | '"' => s.scanNode (scanQuotedToken true)
    | _ =>
      if c = '-' && atGap rest then s.scanBlockEntry
      else if c = '?' && marks then s.scanKey
      else if c = ':' && marks then s.scanValue
      else if c = '|' && !s.inFlow then s.scanBlockToken false
      else if c = '>' && !s.inFlow then s.scanBlockToken true
      else if startsPlain s.inFlow c rest then s.scanPlainToken
      else .error .unreadable

/-- The scanner behind its next token, and whether that was the last one. -/
def step (s : Scanner) : Except Fault (Scanner × Bool) := do
  let s ← (s.skipGap (s.rest.length + 1)).dropStale
  let s := s.unwind (s.position.column + 1)
  match s.rest with
  | [] => return (← s.finish, true)
  | c :: rest => return (← s.scanToken c rest, false)

/-- How many tokens are settled: all in front of the first place that may still turn out to be a
key. -/
def settled (s : Scanner) : Nat :=
  let undecided := (s.candidate :: s.candidates).filterMap fun k =>
    k.filter fun k => !k.isStale s.position
  (undecided.map (·.token)).foldl min s.count

/-- The settled tokens, and a broken one behind them. -/
def breakOff (s : Scanner) (fault : Fault) : List Token :=
  s.tokens.reverse.take s.settled ++ [.broken fault]

/-- All tokens; at most `fuel` steps. Where the text cannot be read any more, a broken token is
the last one. -/
def run : Nat → Scanner → List Token
  | 0, s => s.breakOff .unreadable
  | fuel + 1, s =>
    match s.step with
    | .error fault => s.breakOff fault
    | .ok (s, last) => if last then s.tokens.reverse else run fuel s

end Scanner

/-- The tokens of a text. A byte order mark in front of it is left out. -/
def Token.ofText (cs : List Char) : List Token :=
  if cs.any isForbidden then [.broken .unreadable]
  else
    let s := Scanner.start cs
    let s := if cs.head? = some byteOrderMark then s.goTo cs.tail else s
    s.run (cs.length + 2)

end SendMeter.Yaml
