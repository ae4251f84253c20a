namespace SendMeter.Yaml

def nextLine : Char := Char.ofNat 0x85

def lineSeparator : Char := Char.ofNat 0x2028

def paragraphSeparator : Char := Char.ofNat 0x2029

def byteOrderMark : Char := Char.ofNat 0xFEFF

def isBreak (c : Char) : Bool :=
  c = '\n' || c = nextLine || c = lineSeparator || c = paragraphSeparator

/-- What a line break stands for in a value. -/
def breakText (c : Char) : Char :=
  if c = nextLine then '\n' else c

def isBlank (c : Char) : Bool :=
  c = ' ' || c = '\t'

def isSpaceOrBreak (c : Char) : Bool :=
  c = ' ' || isBreak c

def isGap (c : Char) : Bool :=
  isBlank c || isBreak c

/-- A word ends here: at a blank, at a line break, or where the text ends. -/
def atGap (cs : List Char) : Bool :=
  cs.head?.all isGap

/-- Like `atGap`, but a tab ends no word. -/
def atSpace (cs : List Char) : Bool :=
  cs.head?.all isSpaceOrBreak

def atLineEnd (cs : List Char) : Bool :=
  cs.head?.all isBreak

/-- A line that starts here ends the document or starts a new one. -/
def atDocumentMark : List Char → Bool
  | '-' :: '-' :: '-' :: rest => atGap rest
  | '.' :: '.' :: '.' :: rest => atGap rest
  | _ => false

/-- Characters that no document holds, in any place. -/
def isForbidden (c : Char) : Bool :=
  let n := c.toNat
  !(n == 9 || n == 10 || n == 13 || (32 ≤ n && n ≤ 126) || n == 0x85 ||
    (0xA0 ≤ n && n ≤ 0xD7FF) || (0xE000 ≤ n && n ≤ 0xFFFD) || 0x10000 ≤ n)

def isWordChar (c : Char) : Bool :=
  c.isAlphanum || c = '-' || c = '_'

def isUriChar (c : Char) : Bool :=
  c.isAlphanum || "-;/?:@&=+$,_.!~*'()[]".toList.contains c

/-- What may follow the name of an anchor, apart from gaps. -/
def endsAnchor (c : Char) : Bool :=
  "?:,]\x7d%@`".toList.contains c

/-- Brackets and marks that have a meaning of their own between brackets. -/
def isFlowMark (c : Char) : Bool :=
  ",[]\x7b\x7d".toList.contains c

/-- Characters that start no plain scalar. -/
def isIndicator (c : Char) : Bool :=
  "-?:,[]\x7b\x7d#&*!|>'\"%@`".toList.contains c

end SendMeter.Yaml
