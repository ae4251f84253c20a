import SendMeter.Text.Digit

namespace SendMeter.Text

inductive Utf8Reason where
  | invalidStart
  | invalidContinuation
  | unexpectedEnd
deriving DecidableEq, Repr

def Utf8Reason.message : Utf8Reason → String
  | .invalidStart => "invalid start byte"
  | .invalidContinuation => "invalid continuation byte"
  | .unexpectedEnd => "unexpected end of data"

/-- A fault in `length` bytes from a position on, the first of which is `byte`. -/
structure Utf8Fault where
  position : Nat
  length : Nat
  byte : UInt8
  reason : Utf8Reason
deriving DecidableEq, Repr

def Utf8Fault.message (f : Utf8Fault) : String :=
  let extent :=
    if f.length = 1 then
      "byte 0x" ++ String.ofList (hexDigits 2 f.byte.toNat) ++ s!" in position {f.position}"
    else s!"bytes in position {f.position}-{f.position + f.length - 1}"
  "'utf-8' codec can't decode " ++ extent ++ ": " ++ f.reason.message

namespace Utf8

/-- The number of bytes that a first byte announces. -/
def announced (first : UInt8) : Option Nat :=
  if first < 0x80 then some 1
  else if first < 0xC2 then none
  else if first < 0xE0 then some 2
  else if first < 0xF0 then some 3
  else if first < 0xF5 then some 4
  else none

/-- The second byte keeps its character in the range that its number of bytes is for, and out of the
surrogates. -/
def secondFits (first second : UInt8) : Bool :=
  0x80 ≤ second && second < 0xC0 &&
    (first != 0xE0 || 0xA0 ≤ second) && (first != 0xED || second < 0xA0) &&
    (first != 0xF0 || 0x90 ≤ second) && (first != 0xF4 || second < 0x90)

def continues (b : UInt8) : Bool :=
  0x80 ≤ b && b < 0xC0

/-- How many of the bytes behind a first byte belong to its character. -/
def fitting (first : UInt8) (behind : List UInt8) : Nat :=
  match behind with
  | [] => 0
  | second :: rest =>
    if secondFits first second then 1 + (rest.takeWhile continues).length else 0

def codePoint (first : UInt8) (behind : List UInt8) : Nat :=
  let lead := match behind.length with
    | 0 => first.toNat
    | 1 => first.toNat % 32
    | 2 => first.toNat % 16
    | _ => first.toNat % 8
  behind.foldl (fun value b => value * 64 + b.toNat % 64) lead

/-- What stands at the start of some bytes. -/
inductive Head where
  | character (c : Char) (size : Nat)
  /-- The bytes are the beginning of a character. -/
  | brokenOff
  | fault (length : Nat) (reason : Utf8Reason)

def head (first : UInt8) (rest : List UInt8) : Head :=
  match announced first with
  | none => .fault 1 .invalidStart
  | some size =>
    let behind := rest.take (size - 1)
    let fits := fitting first behind
    if fits = size - 1 then .character (Char.ofNat (codePoint first behind)) size
    else if fits = behind.length then .brokenOff
    else .fault (fits + 1) .invalidContinuation

/-- Whether a block ends with two bytes that would start a surrogate. No character starts like
that, but the bytes are carried over like the beginning of one. -/
def endsInSurrogate (first : UInt8) (rest : List UInt8) : Bool :=
  match rest with
  | [second] => first == 0xED && 0xA0 ≤ second && continues second
  | _ => false

/-- Characters from the start of a block; at most `fuel` of them. -/
def decodeBlock (last : Bool) : Nat → Nat → List UInt8 → List Char →
    Except Utf8Fault (List Char × List UInt8)
  | 0, _, bytes, done => .ok (done, bytes)
  | _ + 1, _, [], done => .ok (done, [])
  | fuel + 1, position, first :: rest, done =>
    match head first rest with
    | .character c size =>
      decodeBlock last fuel (position + size) (rest.drop (size - 1)) (c :: done)
    | .fault length reason =>
      if !last && endsInSurrogate first rest then .ok (done, first :: rest)
      else .error ⟨position, length, first, reason⟩
    | .brokenOff =>
      if last then .error ⟨position, rest.length + 1, first, .unexpectedEnd⟩
      else .ok (done, first :: rest)

/-- Bytes are read in blocks of this many. -/
def blockSize : Nat := 8192

/-- Text as far as it can be read, and the fault in the block behind it, if there is one. -/
structure Reading where
  text : List Char
  fault : Option Utf8Fault
deriving DecidableEq, Repr

/-- Characters of the blocks that follow a rest of the block before; at most `fuel` blocks. -/
def readBlocks : Nat → List UInt8 → List UInt8 → List Char → Reading
  | 0, _, _, done => ⟨done.reverse, none⟩
  | fuel + 1, pending, bytes, done =>
    let block := pending ++ bytes.take blockSize
    match decodeBlock bytes.isEmpty block.length 0 block done with
    | .error fault => ⟨done.reverse, some fault⟩
    | .ok (done, pending) =>
      if bytes.isEmpty then ⟨done.reverse, none⟩
      else readBlocks fuel pending (bytes.drop blockSize) done

def read (bytes : List UInt8) : Reading :=
  readBlocks (bytes.length / blockSize + 2) [] bytes []

/-- The text that bytes stand for. -/
def decode (bytes : List UInt8) : Except Utf8Fault (List Char) :=
  match read bytes with
  | ⟨_, some fault⟩ => .error fault
  | ⟨text, none⟩ => .ok text

end Utf8

/-- Every line break of a text file as a line feed. -/
def universalBreaks : List Char → List Char
  | [] => []
  | '\r' :: '\n' :: rest => '\n' :: universalBreaks rest
  | '\r' :: rest => '\n' :: universalBreaks rest
  | c :: rest => c :: universalBreaks rest

end SendMeter.Text
