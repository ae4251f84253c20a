import SendMeter.Text.Digit
import SendMeter.Yaml.Character
import SendMeter.Yaml.Fault

namespace SendMeter.Yaml

/-- How far the gap or the escape goes that is being read. Lists stand in reverse. -/
inductive QuotedMode where
  | text
  | blanks (blanks : List Char)
  | breaks (first : Char) (more : List Char)
  /-- Behind an escaped line break. -/
  | joined (more : List Char)
  | escape
  | code (digits value : Nat)
deriving DecidableEq, Repr

/-- The text that line breaks stand for, in reverse. -/
def foldedBreaks (first : Char) (more : List Char) : List Char :=
  if first ≠ '\n' then more ++ [first] else if more.isEmpty then [' '] else more

namespace QuotedMode

/-- The text that a gap stands for, in reverse. -/
def pending : QuotedMode → List Char
  | blanks bs => bs
  | breaks first more => foldedBreaks first more
  | joined more => more
  | _ => []

def addBlank (c : Char) : QuotedMode → QuotedMode
  | blanks bs => blanks (c :: bs)
  | breaks first more => breaks first more
  | joined more => joined more
  | _ => blanks [c]

def addBreak (c : Char) : QuotedMode → QuotedMode
  | breaks first more => breaks first (breakText c :: more)
  | joined more => joined (breakText c :: more)
  | _ => breaks (breakText c) []

end QuotedMode

/-- The character that an escape of one letter stands for. -/
def escapedLetter? : Char → Option Char
  | '0' => some (Char.ofNat 0)
  | 'a' => some (Char.ofNat 7)
  | 'b' => some (Char.ofNat 8)
  | 't' => some '\t'
  | '\t' => some '\t'
  | 'n' => some '\n'
  | 'v' => some (Char.ofNat 0xB)
  | 'f' => some (Char.ofNat 0xC)
  | 'r' => some '\r'
  | 'e' => some (Char.ofNat 0x1B)
  | ' ' => some ' '
  | '"' => some '"'
  | '\\' => some '\\'
  | '/' => some '/'
  | 'N' => some nextLine
  | '_' => some (Char.ofNat 0xA0)
  | 'L' => some lineSeparator
  | 'P' => some paragraphSeparator
  | _ => none

/-- The number of digits in an escape by code point. -/
def escapedDigits? : Char → Option Nat
  | 'x' => some 2
  | 'u' => some 4
  | 'U' => some 8
  | _ => none

/-- The text up to the closing quote, and what follows the quote. -/
def scanQuoted (double : Bool) (mode : QuotedMode) (done : List Text.Point) :
    List Char → Except Fault (List Text.Point × List Char)
  | [] => .error .unreadable
  | c :: rest =>
    match mode with
    | .escape =>
      match escapedLetter? c, escapedDigits? c with
      | some letter, _ => scanQuoted double .text (.char letter :: done) rest
      | none, some digits => scanQuoted double (.code digits 0) done rest
      | none, none =>
        if isBreak c ∧ !atDocumentMark rest then scanQuoted double (.joined []) done rest
        else .error .unreadable
    | .code digits value =>
      match Text.hexDigit? c with
      | none => .error .unreadable
      | some digit =>
        let value := value * 16 + digit
        if 1 < digits then scanQuoted double (.code (digits - 1) value) done rest
        else match Text.Point.ofCode? value with
          | none => .error .codePoint
          | some p => scanQuoted double .text (p :: done) rest
    | gap =>
      if isBlank c then scanQuoted double (gap.addBlank c) done rest
      else if isBreak c then
        if atDocumentMark rest then .error .unreadable
        else scanQuoted double (gap.addBreak c) done rest
      else
        let done := Text.points gap.pending ++ done
        if double then
          if c = '"' then .ok (done.reverse, rest)
          else if c = '\\' then scanQuoted double .escape done rest
          else scanQuoted double .text (.char c :: done) rest
        else if c = '\'' then
          match rest with
          | '\'' :: rest => scanQuoted double .text (.char '\'' :: done) rest
          | _ => .ok (done.reverse, rest)
        else scanQuoted double .text (.char c :: done) rest

end SendMeter.Yaml
