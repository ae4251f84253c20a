import SendMeter.Ini.Document
import SendMeter.Text.Blank
import SendMeter.Text.LetterCase
import SendMeter.Text.Lines
import SendMeter.Text.Utf8

namespace SendMeter.Ini

/-- What a line says that is neither blank nor a comment nor a continuation. -/
inductive Statement where
  | header (name : List Char)
  | option (key value : List Char)
  | malformed
deriving DecidableEq, Repr

def isDelimiter (c : Char) : Bool :=
  c = '=' || c = ':'

def isCommentMark (c : Char) : Bool :=
  c = '#' || c = ';'

/-- The name between the bracket that opens a line and the last bracket that closes one. -/
def headerName? : List Char → Option (List Char)
  | '[' :: rest =>
    match rest.reverse.dropWhile (· ≠ ']') with
    | _ :: c :: name => some (c :: name).reverse
    | _ => none
  | _ => none

/-- What a line says, without the blanks around it. An option is split at its first delimiter. -/
def Statement.ofLine (content : List Char) : Statement :=
  match headerName? content with
  | some name => .header name
  | none =>
    match content.dropWhile fun c => !isDelimiter c with
    | [] => .malformed
    | _ :: value =>
      let key := content.takeWhile fun c => !isDelimiter c
      .option (Text.lower (Text.trimEnd Text.isMargin key)) (Text.trimStart Text.isMargin value)

/-- An option that may still be continued; its lines stand in reverse. -/
structure OpenEntry where
  header : String
  key : String
  lines : List (List Char)
deriving DecidableEq, Repr

/-- Lines of a value as one text, which does not end with a blank. -/
def joined (lines : List (List Char)) : String :=
  String.ofList (Text.trimEnd Text.isMargin (['\n'].intercalate lines))

def OpenEntry.close (e : OpenEntry) : Entry :=
  { header := e.header, key := e.key, value := joined e.lines.reverse }

/-- What has been read of a text. Lists stand in reverse. -/
structure Draft where
  sections : List String
  entries : List OpenEntry
  header : Option String
  /-- Whether a deeper line continues the value of the last entry. -/
  continues : Bool
  indent : Nat
  malformed : List (Nat × String)
deriving DecidableEq, Repr

namespace Draft

def empty : Draft :=
  { sections := [], entries := [], header := none, continues := false, indent := 0,
    malformed := [] }

/-- One more line of the last value, if it can be continued. -/
def extend (d : Draft) (content : List Char) : Draft :=
  match d.continues, d.entries with
  | true, e :: entries => { d with entries := { e with lines := content :: e.lines } :: entries }
  | _, _ => d

def addHeader (d : Draft) (number : Nat) (name : String) : Except Fault Draft :=
  if d.sections.contains name then .error (.repeatedHeader number name)
  else
    let sections := if name = defaultHeader then d.sections else name :: d.sections
    .ok { d with sections, header := some name, continues := false }

/-- An option with an empty key is malformed, and is known all the same. -/
def addOption (d : Draft) (number : Nat) (line : List Char) (header : String)
    (key value : List Char) : Except Fault Draft :=
  let name := String.ofList key
  if d.entries.any fun e => e.header == header && e.key == name then
    .error (.repeatedKey number header name)
  else
    let malformed :=
      if key.isEmpty then (number, String.ofList line) :: d.malformed else d.malformed
    .ok { d with
      entries := { header, key := name, lines := [value] } :: d.entries
      continues := !key.isEmpty
      malformed }

def addStatement (d : Draft) (number : Nat) (line content : List Char) : Except Fault Draft :=
  match Statement.ofLine content, d.header with
  | .header name, _ => d.addHeader number (String.ofList name)
  | _, none => .error (.noHeader number (String.ofList line))
  | .option key value, some header => d.addOption number line header key value
  | .malformed, some _ => .ok { d with malformed := (number, String.ofList line) :: d.malformed }

/-- The draft after one more line. -/
def addLine (d : Draft) (number : Nat) (line : List Char) : Except Fault Draft :=
  match Text.trim Text.isMargin line with
  | [] => .ok (d.extend [])
  | c :: rest =>
    let indent := (line.takeWhile Text.isMargin).length
    if isCommentMark c then .ok d
    else if d.continues ∧ d.indent < indent then .ok (d.extend (c :: rest))
    else { d with indent }.addStatement number line (c :: rest)

/-- The draft after lines that are counted from a number on. -/
def addLines (d : Draft) (number : Nat) : List (List Char) → Except Fault Draft
  | [] => .ok d
  | line :: lines => (d.addLine number line).bind fun d => d.addLines (number + 1) lines

/-- The document, if every line said something. -/
def finish (d : Draft) : Except Fault Document :=
  match d.malformed with
  | [] => .ok { sections := d.sections.reverse, entries := d.entries.reverse.map OpenEntry.close }
  | lines => .error (.malformed lines.reverse)

end Draft

/-- The fault that stops the reading of a text whose end cannot be read: only its whole lines are,
and a carriage return at its end might be part of a line break that goes on. -/
def Draft.stop? (cs : List Char) : Option Fault :=
  let cs := if cs.getLast? = some '\r' then cs.dropLast else cs
  match Draft.empty.addLines 1 (Text.wholeLines (Text.universalBreaks cs)) with
  | .error fault => some fault
  | .ok _ => none

/-- The document that a text holds. -/
def Document.ofText (cs : List Char) : Except Fault Document :=
  (Draft.empty.addLines 1 (Text.lines cs)).bind Draft.finish

end SendMeter.Ini
