import SendMeter.Text.Quoted

namespace SendMeter.Ini

/-- The header whose options every section falls back to. -/
def defaultHeader : String := "DEFAULT"

/-- An option under a header. -/
structure Entry where
  header : String
  key : String
  value : String
deriving DecidableEq, Repr

/-- Sections and options in the order in which they were written. The default header is no
section. -/
structure Document where
  sections : List String
  entries : List Entry
deriving DecidableEq, Repr

namespace Document

/-- The value under a header itself. -/
def ownValue? (d : Document) (header key : String) : Option String :=
  (d.entries.find? fun entry => entry.header == header && entry.key == key).map (·.value)

/-- The value of an option in a section: its own, or the default one. -/
def value? (d : Document) (header key : String) : Option String :=
  (d.ownValue? header key).or (d.ownValue? defaultHeader key)

def hasSection (d : Document) (header : String) : Bool :=
  d.sections.contains header

end Document

/-- Why a text is no document. Lines are counted from one. -/
inductive Fault where
  | noHeader (number : Nat) (line : String)
  | repeatedHeader (number : Nat) (header : String)
  | repeatedKey (number : Nat) (header key : String)
  | malformed (lines : List (Nat × String))
deriving DecidableEq, Repr

/-- A line number in a column that is two wide. -/
def lineNumber (number : Nat) : String :=
  "[line " ++ (if number < 10 then " " else "") ++ toString number ++ "]"

/-- The message for a fault in the text from a source. -/
def Fault.message (source : String) : Fault → String
  | .noHeader number line =>
    s!"File contains no section headers.\nfile: {source}, line: {number}\n" ++ Text.quoted line
  | .repeatedHeader number header =>
    s!"While reading from {source} {lineNumber number}: section " ++ Text.quoted header ++
      " already exists"
  | .repeatedKey number header key =>
    s!"While reading from {source} {lineNumber number}: option " ++ Text.quoted key ++
      " in section " ++ Text.quoted header ++ " already exists"
  | .malformed lines =>
    s!"Source contains parsing errors: {source}" ++
      String.join (lines.map fun line => "\n\t" ++ lineNumber line.1 ++ ": " ++ Text.quoted line.2)

end SendMeter.Ini
