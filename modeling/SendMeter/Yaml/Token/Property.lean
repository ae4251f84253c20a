import SendMeter.Text.Digit
import SendMeter.Text.Utf8
import SendMeter.Yaml.Character
import SendMeter.Yaml.Token

namespace SendMeter.Yaml

/-- The name of an anchor or an alias, behind its sign. -/
def scanAnchor (cs : List Char) : Except Fault (String × List Char) :=
  let name := cs.takeWhile isWordChar
  let rest := cs.dropWhile isWordChar
  if name.isEmpty || !(rest.head?.all fun c => isGap c || endsAnchor c) then .error .unreadable
  else .ok (String.ofList name, rest)

/-- The characters of escaped bytes, in front of a text in reverse. -/
def flushBytes (bytes : List UInt8) (done : List Char) : Except Fault (List Char) :=
  match Text.Utf8.decode bytes.reverse with
  | .ok cs => .ok (cs.reverse ++ done)
  | .error _ => .error .unreadable

/-- Part of a tag, and what follows it. A percent sign escapes a byte; the bytes read last are not
yet characters. -/
def scanUri (bytes : List UInt8) (done : List Char) : List Char →
    Except Fault (List Char × List Char)
  | '%' :: high :: low :: rest =>
    match Text.hexDigit? high, Text.hexDigit? low with
    | some h, some l => scanUri (UInt8.ofNat (h * 16 + l) :: bytes) done rest
    | _, _ => .error .unreadable
  | '%' :: _ => .error .unreadable
  | c :: rest =>
    match flushBytes bytes done with
    | .error fault => .error fault
    | .ok done =>
      if isUriChar c then scanUri [] (c :: done) rest else .ok (done.reverse, c :: rest)
  | [] => (flushBytes bytes done).map fun done => (done.reverse, [])

/-- A part of a tag that is not empty. -/
def scanSuffix (cs : List Char) : Except Fault (String × List Char) :=
  match scanUri [] [] cs with
  | .error fault => .error fault
  | .ok ([], _) => .error .unreadable
  | .ok (suffix, rest) => .ok (String.ofList suffix, rest)

/-- A handle behind its first mark: a word, which may be empty, and a second mark. In front of a
space the first mark is a handle by itself. -/
def scanHandle (cs : List Char) : Except Fault (String × List Char) :=
  if cs.head? = some ' ' then .ok ("!", cs)
  else
    match cs.dropWhile isWordChar with
    | '!' :: rest => .ok (String.ofList ('!' :: cs.takeWhile isWordChar ++ ['!']), rest)
    | _ => .error .unreadable

/-- A tag behind its mark. -/
def scanTag (cs : List Char) : Except Fault (TagName × List Char) := do
  let (name, rest) ← (match cs with
    | '<' :: inside => do
      let (suffix, rest) ← scanSuffix inside
      match rest with
      | '>' :: rest => .ok (⟨none, suffix⟩, rest)
      | _ => .error .unreadable
    | _ => do
      if atGap cs then return (⟨none, "!"⟩, cs)
      let (handle, rest) ←
        if (cs.takeWhile (!isSpaceOrBreak ·)).contains '!' then scanHandle cs else .ok ("!", cs)
      let (suffix, rest) ← scanSuffix rest
      return (⟨some handle, suffix⟩, rest) : Except Fault (TagName × List Char))
  if atSpace rest then return (name, rest) else .error .unreadable

def skipSpaces (cs : List Char) : List Char :=
  cs.dropWhile (· = ' ')

/-- A number of a version. -/
def scanVersionNumber (cs : List Char) : Except Fault (Nat × List Char) :=
  let digits := cs.takeWhile Char.isDigit
  if digits.isEmpty then .error .unreadable
  else if Numeral.digitLimit < digits.length then 
    .error (.integer 10 (Text.points digits) (.tooManyDigits digits.length))
  else
    .ok (Numeral.valueOfDigits 10 (digits.filterMap Text.asciiDigit?), cs.dropWhile Char.isDigit)

def scanVersion (cs : List Char) : Except Fault (Directive × List Char) := do
  let (major, rest) ← scanVersionNumber (skipSpaces cs)
  match rest with
  | '.' :: rest =>
    let (_, rest) ← scanVersionNumber rest
    if atSpace rest then return (.version major, rest) else .error .unreadable
  | _ => .error .unreadable

def scanHandleDirective (cs : List Char) : Except Fault (Directive × List Char) := do
  match skipSpaces cs with
  | '!' :: rest =>
    let (handle, rest) ← scanHandle rest
    if rest.head? ≠ some ' ' then throw .unreadable
    let (expansion, rest) ← scanSuffix (skipSpaces rest)
    if atSpace rest then return (.handle handle expansion, rest) else .error .unreadable
  | _ => .error .unreadable

/-- A directive behind its mark, with the break that ends its line. -/
def scanDirective (cs : List Char) : Except Fault (Directive × List Char) := do
  let name := cs.takeWhile isWordChar
  let rest := cs.dropWhile isWordChar
  if name.isEmpty || !atSpace rest then throw .unreadable
  let (directive, rest) ←
    match String.ofList name with
    | "YAML" => scanVersion rest
    | "TAG" => scanHandleDirective rest
    | _ => .ok (.unknown, rest.dropWhile (!isBreak ·))
  let rest := skipSpaces rest
  let rest := if rest.head? = some '#' then rest.dropWhile (!isBreak ·) else rest
  if atLineEnd rest then return (directive, rest.drop 1) else .error .unreadable

end SendMeter.Yaml
