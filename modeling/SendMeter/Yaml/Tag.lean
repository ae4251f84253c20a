import SendMeter.Numeral.Sign
import SendMeter.Text.Split
import SendMeter.Yaml.Scalar.Moment

namespace SendMeter.Yaml

inductive Tag where
  | null
  | bool
  | int
  | float
  | bytes
  | moment
  | orderedMap
  | pairs
  | set
  | text
  | list
  | map
  /-- A key under which other mappings are merged. -/
  | merge
  /-- A key whose value stands for the whole mapping. -/
  | value
  | unknown
deriving DecidableEq, Repr

namespace Tag

/-- What the names of the known tags start with. -/
def standardStart : String := "tag:yaml.org,2002:"

def ofName (name : String) : Tag :=
  let known := [("null", null), ("bool", bool), ("int", int), ("float", float), ("binary", bytes),
    ("timestamp", moment), ("omap", orderedMap), ("pairs", pairs), ("set", set), ("str", text),
    ("seq", list), ("map", map), ("merge", merge), ("value", value)]
  ((known.find? fun entry => standardStart ++ entry.1 == name).map (·.2)).getD unknown

end Tag

def isDigitOrUnderscore (c : Char) : Bool :=
  c.isDigit || c = '_'

def truthWords : List (String × Bool) :=
  [("yes", true), ("no", false), ("true", true), ("false", false), ("on", true), ("off", false)]

/-- Whether a text is one of some words in lower case, in upper case, or with a capital letter. -/
def isWordOf (words : List String) (cs : List Char) : Bool :=
  let lower := cs.map Char.toLower
  let capital := match lower with
    | [] => []
    | c :: rest => c.toUpper :: rest
  words.contains (String.ofList lower) &&
    (cs == lower || cs == cs.map Char.toUpper || cs == capital)

/-- Parts behind a number that count in sixties. -/
def areSixtieths (parts : List (List Char)) : Bool :=
  !parts.isEmpty && parts.all fun
    | [d] => d.isDigit
    | [ten, d] => '0' ≤ ten && ten ≤ '5' && d.isDigit
    | _ => false

/-- Whether a text reads as a whole number: of base two, eight, sixteen or ten, or of parts in
sixties. -/
def isIntText (cs : List Char) : Bool :=
  match (Numeral.splitSign cs).2 with
  | [] => false
  | ['0'] => true
  | '0' :: 'b' :: rest => !rest.isEmpty && rest.all fun c => c = '0' || c = '1' || c = '_'
  | '0' :: 'x' :: rest => !rest.isEmpty && rest.all fun c => (Text.hexDigit? c).isSome || c = '_'
  | '0' :: rest => rest.all fun c => ('0' ≤ c && c ≤ '7') || c = '_'
  | c :: rest =>
    match Text.splitOn (· = ':') rest with
    | [] => false
    | whole :: parts =>
      c.isDigit && whole.all isDigitOrUnderscore && (parts.isEmpty || areSixtieths parts)

/-- An exponent has a sign. -/
def isExponent : List Char → Bool
  | [] => true
  | e :: sign :: digits =>
    (e = 'e' || e = 'E') && (sign = '+' || sign = '-') && !digits.isEmpty && digits.all Char.isDigit
  | _ => false

/-- The text behind a point. -/
def isFraction (exponentAllowed : Bool) (cs : List Char) : Bool :=
  let behind := cs.dropWhile isDigitOrUnderscore
  if exponentAllowed then isExponent behind else behind.isEmpty

/-- Whether a text reads as a float: it has a point. -/
def isFloatText (cs : List Char) : Bool :=
  let body := (Numeral.splitSign cs).2
  match body with
  | '.' :: rest =>
    ["inf", "Inf", "INF"].contains (String.ofList rest) ||
      (cs == body && (["nan", "NaN", "NAN"].contains (String.ofList rest) ||
        (rest.head?.any Char.isDigit && isFraction true rest)))
  | _ =>
    let whole := body.takeWhile (· ≠ '.')
    match Text.splitOn (· = ':') whole, body.dropWhile (· ≠ '.') with
    | first :: parts, '.' :: rest =>
      first.head?.any Char.isDigit && first.all isDigitOrUnderscore &&
        (if parts.isEmpty then isFraction true rest
          else areSixtieths parts && isFraction false rest)
    | _, _ => false

/-- The tag of a text that is one of the forms of a value. -/
def Tag.ofForm (cs : List Char) : Tag :=
  if isWordOf (truthWords.map (·.1)) cs then .bool
  else if isFloatText cs then .float
  else if isIntText cs then .int
  else if cs = ['<', '<'] then .merge
  else if cs = ['~'] || isWordOf ["null"] cs then .null
  else if (MomentText.read? cs).any MomentText.isPlain then .moment
  else if cs = ['='] then .value
  else if cs = ['!'] || cs = ['&'] || cs = ['*'] then .unknown
  else .text

/-- The tag of a scalar that has to be known from its text. One line break at the end does not
count. -/
def Tag.ofPlain (cs : List Char) : Tag :=
  if cs.isEmpty then .null else .ofForm (withoutFinalBreak cs)

/-- The tag that code points are known to have; with a surrogate they have no form but their own. -/
def Tag.ofPoints (ps : List Text.Point) : Tag :=
  ((Text.characters? ps).map Tag.ofPlain).getD .text

end SendMeter.Yaml
