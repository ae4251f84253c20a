import SendMeter.Decimal.Layout
import SendMeter.Text.Quoted

namespace SendMeter

inductive Json where
  | null
  | bool (b : Bool)
  | int (n : Int)
  | float (x : Float)
  | text (s : String)
  | list (items : List Json)
  | object (fields : List (String × Json))
  deriving Inhabited

namespace Json

/-- The code units of a character: two of them beyond the first plane. -/
def codeUnits (c : Char) : List Nat :=
  let n := c.toNat
  if n < 0x10000 then [n]
  else [0xD800 + (n - 0x10000) / 0x400, 0xDC00 + (n - 0x10000) % 0x400]

/-- One character of a text: quotes, backslashes and all that is not printable ASCII is escaped. -/
def escaped (c : Char) : List Char :=
  if c = '"' then ['\\', '"']
  else if c = '\\' then ['\\', '\\']
  else if c = '\n' then ['\\', 'n']
  else if c = '\r' then ['\\', 'r']
  else if c = '\t' then ['\\', 't']
  else if c = Char.ofNat 12 then ['\\', 'f']
  else if c = Char.ofNat 8 then ['\\', 'b']
  else if 32 ≤ c.toNat && c.toNat ≤ 126 then [c]
  else (codeUnits c).flatMap fun unit => '\\' :: 'u' :: Text.hexDigits 4 unit

def quote (s : String) : String :=
  String.ofList ('"' :: s.toList.flatMap escaped ++ ['"'])

mutual

/-- The value on one line. -/
def render : Json → String
  | null => "null"
  | bool b => if b then "true" else "false"
  | int n => toString n
  | float x => Decimal.render Decimal.statistics x
  | text s => quote s
  | list items => "[" ++ ", ".intercalate (renderItems items) ++ "]"
  | object fields => "\x7b" ++ ", ".intercalate (renderFields fields) ++ "\x7d"

def renderItems : List Json → List String
  | [] => []
  | item :: items => item.render :: renderItems items

def renderFields : List (String × Json) → List String
  | [] => []
  | (key, value) :: fields => (quote key ++ ": " ++ value.render) :: renderFields fields

end

mutual

/-- The value as messages show it: texts in quotes, and names for what is absent, true or false. -/
def display : Json → String
  | null => "None"
  | bool b => if b then "True" else "False"
  | int n => toString n
  | float x => Decimal.render Decimal.plain x
  | text s => Text.quoted s
  | list items => "[" ++ ", ".intercalate (displayItems items) ++ "]"
  | object fields => "\x7b" ++ ", ".intercalate (displayFields fields) ++ "\x7d"

def displayItems : List Json → List String
  | [] => []
  | item :: items => item.display :: displayItems items

def displayFields : List (String × Json) → List String
  | [] => []
  | (key, value) :: fields =>
    (Text.quoted key ++ ": " ++ value.display) :: displayFields fields

end

/-- What a message says that consists of the value: a text stands without quotes, and what is
absent is not mentioned. -/
def message : Json → String
  | null => ""
  | text s => s
  | j => j.display

/-- Fields with a value put under a key: in the place of the key if it is there, at the end if
not. -/
def put (fields : List (String × Json)) (key : String) (value : Json) : List (String × Json) :=
  if fields.any (·.1 == key) then
    fields.map fun field => if field.1 == key then (key, value) else field
  else fields ++ [(key, value)]

/-- Fields with all fields of a second list put into them. -/
def merge (fields more : List (String × Json)) : List (String × Json) :=
  more.foldl (fun merged field => put merged field.1 field.2) fields

end Json

end SendMeter
