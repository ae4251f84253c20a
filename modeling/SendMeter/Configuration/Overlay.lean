import SendMeter.Numeral.Integer
import SendMeter.Override.Block
import SendMeter.Settings

namespace SendMeter

/-- Settings with those that a block sets put over them. -/
def Override.applyTo (o : Override) (s : Settings Float) : Settings Float :=
  { window := o.window.getD s.window
    periodUnit := o.periodUnit.getD s.periodUnit
    averagingPeriod := o.averagingPeriod.getD s.averagingPeriod }

namespace Configuration

/-- The overrides for all channels and those for single channels, in the order of the document. A
name in the document need not be a text, and is no name of a channel then. -/
structure Overlay where
  defaults : Override
  channels : List (List Text.Point × Override)

/-- Why a document is no overlay. A place is the path of a block. -/
inductive OverlayFault where
  | notMapping
  | channelsNotMapping
  | blockNotMapping (place : List Text.Point)
  | keyNotText
  | keyTooLong
  | block (place : List Text.Point) (issues : List Issue)
deriving DecidableEq, Repr

namespace OverlayFault

def atPlace (place : List Text.Point) (complaint : String) : List Text.Point :=
  Text.stringPoints "channels.yaml " ++ place ++ Text.stringPoints (": " ++ complaint)

/-- The message for a fault in the document at a path. -/
def message (path : String) : OverlayFault → List Text.Point
  | notMapping => Text.stringPoints s!"{path} must contain a mapping"
  | channelsNotMapping => Text.stringPoints s!"{path}: 'channels' must be a mapping"
  | blockNotMapping place => atPlace place "expected a mapping"
  | keyNotText => Text.stringPoints "keywords must be strings"
  | keyTooLong => Text.stringPoints <|
    s!"Exceeds the limit ({Numeral.digitLimit} digits) for integer string conversion; " ++
      "use sys.set_int_max_str_digits() to increase the limit"
  | block place issues => atPlace place (issuesMessage issues)

end OverlayFault

/-- The entries of a mapping. Every empty value is the mapping without entries. -/
def entries? (v : Yaml.Value) : Option (List (Yaml.Value × Yaml.Value)) :=
  if v.isEmpty then some []
  else match v with
    | .map entries => some entries
    | _ => none

/-- The entry under a key, null if there is none. -/
def entryOr (entries : List (Yaml.Value × Yaml.Value)) (key : String) : Yaml.Value :=
  (Yaml.Value.lookup? entries key).getD .null

/-- Whether a key of a block is made of code points. -/
def isWordKey : Yaml.Value → Bool
  | .text _ => true
  | .nonText _ => true
  | _ => false

section Reading

variable [Override.Validator]

/-- The override that the value at a place stands for. -/
def readBlock (place : List Text.Point) (v : Yaml.Value) : Except OverlayFault Override :=
  match entries? v with
  | none => .error (.blockNotMapping place)
  | some entries =>
    if !entries.all (isWordKey ·.1) then .error .keyNotText
    else (Override.Validator.validate entries).mapError (.block place)

/-- Blocks by name, with one more of them. -/
def putBlock (channels : List (List Text.Point × Override)) (name : List Text.Point)
    (o : Override) : List (List Text.Point × Override) :=
  if channels.any (·.1 == name) then
    channels.map fun channel => if channel.1 == name then (name, o) else channel
  else channels ++ [(name, o)]

/-- The text of a key, which must not have too many digits. -/
def channelName (key : Yaml.Value) : Except OverlayFault (List Text.Point) :=
  match key with
  | .int n =>
    if Nat.pow 10 Numeral.digitLimit ≤ n.natAbs then .error .keyTooLong else .ok key.keyPoints
  | _ => .ok key.keyPoints

def addChannel (channels : List (List Text.Point × Override))
    (entry : Yaml.Value × Yaml.Value) :
    Except OverlayFault (List (List Text.Point × Override)) := do
  let name ← channelName entry.1
  let block ← readBlock (Text.stringPoints "channels." ++ name) entry.2
  return putBlock channels name block

/-- The overlay that a document describes. -/
def Overlay.ofDocument (v : Yaml.Value) : Except OverlayFault Overlay :=
  match entries? v with
  | none => .error .notMapping
  | some entries => do
    let defaults ← readBlock (Text.stringPoints "defaults") (entryOr entries "defaults")
    match entries? (entryOr entries "channels") with
    | none => .error .channelsNotMapping
    | some blocks =>
      let channels ← blocks.foldlM addChannel []
      return { defaults, channels }

end Reading

namespace Overlay

/-- The overlay of a document without content. -/
def empty : Overlay := { defaults := Override.empty, channels := [] }

def names (o : Overlay) : List (List Text.Point) :=
  o.channels.map (·.1)

/-- The block of a channel; a channel without a block overrides nothing. -/
def blockOf (o : Overlay) (name : String) : Override :=
  (o.channels.lookup (Text.stringPoints name)).getD Override.empty

end Overlay

end Configuration

end SendMeter
