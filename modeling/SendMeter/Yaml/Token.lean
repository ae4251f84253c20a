import SendMeter.Yaml.Fault

namespace SendMeter.Yaml

inductive Directive where
  | version (major : Nat)
  | handle (handle expansion : String)
  | unknown
deriving DecidableEq, Repr

/-- A tag as it is written: a handle with a suffix, or a whole tag. -/
structure TagName where
  handle : Option String
  suffix : String
deriving DecidableEq, Repr

inductive Token where
  | directive (d : Directive)
  | documentStart
  | documentEnd
  | blockSequenceStart
  | blockMappingStart
  | blockEnd
  | flowSequenceStart
  | flowMappingStart
  | flowSequenceEnd
  | flowMappingEnd
  | blockEntry
  | flowEntry
  | key
  | value
  | alias (name : String)
  | anchor (name : String)
  | tag (name : TagName)
  | scalar (text : List Text.Point) (plain : Bool)
  | streamEnd
  /-- The text cannot be read from here on. -/
  | broken (fault : Fault)
deriving DecidableEq, Repr

end SendMeter.Yaml
