import SendMeter.Configuration.Load
import SendMeter.Json
import SendMeter.Storage.Disk

namespace SendMeter.Log

open Storage

structure Setup where
  level : Json
  directory : Json

/-- Where the level and the directory come from. -/
inductive SetupSource where
  | table (fields : List (String × Json))
  | settings (s : LogSettings)
  | configuration (sources : Configuration.Sources)

/-- Words that stand for a format of records, or for all styles of formats, where a level is asked
for. -/
inductive FormatWord where
  | format
  | styles
deriving DecidableEq, Repr

def FormatWord.ofName? : String → Option FormatWord
  | "BASIC_FORMAT" => some .format
  | "_STYLES" => some .styles
  | _ => none

/-- What such a word stands for. -/
def FormatWord.meaning : FormatWord → String
  | .format => "'%(levelname)s:%(name)s:%(message)s'"
  | .styles =>
    "\x7b'%': (<class 'logging.PercentStyle'>, '%(levelname)s:%(name)s:%(message)s'), " ++
    "'\x7b': (<class 'logging.StrFormatStyle'>, " ++
    "'\x7blevelname\x7d:\x7bname\x7d:\x7bmessage\x7d'), " ++
    "'$': (<class 'logging.StringTemplateStyle'>, " ++
    "'$\x7blevelname\x7d:$\x7bname\x7d:$\x7bmessage\x7d')\x7d"

/-- Why a log cannot be set up. -/
inductive SetupFault where
  | settings (error : LogSettingsError)
  | configuration (fault : Configuration.LoadFault)
  | directoryNotText (value : Json)
  | directory (failure : Failure)
  | levelNotText (value : Json)
  | unknownLevel (name : String)
  | noLevel (word : FormatWord)
  | file (failure : Failure)

/-- The word for what a value is. -/
def typeWord : Json → String
  | .null => "NoneType"
  | .bool _ => "bool"
  | .int _ => "int"
  | .float _ => "float"
  | .text _ => "str"
  | .list _ => "list"
  | .object _ => "dict"

def SetupFault.message : SetupFault → List Text.Point
  | .settings error => Text.stringPoints error.message
  | .configuration fault => fault.message
  | .directoryNotText value => Text.stringPoints <|
    "expected str, bytes or os.PathLike object, not " ++ typeWord value
  | .directory failure => Text.stringPoints failure.message
  | .levelNotText value => Text.stringPoints <|
    "'" ++ typeWord value ++ "' object has no attribute 'upper'"
  | .unknownLevel name => Text.stringPoints <|
    "module 'logging' has no attribute '" ++ name ++ "'"
  | .noLevel .format => Text.stringPoints <|
    "Unknown level: " ++ FormatWord.format.meaning
  | .noLevel .styles => Text.stringPoints <|
    "Level not an integer or a valid string: " ++ FormatWord.styles.meaning
  | .file failure => Text.stringPoints failure.message

namespace Setup

def valueOr (fields : List (String × Json)) (key default : String) : Json :=
  ((fields.find? (·.1 == key)).map (·.2)).getD (.text default)

/-- A plain table. What else stands in it does not matter. -/
def ofFields (fields : List (String × Json)) : Setup :=
  { level := valueOr fields "log_level" LogSettings.standard.level
    directory := valueOr fields "log_dir" LogSettings.standard.directory }

def ofSettings (s : LogSettings) : Setup :=
  { level := .text s.level, directory := .text s.directory }

/-- The setup of a source, and the records that are written while it is read. -/
def ofSource : SetupSource → Except SetupFault (Setup × List Record)
  | .table fields => .ok (ofFields fields, [])
  | .settings s => do
    let s ← s.check.mapError .settings
    return (ofSettings s, [])
  | .configuration sources => do
    let c ← sources.load.mapError .configuration
    return (ofSettings c.base.log, sources.log c)

def path (s : Setup) : Except SetupFault Path :=
  match s.directory with
  | .text directory => .ok (.ofText directory)
  | value => .error (.directoryNotText value)

/-- The level and its severity; the name may be written in any case. -/
def severity (s : Setup) : Except SetupFault (String × Nat) :=
  match s.level with
  | .text level =>
    let name := String.ofList (Text.upper level.toList)
    match Level.severityOfName? name, FormatWord.ofName? name with
    | some severity, _ => .ok (level, severity)
    | none, some word => .error (.noLevel word)
    | none, none => .error (.unknownLevel name)
  | value => .error (.levelNotText value)

end Setup

end SendMeter.Log
