import SendMeter.Configuration.Base
import SendMeter.Configuration.Overlay
import SendMeter.Ini.Draft
import SendMeter.Log.Record
import SendMeter.Yaml.Document

namespace SendMeter

/-- What has been loaded. -/
structure Configuration where
  base : Configuration.Base
  overlay : Configuration.Overlay

namespace Configuration

/-- The files, where they exist, and the environment. -/
structure Sources where
  ini : Option (List UInt8)
  overlay : Option (List UInt8)
  environment : Environment

/-- Why sources cannot be loaded. -/
inductive LoadFault where
  | iniText (fault : Text.Utf8Fault)
  | ini (fault : Ini.Fault)
  | base (fault : BaseFault)
  | overlayText (fault : Text.Utf8Fault)
  | document (fault : Yaml.Fault)
  | overlay (fault : OverlayFault)

def iniName : String := "monitor_config.ini"

def iniSource : String := s!"PosixPath('configs/{iniName}')"

def overlayPath : String := "configs/channels.yaml"

def BaseFault.message : BaseFault → String
  | .expansion fault => fault.message
  | .option fault => s!"Invalid {iniName} [{monitorHeader}] value: " ++ fault.message
  | .variable name text fault => s!"Invalid {name}=" ++ Text.quoted text ++ ": " ++ fault.message
  | .settings error => error.message
  | .log error => error.message

def LoadFault.message : LoadFault → List Text.Point
  | .iniText fault => Text.stringPoints fault.message
  | .ini fault => Text.stringPoints (fault.message iniSource)
  | .base fault => Text.stringPoints fault.message
  | .overlayText fault => Text.stringPoints fault.message
  | .document fault => Text.stringPoints (fault.message overlayPath)
  | .overlay fault => fault.message overlayPath

/-- The sectioned text in some bytes. Its lines are read as soon as they are text, so a fault in
them comes before a fault in the bytes behind them. -/
def readIni (bytes : List UInt8) : Except LoadFault Ini.Document :=
  match Text.Utf8.read bytes with
  | ⟨cs, none⟩ => (Ini.Document.ofText (Text.universalBreaks cs)).mapError .ini
  | ⟨cs, some fault⟩ => .error ((Ini.Draft.stop? cs).elim (.iniText fault) .ini)

def readDocument [Yaml.Loader] (bytes : List UInt8) : Except LoadFault Yaml.Value := do
  let cs ← (Text.Utf8.decode bytes).mapError .overlayText
  (Yaml.Loader.ofText (Text.universalBreaks cs)).mapError .document

/-- The overlay of a document; without a document nothing is overridden. -/
def Overlay.ofDocument? [Override.Validator] : Option Yaml.Value → Except OverlayFault Overlay
  | none => .ok .empty
  | some v => Overlay.ofDocument v

/-- The configuration that sources describe. The document of overrides is read last. -/
def Sources.load [Yaml.Loader] [Override.Validator] (s : Sources) :
    Except LoadFault Configuration := do
  let ini ← s.ini.mapM readIni
  let base ← (Base.load ini s.environment).mapError .base
  let document ← s.overlay.mapM readDocument
  let overlay ← (Overlay.ofDocument? document).mapError .overlay
  return { base, overlay }

/-- The records of loading a configuration. -/
def Sources.log (s : Sources) (c : Configuration) : List Log.Record :=
  if s.overlay.isSome then
    [⟨.debug, Log.configLogger, s!"Loaded overrides for {c.overlay.channels.length} channels"⟩]
  else []

/-- Settings of a channel before they are checked. -/
def merged (c : Configuration) (name : String) : Settings Float :=
  (c.overlay.blockOf name).applyTo (c.overlay.defaults.applyTo c.base.settings)

/-- The settings of a channel. -/
def settingsFor (c : Configuration) (name : String) :
    Except (SettingsError Float) (Settings Float) :=
  (c.merged name).check

end Configuration

end SendMeter
