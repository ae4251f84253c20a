import SendMeter.Proofs.Configuration.Blocks
import SendMeter.Proofs.Scalar.Binary64

namespace SendMeter

/-- Settings that pass their own check. -/
structure Settings.Valid {α : Type} [Scalar α] (s : Settings α) : Prop where
  window : ¬ s.window < 1
  periodUnit : ¬ s.periodUnit ≤ Scalar.zero
  averagingPeriod : ¬ s.averagingPeriod ≤ Scalar.zero

theorem Settings.check_eq_ok_iff {α : Type} [Scalar α] {s t : Settings α} :
    s.check = .ok t ↔ t = s ∧ s.Valid := by
  unfold check
  constructor
  · intro h
    split at h
    · cases h
    split at h
    · cases h
    split at h
    · cases h
    next hwindow hunit hperiod =>
      cases h
      exact ⟨rfl, hwindow, hunit, hperiod⟩
  · rintro ⟨rfl, hwindow, hunit, hperiod⟩
    rw [if_neg hwindow, if_neg hunit, if_neg hperiod]

namespace Configuration

open Override (Gives LawfulValidator Validator)

/-- An option of the section of the monitor, if it is there. -/
def optionText? (ini : Option Ini.Document) (key : String) : Option String :=
  (option? ini monitorHeader key).toOption.join

/-- The places that may give a setting to all channels, the first one first: the environment, the
sectioned text, and the standard settings. Each of them gives nothing, or what it reads from a text,
which may fail. -/
def commonPlaces {β : Type} (ini : Option Ini.Document) (key : String) (environment : Option String)
    (ofText : String → Except NumberFault β) (standard : β) : List (Option (Option β)) :=
  [environment.map fun text => (ofText text).toOption,
    (optionText? ini key).map fun text => (ofText text).toOption,
    some (some standard)]

/-- The places that may give a setting to a channel. Its own block and the one for all channels come
before the others. -/
def places {β : Type} (document : Option Yaml.Value) (name key : String)
    (ofValue : Yaml.Value → Except Problem β) (others : List (Option (Option β))) :
    List (Option (Option β)) :=
  ((blockValue? (channelBlock document name) key).map fun value => (ofValue value).toOption) ::
    ((blockValue? (defaultsBlock document) key).map fun value => (ofValue value).toOption) ::
    others

/-- What the first place gives that gives anything. -/
def firstGiven {β : Type} (places : List (Option (Option β))) : Option β :=
  (places.findSome? id).join

section Places

variable {β : Type} {rest : List (Option (Option β))} {x y : β}

theorem firstGiven_block {ofValue : Yaml.Value → Except Problem β} {valid : β → Prop}
    {value? : Option Yaml.Value} {setting : Option β} (h : Gives ofValue valid value? setting)
    (hrest : firstGiven rest = some y) :
    firstGiven ((value?.map fun value => (ofValue value).toOption) :: rest) =
      some (setting.getD y) := by
  cases value? with
  | none =>
    cases h
    exact hrest
  | some value =>
    obtain ⟨x, hx, -, rfl⟩ := h
    rw [Option.map_some, hx]
    rfl

private theorem firstGiven_variable {ofText : String → Except NumberFault β} {name : String}
    {text : Option String} (h : variableOr ofText name text y = .ok x)
    (hrest : firstGiven rest = some y) :
    firstGiven ((text.map fun text => (ofText text).toOption) :: rest) = some x := by
  cases text with
  | none =>
    cases h
    exact hrest
  | some text =>
    rw [Option.map_some, mapError_eq_ok_iff.mp h]
    rfl

private theorem firstGiven_option {ofText : String → Except NumberFault β}
    {ini : Option Ini.Document} {key : String} (h : optionOr ofText ini key y = .ok x)
    (hrest : firstGiven rest = some y) :
    firstGiven (((optionText? ini key).map fun text => (ofText text).toOption) :: rest) =
      some x := by
  obtain ⟨text, hoption, h⟩ := bind_eq_ok_iff.mp h
  rw [optionText?, hoption]
  cases text with
  | none =>
    cases h
    exact hrest
  | some text =>
    rw [mapError_eq_ok_iff] at h
    show firstGiven (some (ofText text).toOption :: rest) = some x
    rw [h]
    rfl

theorem firstGiven_commonPlaces {ofText : String → Except NumberFault β} {ini : Option Ini.Document}
    {name key : String} {environment : Option String} {standard : β}
    (hoption : optionOr ofText ini key standard = .ok y)
    (hvariable : variableOr ofText name environment y = .ok x) :
    firstGiven (commonPlaces ini key environment ofText standard) = some x :=
  firstGiven_variable hvariable (firstGiven_option hoption rfl)

theorem firstGiven_places {ofValue : Yaml.Value → Except Problem β} {valid : β → Prop}
    {document : Option Yaml.Value} {name key : String} {own default : Option β}
    (hown : Gives ofValue valid (blockValue? (channelBlock document name) key) own)
    (hdefault : Gives ofValue valid (blockValue? (defaultsBlock document) key) default)
    (hrest : firstGiven rest = some y) :
    firstGiven (places document name key ofValue rest) = some (own.getD (default.getD y)) :=
  firstGiven_block hown (firstGiven_block hdefault hrest)

theorem getD_of_gives {ofValue : Yaml.Value → Except Problem β} {given valid : β → Prop}
    {value? : Option Yaml.Value} {setting : Option β} (h : Gives ofValue given value? setting)
    (himp : ∀ x, given x → valid x) (hy : valid y) : valid (setting.getD y) := by
  cases value? with
  | none =>
    cases h
    exact hy
  | some value =>
    obtain ⟨x, -, hx, rfl⟩ := h
    exact himp x hx

end Places

/-- The places that may give each setting. -/
structure SettingPlaces where
  window : List (Option (Option Int))
  periodUnit : List (Option (Option Float))
  averagingPeriod : List (Option (Option Float))

/-- The places that may give the settings of all channels. -/
def settingPlaces (ini : Option Ini.Document) (e : Environment) : SettingPlaces where
  window := commonPlaces ini Override.windowKey e.window readWhole Settings.standard.window
  periodUnit := commonPlaces ini Override.periodUnitKey e.periodUnit readPeriod
    Settings.standard.periodUnit
  averagingPeriod := commonPlaces ini Override.averagingPeriodKey e.averagingPeriod readPeriod
    Settings.standard.averagingPeriod

/-- The places that may give the settings of one channel. -/
def SettingPlaces.ofChannel [Validator] (others : SettingPlaces) (document : Option Yaml.Value)
    (name : String) : SettingPlaces where
  window := places document name Override.windowKey Validator.whole others.window
  periodUnit := places document name Override.periodUnitKey Validator.real others.periodUnit
  averagingPeriod :=
    places document name Override.averagingPeriodKey Validator.real others.averagingPeriod

/-- Each of some settings, on its own, is what the first place gives. -/
structure FirstGiven (p : SettingPlaces) (s : Settings Float) : Prop where
  window : firstGiven p.window = some s.window
  periodUnit : firstGiven p.periodUnit = some s.periodUnit
  averagingPeriod : firstGiven p.averagingPeriod = some s.averagingPeriod

/-- The settings for all channels, before the blocks. -/
theorem monitorSettings_eq_ok {ini : Option Ini.Document} {e : Environment} {s : Settings Float}
    (h : monitorSettings ini e = .ok s) :
    s.Valid ∧ FirstGiven (settingPlaces ini e) s := by
  obtain ⟨given, hini, h⟩ := bind_eq_ok_iff.mp h
  obtain ⟨overridden, hoverride, h⟩ := bind_eq_ok_iff.mp h
  obtain ⟨rfl, hvalid⟩ := Settings.check_eq_ok_iff.mp (mapError_eq_ok_iff.mp h)
  obtain ⟨window, hwindow, hini⟩ := bind_eq_ok_iff.mp hini
  obtain ⟨periodUnit, hperiodUnit, hini⟩ := bind_eq_ok_iff.mp hini
  obtain ⟨averagingPeriod, haveragingPeriod, hini⟩ := bind_eq_ok_iff.mp hini
  cases hini
  obtain ⟨window', hwindow', hoverride⟩ := bind_eq_ok_iff.mp hoverride
  obtain ⟨periodUnit', hperiodUnit', hoverride⟩ := bind_eq_ok_iff.mp hoverride
  obtain ⟨averagingPeriod', haveragingPeriod', hoverride⟩ := bind_eq_ok_iff.mp hoverride
  cases hoverride
  exact ⟨hvalid, firstGiven_commonPlaces hwindow hwindow',
    firstGiven_commonPlaces hperiodUnit hperiodUnit',
    firstGiven_commonPlaces haveragingPeriod haveragingPeriod'⟩

/-- Blocks put over valid settings leave them valid. -/
theorem Reads.valid_applyTo [Validator] {block : Yaml.Value} {o : Override} (h : Reads block o)
    {s : Settings Float} (hs : s.Valid) : (o.applyTo s).Valid := by
  have hpositive (x : Float) (hx : 0 < x) : ¬ x ≤ Scalar.zero := Binary64.not_le_zero_of_pos hx
  exact ⟨getD_of_gives h.window (fun n hn => hn) hs.window,
    getD_of_gives h.periodUnit hpositive hs.periodUnit,
    getD_of_gives h.averagingPeriod hpositive hs.averagingPeriod⟩

section Loading

variable [Yaml.Loader] [Validator]

theorem load_eq_ok {sources : Sources} {c : Configuration} (h : sources.load = .ok c) :
    ∃ ini document, sources.ini.mapM readIni = .ok ini ∧
      sources.overlay.mapM readDocument = .ok document ∧
      monitorSettings ini sources.environment = .ok c.base.settings ∧
      Overlay.ofDocument? document = .ok c.overlay := by
  obtain ⟨ini, hini, h⟩ := bind_eq_ok_iff.mp h
  obtain ⟨base, hbase, h⟩ := bind_eq_ok_iff.mp h
  obtain ⟨document, hdocument, h⟩ := bind_eq_ok_iff.mp h
  obtain ⟨overlay, hoverlay, h⟩ := bind_eq_ok_iff.mp h
  cases h
  obtain ⟨settings, hsettings, hbase⟩ := bind_eq_ok_iff.mp (mapError_eq_ok_iff.mp hbase)
  obtain ⟨log, -, hbase⟩ := bind_eq_ok_iff.mp hbase
  cases hbase
  exact ⟨ini, document, hini, hdocument, hsettings, mapError_eq_ok_iff.mp hoverlay⟩

variable [LawfulValidator]

/-- In a configuration that could be loaded, every channel has settings, whatever its name. Each of
them is, on its own, that of the first place that gives it: the last block under the name, unless
the block leaves the setting out or has it null, the block for all channels likewise, the
environment, the sectioned text, and the standard settings. The block of a channel without one is
empty. -/
theorem settings_of_first_place {sources : Sources} {c : Configuration}
    (h : sources.load = .ok c) :
    ∃ ini document, sources.ini.mapM readIni = .ok ini ∧
      sources.overlay.mapM readDocument = .ok document ∧
      ∀ name, (∃ settings, c.settingsFor name = .ok settings ∧
          FirstGiven ((settingPlaces ini sources.environment).ofChannel document name) settings) ∧
        ((∀ entry ∈ channelEntries document,
          entry.1.keyPoints ≠ Text.stringPoints name) → channelBlock document name = .map []) := by
  obtain ⟨ini, document, hini, hdocument, hsettings, hoverlay⟩ := load_eq_ok h
  obtain ⟨hvalid, hcommon⟩ := monitorSettings_eq_ok hsettings
  obtain ⟨hdefaults, hblocks⟩ := reads_of_ofDocument? hoverlay
  refine ⟨ini, document, hini, hdocument, fun name => ⟨⟨c.merged name, ?_, ?_, ?_, ?_⟩, ?_⟩⟩
  · have hmerged : (c.merged name).Valid :=
      (hblocks name).valid_applyTo (hdefaults.valid_applyTo hvalid)
    exact Settings.check_eq_ok_iff.mpr ⟨rfl, hmerged⟩
  · exact firstGiven_places (hblocks name).window hdefaults.window hcommon.window
  · exact firstGiven_places (hblocks name).periodUnit hdefaults.periodUnit hcommon.periodUnit
  · exact firstGiven_places (hblocks name).averagingPeriod hdefaults.averagingPeriod
      hcommon.averagingPeriod
  · intro hnone
    have hfilter : (channelEntries document).filter
        (fun entry => entry.1.keyPoints == Text.stringPoints name) = [] := by
      rw [List.filter_eq_nil_iff]
      exact fun entry hmem => by simpa using hnone entry hmem
    rw [channelBlock, hfilter]
    rfl

end Loading

/-- Each place gives something: two blocks have the text of one channel as their key, the second of
them with a null. -/
def layered : Sources where
  ini := some "[monitor]\nwindow_size = 30\nperiod_unit = 2\n".toUTF8.toList
  overlay := some ("defaults:\n  period_unit: 5\nchannels:\n  1:\n    window_size: 3\n" ++
    "  '1':\n    window_size: 7\n    period_unit: null\n").toUTF8.toList
  environment := { Environment.empty with averagingPeriod := some "120" }

/-- What the first places give for a channel, from the files of `layered`. -/
def layeredSettings (name : String) : Option (Option Int × Option Float × Option Float) := do
  let ini ← (layered.ini.mapM readIni).toOption
  let document ← (layered.overlay.mapM readDocument).toOption
  let places := (settingPlaces ini layered.environment).ofChannel document name
  return (firstGiven places.window, firstGiven places.periodUnit, firstGiven places.averagingPeriod)

theorem settings_of_first_place_layered :
    ∃ c own other, layered.load = .ok c ∧
      c.settingsFor "1" = .ok own ∧
      own = { window := 7, periodUnit := 5, averagingPeriod := 120 } ∧
      c.settingsFor "log" = .ok other ∧
      other = { window := 30, periodUnit := 5, averagingPeriod := 120 } := by
  have hload : layered.load.isOk := by decide +kernel
  obtain ⟨c, hc⟩ := isOk_iff_exists.mp hload
  obtain ⟨ini, document, hini, hdocument, hchannels⟩ := settings_of_first_place hc
  have hread (name : String) {settings : Settings Float} {window : Int}
      {periodUnit averagingPeriod : Float}
      (hfirst : FirstGiven ((settingPlaces ini layered.environment).ofChannel document name)
        settings)
      (hgiven : layeredSettings name =
        some (some window, some periodUnit, some averagingPeriod)) :
      settings = { window, periodUnit, averagingPeriod } := by
    have hsettings : layeredSettings name = some (some settings.window,
        some settings.periodUnit, some settings.averagingPeriod) := by
      simp only [layeredSettings, hini, hdocument, ← hfirst.window, ← hfirst.periodUnit,
        ← hfirst.averagingPeriod]
      rfl
    rw [hgiven] at hsettings
    cases hsettings
    rfl
  obtain ⟨⟨own, hown, hfirst⟩, -⟩ := hchannels "1"
  obtain ⟨⟨other, hother, hother_first⟩, -⟩ := hchannels "log"
  exact ⟨c, own, other, hc, hown, hread "1" hfirst (by decide +kernel), hother,
    hread "log" hother_first (by decide +kernel)⟩

end Configuration

end SendMeter
