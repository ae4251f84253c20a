import SendMeter.Proofs.Configuration.Precedence
import SendMeter.Proofs.Numeral.NotANumber

namespace SendMeter.Configuration

open Override (Gives LawfulValidator Validator)

variable {β : Type}

/-- The text that gives a setting to all channels: that of the environment, or else that of the
sectioned file. -/
def commonText? (ini : Option Ini.Document) (key : String) (environment : Option String) :
    Option String :=
  environment.or (optionText? ini key)

/-- Whether a text, apart from the blanks around it, is the name of what is not a number. -/
def namesNoNumber (text : String) : Bool :=
  Numeral.isNoNumber (Text.trim Text.isBlank (Numeral.toAscii text.toList))

/-- A setting of a channel is not in its block nor in the one for all channels, and the text that is
left to take it from names no number. -/
structure TakenFromNoNumber (document : Option Yaml.Value) (name key : String)
    (text? : Option String) : Prop where
  own : blockValue? (channelBlock document name) key = none
  default : blockValue? (defaultsBlock document) key = none
  common : ∃ text, text? = some text ∧ namesNoNumber text = true

instance (document : Option Yaml.Value) (name key : String) (text? : Option String) :
    Decidable (TakenFromNoNumber document name key text?) :=
  decidable_of_iff
    ((blockValue? (channelBlock document name) key).isNone = true ∧
      (blockValue? (defaultsBlock document) key).isNone = true ∧ text?.any namesNoNumber = true)
    ⟨fun ⟨hown, hdefault, hcommon⟩ => ⟨Option.isNone_iff_eq_none.mp hown,
      Option.isNone_iff_eq_none.mp hdefault, (Option.any_eq_true ..).mp hcommon⟩,
    fun ⟨hown, hdefault, hcommon⟩ => ⟨Option.isNone_iff_eq_none.mpr hown,
      Option.isNone_iff_eq_none.mpr hdefault, (Option.any_eq_true ..).mpr hcommon⟩⟩

/-- A period is positive, but for one exception, in which it is not a number. -/
structure PositiveUnless (exception : Prop) (period : Float) : Prop where
  pos : ¬ exception → 0 < period
  isNaN : exception → period.isNaN = true

theorem isNaN_readPeriod {text : String} {x : Float} (h : readPeriod text = .ok x) :
    x.isNaN = namesNoNumber text := by
  unfold readPeriod at h
  split at h
  next hread =>
    cases h
    exact Numeral.isNaN_readReal? hread
  · cases h

/-- What all channels are given is read from their common text, or it is the standard setting. -/
theorem firstGiven_commonPlaces_cases {ini : Option Ini.Document} {key : String}
    {environment : Option String} {ofText : String → Except NumberFault β} {standard x : β}
    (h : firstGiven (commonPlaces ini key environment ofText standard) = some x) :
    (∃ text, commonText? ini key environment = some text ∧ ofText text = .ok x) ∨
      (commonText? ini key environment = none ∧ x = standard) := by
  unfold commonText?
  cases environment with
  | some text => exact .inl ⟨text, rfl, toOption_eq_some_iff.mp h⟩
  | none =>
    unfold commonPlaces at h
    cases hoption : optionText? ini key with
    | some text =>
      rw [hoption] at h
      exact .inl ⟨text, rfl, toOption_eq_some_iff.mp h⟩
    | none =>
      rw [hoption] at h
      cases h
      exact .inr ⟨rfl, rfl⟩

/-- A period of all channels is not a number exactly if its text names none. -/
theorem isNaN_commonPeriod {ini : Option Ini.Document} {key : String} {environment : Option String}
    {standard x : Float} (hstandard : standard.isNaN = false)
    (h : firstGiven (commonPlaces ini key environment readPeriod standard) = some x) :
    x.isNaN = true ↔
      ∃ text, commonText? ini key environment = some text ∧ namesNoNumber text = true := by
  obtain ⟨text, htext, hread⟩ | ⟨hnone, rfl⟩ := firstGiven_commonPlaces_cases h
  · rw [isNaN_readPeriod hread, htext]
    simp
  · rw [hstandard, hnone]
    simp

section Loading

variable [Validator]

/-- A block gives only positive periods, and is put over what is given behind it. -/
theorem PositiveUnless.getD {value? : Option Yaml.Value} {setting : Option Float} {exception : Prop}
    {behind : Float} (h : Gives Validator.real ((0 : Float) < ·) value? setting)
    (hexception : exception → value? = none)
    (hbehind : value? = none → PositiveUnless exception behind) :
    PositiveUnless exception (setting.getD behind) := by
  cases value? with
  | none =>
    cases h
    exact hbehind rfl
  | some value =>
    obtain ⟨x, -, hpos, rfl⟩ := h
    exact ⟨fun _ => hpos, fun htaken => absurd (hexception htaken) (Option.some_ne_none value)⟩

/-- A period of a channel is positive if a block gives it, and otherwise if its text names a
number. -/
theorem positiveUnless_period {document : Option Yaml.Value} {name key : String}
    {own default : Option Float} {text? : Option String} {common : Float}
    (hown :
      Gives Validator.real ((0 : Float) < ·) (blockValue? (channelBlock document name) key) own)
    (hdefault :
      Gives Validator.real ((0 : Float) < ·) (blockValue? (defaultsBlock document) key) default)
    (hcommon : ¬ common ≤ 0)
    (hnan : common.isNaN = true ↔ ∃ text, text? = some text ∧ namesNoNumber text = true) :
    PositiveUnless (TakenFromNoNumber document name key text?)
      (own.getD (default.getD common)) := by
  refine .getD hown (·.own) fun hown_none => .getD hdefault (·.default) fun hdefault_none => ?_
  refine ⟨fun hnumber => ?_, fun htaken => hnan.mpr htaken.common⟩
  have hisNaN : common.isNaN = false := Bool.eq_false_of_not_eq_true fun hisNaN =>
    hnumber ⟨hown_none, hdefault_none, hnan.mp hisNaN⟩
  exact (Binary64.lt_iff Binary64.isNaN_zero hisNaN).mpr (Binary64.pos_of_not_le hisNaN hcommon)

variable [Yaml.Loader] [LawfulValidator]

/-- In a configuration that could be loaded, blocks put over the settings of all channels leave them
valid. -/
theorem valid_merged {sources : Sources} {c : Configuration} (h : sources.load = .ok c)
    (name : String) : (c.merged name).Valid := by
  obtain ⟨ini, document, -, -, hsettings, hoverlay⟩ := load_eq_ok h
  obtain ⟨hvalid, -⟩ := monitorSettings_eq_ok hsettings
  obtain ⟨hdefaults, hblocks⟩ := reads_of_ofDocument? hoverlay
  exact (hblocks name).valid_applyTo (hdefaults.valid_applyTo hvalid)

theorem settingsFor_eq_merged {sources : Sources} {c : Configuration} (h : sources.load = .ok c)
    (name : String) : c.settingsFor name = .ok (c.merged name) :=
  Settings.check_eq_ok_iff.mpr ⟨rfl, valid_merged h name⟩

/-- In a configuration that could be loaded, the settings of every channel have a window of at least
one and positive periods, with one exception: a period that neither the block of the channel nor the
one for all channels gives, and whose text, in the environment or else in the sectioned file, is the
name of what is not a number, is not a number. -/
theorem settings_positive_unless_no_number {sources : Sources} {c : Configuration}
    (h : sources.load = .ok c) :
    ∃ ini document, sources.ini.mapM readIni = .ok ini ∧
      sources.overlay.mapM readDocument = .ok document ∧
      ∀ name, ∃ settings, c.settingsFor name = .ok settings ∧ 1 ≤ settings.window ∧
        PositiveUnless
          (TakenFromNoNumber document name Override.periodUnitKey
            (commonText? ini Override.periodUnitKey sources.environment.periodUnit))
          settings.periodUnit ∧
        PositiveUnless
          (TakenFromNoNumber document name Override.averagingPeriodKey
            (commonText? ini Override.averagingPeriodKey sources.environment.averagingPeriod))
          settings.averagingPeriod := by
  obtain ⟨ini, document, hini, hdocument, hsettings, hoverlay⟩ := load_eq_ok h
  obtain ⟨hvalid, hcommon⟩ := monitorSettings_eq_ok hsettings
  obtain ⟨hdefaults, hblocks⟩ := reads_of_ofDocument? hoverlay
  refine ⟨ini, document, hini, hdocument, fun name => ⟨c.merged name, ?_, ?_, ?_, ?_⟩⟩
  · exact settingsFor_eq_merged h name
  · exact not_lt.mp (valid_merged h name).window
  · exact positiveUnless_period (hblocks name).periodUnit hdefaults.periodUnit hvalid.periodUnit
      (isNaN_commonPeriod (by decide +kernel) hcommon.periodUnit)
  · exact positiveUnless_period (hblocks name).averagingPeriod hdefaults.averagingPeriod
      hvalid.averagingPeriod (isNaN_commonPeriod (by decide +kernel) hcommon.averagingPeriod)

end Loading

/-- One period is not a number in the environment, the other one in the sectioned file. One channel
has a block of its own for the second of them. -/
def nameless : Sources where
  ini := some "[monitor]\naveraging_period = +NaN\n".toUTF8.toList
  overlay := some "channels:\n  log:\n    averaging_period: 5\n".toUTF8.toList
  environment := { Environment.empty with periodUnit := some " nan" }

/-- Whether a setting of a channel is taken from the name of what is not a number, by the files of
`nameless`. -/
def namelessTaken (name key : String) (environment : Option String) : Option Bool := do
  let ini ← (nameless.ini.mapM readIni).toOption
  let document ← (nameless.overlay.mapM readDocument).toOption
  return decide (TakenFromNoNumber document name key (commonText? ini key environment))

theorem settings_positive_unless_no_number_nameless :
    ∃ c own other, nameless.load = .ok c ∧
      c.settingsFor "log" = .ok own ∧ own.periodUnit.isNaN = true ∧ 0 < own.averagingPeriod ∧
      c.settingsFor "mail" = .ok other ∧ other.averagingPeriod.isNaN = true := by
  have hload : nameless.load.isOk := by decide +kernel
  obtain ⟨c, hc⟩ := isOk_iff_exists.mp hload
  obtain ⟨ini, document, hini, hdocument, hchannels⟩ := settings_positive_unless_no_number hc
  have htaken (name key : String) (environment : Option String) :
      namelessTaken name key environment =
        some (decide (TakenFromNoNumber document name key (commonText? ini key environment))) := by
    simp only [namelessTaken, hini, hdocument]
    rfl
  obtain ⟨own, hown, -, hunit, hperiod⟩ := hchannels "log"
  obtain ⟨other, hother, -, -, hother_period⟩ := hchannels "mail"
  refine ⟨c, own, other, hc, hown, hunit.isNaN ?_, hperiod.pos ?_, hother, hother_period.isNaN ?_⟩
  · exact of_decide_eq_true (Option.some_inj.mp ((htaken ..).symm.trans (by decide +kernel)))
  · exact of_decide_eq_false (Option.some_inj.mp ((htaken ..).symm.trans (by decide +kernel)))
  · exact of_decide_eq_true (Option.some_inj.mp ((htaken ..).symm.trans (by decide +kernel)))

/-- The reporting unit is not a number in the environment. -/
def unitless : Sources where
  ini := none
  overlay := none
  environment := { Environment.empty with periodUnit := some "nan" }

theorem settings_not_positive_unitless :
    ∃ c settings, unitless.load = .ok c ∧ c.settingsFor "mail" = .ok settings ∧
      ¬ 0 < settings.periodUnit := by
  have hunit : unitless.load.toOption.map (fun c => (c.merged "mail").periodUnit.isNaN) =
      some true := by decide +kernel
  obtain ⟨c, hc, hisNaN⟩ := Option.map_eq_some_iff.mp hunit
  have hload := toOption_eq_some_iff.mp hc
  exact ⟨c, c.merged "mail", hload, settingsFor_eq_merged hload "mail",
    Binary64.not_lt_of_isNaN_right 0 hisNaN⟩

end SendMeter.Configuration
