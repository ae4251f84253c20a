import SendMeter.Proofs.Configuration.Positivity
import SendMeter.Proofs.Monitor.Steps
import SendMeter.Proofs.Registry.Steps
import SendMeter.Proofs.Scalar.Overflow

namespace SendMeter

section Creation

variable {α : Type} [Scalar α] {window : Int}

theorem Average.create_of_steadyWeight {alpha : α} (hwindow : ¬ window < 1)
    (h : steadyWeight window = .ok alpha) :
    create window = .ok (empty window.toNat alpha) := by
  rw [create, if_neg hwindow, h]

theorem Average.create_of_not_steadyWeight {e : ArithmeticError} (hwindow : ¬ window < 1)
    (h : (steadyWeight window : Except ArithmeticError α) = .error e) :
    (create window : Except (HistoryError α) (Average α)) = .error (.arithmetic e) := by
  rw [create, if_neg hwindow, h]

/-- Of what a rate needs, only its average can still be missing once the periods are checked. -/
theorem Rate.create_of_average {average : Average α} {periodUnit averagingPeriod : α}
    (h : Average.create window = .ok average) (hunit : ¬ periodUnit ≤ Scalar.zero)
    (hperiod : ¬ averagingPeriod ≤ Scalar.zero) (now : α) :
    ∃ rate, create window periodUnit averagingPeriod none now = .ok rate := by
  simp only [create, h, if_neg hunit, if_neg hperiod, Option.filter_none]
  exact ⟨_, rfl⟩

variable {s : Settings α}

/-- All histories of a monitor with valid settings can be made if one average can. -/
theorem Monitor.create_of_average {average : Average α} (h : Average.create s.window = .ok average)
    (hvalid : s.Valid) (name : String) (now : α) : ∃ m, create name s now = .ok m := by
  obtain ⟨rate, hrate⟩ := Rate.create_of_average h hvalid.periodUnit hvalid.averagingPeriod now
  simp only [create, Durations.create, Outcomes.create, h, hrate]
  exact ⟨_, rfl⟩

/-- The first history that a monitor needs refuses its window. -/
theorem Monitor.create_of_not_average {e : HistoryError α}
    (h : (Average.create s.window : Except (HistoryError α) (Average α)) = .error e) (name : String)
    (now : α) : create name s now = .error e := by
  simp only [create, Durations.create, h]
  rfl

end Creation

section Floats

open Binary64

variable {window : Int}

/-- The weight of a sample is a float exactly for the windows that are one less than such an
integer. -/
theorem Average.steadyWeight_cases (hwindow : ¬ window < 1) :
    (window + 1 < firstTooLarge ∧ ∃ alpha : Float, steadyWeight window = .ok alpha) ∨
      (firstTooLarge ≤ window + 1 ∧
        (steadyWeight window : Except ArithmeticError Float) = .error .integerTooLarge) := by
  obtain ⟨n, hn⟩ := Int.eq_ofNat_of_zero_le (show 0 ≤ window + 1 by omega)
  have hone : 1 ≤ n := by omega
  rw [steadyWeight, hn, ofInt_float, Int.ofNat_lt, Int.ofNat_le]
  by_cases hlt : n < firstTooLarge
  · have hpos := le_toRat_ofInt (k := 1) (by norm_num) hone
    have hne : toRat (Float.ofInt n) ≠ 0 := (zero_lt_one.trans_le (by exact_mod_cast hpos)).ne'
    rw [if_pos ((isFinite_ofInt_iff n).mpr hlt)]
    exact .inl ⟨hlt, _, divide_of_beq_zero _ (beq_zero_of_ne hne)⟩
  · rw [if_neg fun hfinite => hlt ((isFinite_ofInt_iff n).mp hfinite)]
    exact .inr ⟨not_lt.mp hlt, rfl⟩

/-- A monitor with valid settings can be made, unless its window is too large. -/
theorem Monitor.create_cases {s : Settings Float} (hvalid : s.Valid) (name : String) (now : Float) :
    (s.window + 1 < firstTooLarge ∧ ∃ m, create name s now = .ok m) ∨
      (firstTooLarge ≤ s.window + 1 ∧
        create name s now = .error (.arithmetic .integerTooLarge)) := by
  obtain ⟨hsmall, alpha, halpha⟩ | ⟨hlarge, herror⟩ := Average.steadyWeight_cases hvalid.window
  · have haverage := Average.create_of_steadyWeight hvalid.window halpha
    exact .inl ⟨hsmall, create_of_average haverage hvalid name now⟩
  · have haverage := Average.create_of_not_steadyWeight hvalid.window herror
    exact .inr ⟨hlarge, create_of_not_average haverage name now⟩

end Floats

namespace Registry

open Binary64

variable {sources : Configuration.Sources} {c : Configuration} {r : Registry Float} {name : String}

/-- With a configuration that could be loaded, a name that is neither empty nor taken is registered
with a new monitor that has the settings of the channel. The only exception is a window one above
which no float is near enough: then the registration is refused, with the error of the conversion. -/
theorem register_unless_window_too_large (h : sources.load = .ok c) (hname : name ≠ "")
    (hfree : name ∉ r.names) (now : Float) :
    ∃ settings, c.settingsFor name = .ok settings ∧
      (settings.window + 1 < firstTooLarge →
        ∃ m, Monitor.create name settings now = .ok m ∧
          r.register c.settingsFor name now =
            .ok (⟨r.fleet.add m, r.channels ++ [(name, r.fleet.nextMonitor)]⟩,
              r.fleet.nextMonitor)) ∧
      (firstTooLarge ≤ settings.window + 1 →
        r.register c.settingsFor name now = .error (.history (.arithmetic .integerTooLarge))) := by
  have hsettings := Configuration.settingsFor_eq_merged h name
  refine ⟨c.merged name, hsettings, ?_⟩
  obtain ⟨hsmall, m, hm⟩ | ⟨hlarge, herror⟩ :=
    Monitor.create_cases (Configuration.valid_merged h name) name now
  · exact ⟨fun _ => ⟨m, hm, register_eq_ok_iff.mpr ⟨hname, hfree, rfl, _, m, hsettings, hm, rfl⟩⟩,
      fun hlarge => absurd hsmall (not_lt.mpr hlarge)⟩
  · refine ⟨fun hsmall => absurd hsmall (not_lt.mpr hlarge), fun _ => ?_⟩
    have hisEmpty : ¬ name.isEmpty = true := fun heq => hname (String.isEmpty_iff.mp heq)
    have htaken : ¬ r.contains name = true := fun heq => hfree (contains_iff.mp heq)
    rw [register, Work.result, registerM_eq, if_neg hisEmpty, if_neg htaken, hsettings]
    simp only [herror]

/-- The digits of ten to the 309. -/
def hugeDigits : List Char := '1' :: List.replicate 309 '0'

private theorem readWhole_hugeDigits :
    Configuration.readWhole (String.ofList hugeDigits) = .ok (10 ^ 309) := by
  have hread : Numeral.readInteger 10 hugeDigits = .ok (10 ^ 309) := by decide +kernel
  rw [Configuration.readWhole, String.toList_ofList, hread, mapError_ok]

/-- All channels have a window of ten to the 309, but for one with a block of its own. -/
def hugeWindow : Configuration.Sources where
  ini := none
  overlay := some "channels:\n  mail:\n    window_size: 20\n".toUTF8.toList
  environment :=
    { Configuration.Environment.empty with window := some (String.ofList hugeDigits) }

theorem load_hugeWindow : ∃ c, hugeWindow.load = .ok c ∧
    (c.merged "mail").window = 20 ∧ (c.merged "log").window = 10 ^ 309 := by
  have hwindows : hugeWindow.load.toOption.map (fun c =>
      ((c.merged "mail").window, (c.merged "log").window)) = some (20, 10 ^ 309) := by
    simp only [hugeWindow, Configuration.Sources.load, Configuration.Base.load,
      Configuration.monitorSettings, Configuration.Environment.override, Configuration.variableOr,
      readWhole_hugeDigits]
    decide +kernel
  obtain ⟨c, hc, heq⟩ := Option.map_eq_some_iff.mp hwindows
  exact ⟨c, toOption_eq_some_iff.mp hc, Prod.mk.inj heq⟩

theorem firstTooLarge_le_hugeWindow : (firstTooLarge : Int) ≤ 10 ^ 309 + 1 := by
  unfold firstTooLarge
  decide +kernel

theorem register_unless_window_too_large_huge :
    ∃ c after, hugeWindow.load = .ok c ∧
      Registry.empty.register c.settingsFor "mail" 0 = .ok after ∧
      Registry.empty.register c.settingsFor "log" 0 =
        .error (.history (.arithmetic .integerTooLarge)) := by
  obtain ⟨c, hc, hmail, hlog⟩ := load_hugeWindow
  obtain ⟨own, hown, hregistered, -⟩ :=
    register_unless_window_too_large hc (by decide : "mail" ≠ "") (r := .empty)
      List.not_mem_nil 0
  obtain ⟨common, hcommon, -, hrefused⟩ :=
    register_unless_window_too_large hc (by decide : "log" ≠ "") (r := .empty) List.not_mem_nil 0
  rw [Configuration.settingsFor_eq_merged hc] at hown hcommon
  cases hown
  cases hcommon
  have hsmall : (20 : Int) + 1 < firstTooLarge := by
    unfold firstTooLarge
    decide +kernel
  obtain ⟨m, -, hregister⟩ := hregistered (hmail ▸ hsmall)
  exact ⟨c, _, hc, hregister, hrefused (hlog ▸ firstTooLarge_le_hugeWindow)⟩

theorem register_not_total_huge :
    ∃ c, hugeWindow.load = .ok c ∧
      ¬ ∃ after, Registry.empty.register c.settingsFor "log" 0 = .ok after := by
  obtain ⟨c, hc, -, hlog⟩ := load_hugeWindow
  refine ⟨c, hc, ?_⟩
  rintro ⟨⟨after, number⟩, hregister⟩
  obtain ⟨-, -, -, settings, m, hsettings, hm, -⟩ := register_eq_ok_iff.mp hregister
  rw [Configuration.settingsFor_eq_merged hc] at hsettings
  cases hsettings
  obtain ⟨hsmall, -⟩ | ⟨-, herror⟩ :=
    Monitor.create_cases (Configuration.valid_merged hc "log") "log" 0
  · rw [hlog] at hsmall
    exact absurd firstTooLarge_le_hugeWindow (not_le.mpr hsmall)
  · rw [hm] at herror
    cases herror

end Registry

end SendMeter
