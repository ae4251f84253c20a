import SendMeter.Proofs.Configuration.Precedence
import SendMeter.Proofs.Yaml.Keys

namespace SendMeter.Configuration

open Override (Gives LawfulValidator Validator)

/-- The block under a text, which need not be the name of a channel. -/
def Overlay.blockAt (o : Overlay) (text : List Text.Point) : Override :=
  (o.channels.lookup text).getD Override.empty

/-- The settings under a text, which need not be the name of a channel. -/
def settingsAt (c : Configuration) (text : List Text.Point) :
    Except (SettingsError Float) (Settings Float) :=
  ((c.overlay.blockAt text).applyTo (c.overlay.defaults.applyTo c.base.settings)).check

/-- The texts of the keys under which the blocks of a document stand. -/
def keyTexts (document : Option Yaml.Value) : List (List Text.Point) :=
  (channelEntries document).map (·.1.keyPoints)

/-- Settings that are what a block says, as far as it says anything. -/
structure Holds [Validator] (block : Yaml.Value) (s : Settings Float) : Prop where
  window : ∀ value, blockValue? block Override.windowKey = some value →
    Validator.whole value = .ok s.window
  periodUnit : ∀ value, blockValue? block Override.periodUnitKey = some value →
    Validator.real value = .ok s.periodUnit
  averagingPeriod : ∀ value, blockValue? block Override.averagingPeriodKey = some value →
    Validator.real value = .ok s.averagingPeriod

theorem Reads.holds [Validator] {block : Yaml.Value} {o : Override} (h : Reads block o)
    (s : Settings Float) : Holds block (o.applyTo s) := by
  have hgives {β : Type} {read : Yaml.Value → Except Problem β} {valid : β → Prop}
      {value? : Option Yaml.Value} {setting : Option β} (h : Gives read valid value? setting)
      (standard : β) : ∀ value, value? = some value → read value = .ok (setting.getD standard) := by
    rintro value rfl
    obtain ⟨x, hx, -, rfl⟩ := h
    exact hx
  exact ⟨hgives h.window _, hgives h.periodUnit _, hgives h.averagingPeriod _⟩

section Names

variable {channels : List (List Text.Point × Override)}

private theorem eraseDups_concat {α : Type} [BEq α] [LawfulBEq α] (l : List α) (a : α) :
    (l ++ [a]).eraseDups = if a ∈ l then l.eraseDups else l.eraseDups ++ [a] := by
  rw [List.eraseDups_append]
  split
  next hmem => simp [List.removeAll, hmem]
  next hmem => simp [List.removeAll, hmem, List.eraseDups_cons]

private theorem nodup_eraseDups {α : Type} [BEq α] [LawfulBEq α] (l : List α) :
    l.eraseDups.Nodup := by
  induction l using List.reverseRecOn with
  | nil => exact List.nodup_nil
  | append_singleton l a ih =>
    rw [eraseDups_concat]
    split
    · exact ih
    next hmem =>
      refine List.nodup_append.mpr ⟨ih, List.nodup_singleton a, ?_⟩
      intro b hb c hc heq
      rw [heq, List.mem_singleton.mp hc] at hb
      exact hmem (List.mem_eraseDups.mp hb)

private theorem eraseDups_eq_self_iff {α : Type} [BEq α] [LawfulBEq α] {l : List α} :
    l.eraseDups = l ↔ l.Nodup := by
  refine ⟨fun h => h ▸ nodup_eraseDups l, fun h => ?_⟩
  induction l using List.reverseRecOn with
  | nil => rfl
  | append_singleton l a ih =>
    obtain ⟨hl, -, hne⟩ := List.nodup_append.mp h
    have hmem : a ∉ l := fun hmem => hne a hmem a (List.mem_singleton_self a) rfl
    rw [eraseDups_concat, if_neg hmem, ih hl]

private theorem names_putBlock (channels : List (List Text.Point × Override))
    (name : List Text.Point) (o : Override) : (putBlock channels name o).map (·.1) =
      if name ∈ channels.map (·.1) then channels.map (·.1) else channels.map (·.1) ++ [name] := by
  have hany : channels.any (·.1 == name) = true ↔ name ∈ channels.map (·.1) := by
    simp [List.any_eq_true]
  unfold putBlock
  simp only [← hany]
  split
  · rw [List.map_map]
    refine List.map_congr_left fun channel _ => ?_
    rw [Function.comp_apply]
    split
    next heq => exact (eq_of_beq heq).symm
    · rfl
  · rw [List.map_append, List.map_singleton]

variable [Validator] [LawfulValidator]

/-- Each text has its place from the first block under it. -/
theorem names_of_foldlM {blocks : List (Yaml.Value × Yaml.Value)}
    (h : blocks.foldlM addChannel [] = .ok channels) :
    channels.map (·.1) = (blocks.map (·.1.keyPoints)).eraseDups := by
  induction blocks using List.reverseRecOn generalizing channels with
  | nil =>
    cases h
    rfl
  | append_singleton blocks entry ih =>
    rw [List.foldlM_append] at h
    obtain ⟨before, hbefore, h⟩ := bind_eq_ok_iff.mp h
    obtain ⟨after, hentry, h⟩ := bind_eq_ok_iff.mp h
    cases h
    obtain ⟨o, -, rfl⟩ := addChannel_eq_ok hentry
    rw [names_putBlock, ih hbefore, List.map_append, List.map_singleton, eraseDups_concat]
    simp only [List.mem_eraseDups]

end Names

theorem wellKeyed_entries {v : Yaml.Value} {entries : List (Yaml.Value × Yaml.Value)}
    (hentries : entries? v = some entries) (h : Yaml.WellKeyed v) :
    Yaml.Unambiguous entries ∧ ∀ entry ∈ entries, Yaml.WellKeyed entry.2 := by
  unfold entries? at hentries
  split at hentries
  · cases hentries
    exact ⟨List.Pairwise.nil, nofun⟩
  · split at hentries
    · cases hentries
      cases h with
      | map hkeys hvalues => exact ⟨hkeys, hvalues⟩
      | other hother => exact absurd rfl (hother _)
    · cases hentries

private theorem wellKeyed_entryOr {entries : List (Yaml.Value × Yaml.Value)}
    (h : ∀ entry ∈ entries, Yaml.WellKeyed entry.2) (key : String) :
    Yaml.WellKeyed (entryOr entries key) := by
  unfold entryOr Yaml.Value.lookup?
  cases hfind : entries.find? fun entry => entry.1.sameKey (.text key) with
  | none => exact .other nofun
  | some entry => exact h entry (List.mem_of_find?_eq_some hfind)

private theorem stringPoints_injective : Function.Injective Text.stringPoints := by
  intro s t h
  have hcharacters := congrArg Text.characters? h
  unfold Text.stringPoints at hcharacters
  rw [Text.characters?_points, Text.characters?_points] at hcharacters
  exact String.toList_inj.mp (Option.some.inj hcharacters)

theorem nodup_keyTexts {document : Option Yaml.Value}
    (h : Yaml.Unambiguous (channelEntries document))
    (htexts : ∀ entry ∈ channelEntries document, ∃ name, entry.1 = .text name) :
    (keyTexts document).Nodup := by
  refine List.pairwise_map.mpr (h.imp_of_mem fun {first second} hfirst hsecond hne htext => ?_)
  obtain ⟨name, hname⟩ := htexts first hfirst
  obtain ⟨other, hother⟩ := htexts second hsecond
  rw [hname, hother] at hne htext
  rw [Override.sameKey_text, stringPoints_injective htext, beq_self_eq_true] at hne
  cases hne

section Loading

variable [Yaml.Loader] [Yaml.LawfulLoader]

theorem wellKeyed_readDocument {bytes : List UInt8} {v : Yaml.Value}
    (h : readDocument bytes = .ok v) : Yaml.WellKeyed v := by
  obtain ⟨cs, -, h⟩ := bind_eq_ok_iff.mp h
  exact Yaml.LawfulLoader.wellKeyed_ofText (mapError_eq_ok_iff.mp h)

theorem unambiguous_channelEntries {sources : Sources} {document : Option Yaml.Value}
    (h : sources.overlay.mapM readDocument = .ok document) :
    Yaml.Unambiguous (channelEntries document) := by
  have hdocument : Yaml.WellKeyed (document.getD .null) := by
    cases hbytes : sources.overlay with
    | none =>
      rw [hbytes] at h
      cases h
      exact .other nofun
    | some bytes =>
      rw [hbytes] at h
      obtain ⟨v, hv, rfl⟩ := map_eq_ok_iff.mp h
      exact wellKeyed_readDocument hv
  have hentries : ∀ entry ∈ documentEntries document, Yaml.WellKeyed entry.2 := by
    unfold documentEntries
    cases hentries : entries? (document.getD .null) with
    | none => exact nofun
    | some entries => exact (wellKeyed_entries hentries hdocument).2
  unfold channelEntries
  cases hblocks : entries? (entryOr (documentEntries document) "channels") with
  | none => exact List.Pairwise.nil
  | some blocks => exact (wellKeyed_entries hblocks (wellKeyed_entryOr hentries "channels")).1

/-- The names of a loaded configuration are the texts of the keys of its document, each of them
once, so they are as many as the keys only if no two keys have the same text. This is so if all keys
are texts. Under each text the last block holds: all that it gives is found in the settings. -/
theorem blocks_kept_unless_same_text [Validator] [LawfulValidator] {sources : Sources}
    {c : Configuration} (h : sources.load = .ok c) :
    ∃ document, sources.overlay.mapM readDocument = .ok document ∧
      c.overlay.names = (keyTexts document).eraseDups ∧
      (c.overlay.names = keyTexts document ↔ (keyTexts document).Nodup) ∧
      ((∀ entry ∈ channelEntries document, ∃ name, entry.1 = .text name) →
        (keyTexts document).Nodup) ∧
      ∀ before entry later, channelEntries document = before ++ entry :: later →
        entry.1.keyPoints ∉ later.map (·.1.keyPoints) →
          ∃ settings, c.settingsAt entry.1.keyPoints = .ok settings ∧
            Holds entry.2 settings := by
  obtain ⟨ini, document, -, hdocument, hsettings, hoverlay⟩ := load_eq_ok h
  obtain ⟨hvalid, -⟩ := monitorSettings_eq_ok hsettings
  obtain ⟨hdefaults, hchannels⟩ := ofDocument?_eq_ok hoverlay
  have hnames : c.overlay.names = (keyTexts document).eraseDups := names_of_foldlM hchannels
  refine ⟨document, hdocument, hnames, ?_, nodup_keyTexts (unambiguous_channelEntries hdocument),
    fun before entry later hsplit hlast => ?_⟩
  · rw [hnames]
    exact eraseDups_eq_self_iff
  · have hfilter : (channelEntries document).filter
        (fun other => other.1.keyPoints == entry.1.keyPoints) =
          before.filter (fun other => other.1.keyPoints == entry.1.keyPoints) ++ [entry] := by
      have hlater : later.filter (fun other => other.1.keyPoints == entry.1.keyPoints) = [] := by
        rw [List.filter_eq_nil_iff]
        intro other hother heq
        exact hlast (List.mem_map.mpr ⟨other, hother, eq_of_beq heq⟩)
      rw [hsplit, List.filter_append, List.filter_cons_of_pos (by simp), hlater]
    have hlookup := lookup_of_foldlM hchannels entry.1.keyPoints
    rw [hfilter, List.getLast?_concat] at hlookup
    obtain ⟨o, hreads, hfound⟩ := hlookup
    have hblock : c.overlay.blockAt entry.1.keyPoints = o := by
      rw [Overlay.blockAt, hfound, Option.getD_some]
    refine ⟨o.applyTo (c.overlay.defaults.applyTo c.base.settings), ?_, hreads.holds _⟩
    rw [settingsAt, hblock]
    exact Settings.check_eq_ok_iff.mpr
      ⟨rfl, hreads.valid_applyTo (hdefaults.valid_applyTo hvalid)⟩

end Loading

/-- Two keys with one text, an integer and a text. -/
def doubled : Sources where
  ini := none
  overlay := some
    "channels:\n  1:\n    window_size: 3\n  '1':\n    period_unit: 5\n".toUTF8.toList
  environment := .empty

/-- What the first block of `doubled` gives for the window, and the second one for the unit. -/
theorem blocks_doubled {document : Option Yaml.Value}
    (h : doubled.overlay.mapM readDocument = .ok document) :
    ∃ first second window period, channelEntries document = [first, second] ∧
      first.1.keyPoints = Text.stringPoints "1" ∧ second.1.keyPoints = Text.stringPoints "1" ∧
      blockValue? first.2 Override.windowKey = some window ∧ Override.whole window = .ok 3 ∧
      blockValue? second.2 Override.periodUnitKey = some period ∧
      Override.real period = .ok 5 := by
  have hread {β : Type} (f : Option Yaml.Value → β) {x : β}
      (hx : (doubled.overlay.mapM readDocument).toOption.map f = some x) : f document = x := by
    rw [h] at hx
    exact Option.some.inj hx
  have hkeys : keyTexts document = [Text.stringPoints "1", Text.stringPoints "1"] :=
    hread keyTexts (by decide +kernel)
  have hwindow := hread (x := [some (some 3), none]) (fun document =>
    (channelEntries document).map fun entry =>
      (blockValue? entry.2 Override.windowKey).map (Override.whole · |>.toOption))
    (by decide +kernel)
  have hperiod := hread (x := [none, some (some 5)]) (fun document =>
    (channelEntries document).map fun entry =>
      (blockValue? entry.2 Override.periodUnitKey).map (Override.real · |>.toOption))
    (by decide +kernel)
  obtain ⟨first, rest, hentries, hfirst, hrest⟩ := List.map_eq_cons_iff.mp hkeys
  obtain ⟨second, rest, rfl, hsecond, hrest⟩ := List.map_eq_cons_iff.mp hrest
  cases List.map_eq_nil_iff.mp hrest
  simp only [hentries, List.map_cons, List.map_nil, List.cons.injEq, and_true] at hwindow hperiod
  obtain ⟨window, hwindow, hwhole⟩ := Option.map_eq_some_iff.mp hwindow.1
  obtain ⟨period, hperiod, hreal⟩ := Option.map_eq_some_iff.mp hperiod.2
  exact ⟨first, second, window, period, hentries, hfirst, hsecond, hwindow,
    toOption_eq_some_iff.mp hwhole, hperiod, toOption_eq_some_iff.mp hreal⟩

theorem blocks_kept_unless_same_text_doubled :
    ∃ c settings, doubled.load = .ok c ∧ c.overlay.names = [Text.stringPoints "1"] ∧
      c.settingsFor "1" = .ok settings ∧ settings.periodUnit = 5 := by
  have hload : doubled.load.isOk := by decide +kernel
  obtain ⟨c, hc⟩ := isOk_iff_exists.mp hload
  obtain ⟨document, hdocument, hnames, -, -, hlast⟩ := blocks_kept_unless_same_text hc
  obtain ⟨first, second, -, period, hentries, hfirst, hsecond, -, -, hperiod, hreal⟩ :=
    blocks_doubled hdocument
  obtain ⟨settings, hsettings, hholds⟩ := hlast [first] second [] hentries List.not_mem_nil
  rw [hsecond] at hsettings
  refine ⟨c, settings, hc, ?_, hsettings, ?_⟩
  · rw [hnames, keyTexts, hentries]
    simp [hfirst, hsecond, List.eraseDups_cons]
  · exact (Except.ok.inj (hreal.symm.trans (hholds.periodUnit period hperiod))).symm

/-- A block is lost without a word. -/
theorem block_lost_doubled :
    ∃ document c, doubled.overlay.mapM readDocument = .ok document ∧ doubled.load = .ok c ∧
      c.overlay.names.length < (channelEntries document).length ∧
      ∃ entry ∈ channelEntries document, ∃ settings,
        c.settingsAt entry.1.keyPoints = .ok settings ∧ ¬ Holds entry.2 settings := by
  have hload : doubled.load.toOption.map (fun c => (c.overlay.names.length,
      (c.settingsAt (Text.stringPoints "1")).toOption.map (·.window))) =
        some (1, some 10) := by decide +kernel
  obtain ⟨c, hc, hlost⟩ := Option.map_eq_some_iff.mp hload
  obtain ⟨hlength, hwindow⟩ := Prod.mk.inj hlost
  obtain ⟨settings, hsettings, hten⟩ := Option.map_eq_some_iff.mp hwindow
  have hc := toOption_eq_some_iff.mp hc
  obtain ⟨ini, document, -, hdocument, -, -⟩ := load_eq_ok hc
  obtain ⟨first, second, window, -, hentries, hfirst, -, hwindow, hthree, -, -⟩ :=
    blocks_doubled hdocument
  refine ⟨document, c, hdocument, hc, ?_, first, ?_, settings, ?_, fun hholds => ?_⟩
  · rw [hlength, hentries]
    exact Nat.one_lt_two
  · rw [hentries]
    exact List.mem_cons_self
  · rw [hfirst]
    exact toOption_eq_some_iff.mp hsettings
  · have hheld := Except.ok.inj ((hholds.window window hwindow).symm.trans hthree)
    rw [hten] at hheld
    cases hheld

end SendMeter.Configuration
