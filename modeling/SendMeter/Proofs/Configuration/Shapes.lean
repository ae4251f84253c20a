import SendMeter.Proofs.Configuration.Faults

namespace SendMeter.Configuration

open Override (LawfulValidator Validator)

/-- A mapping, or nothing in its place. -/
def IsNullOrMapping (v : Yaml.Value) : Prop :=
  v = .null ∨ ∃ entries, v = .map entries

/-- A document that has what is asked for at all levels: as a whole, as its block for all channels
and as its channels, and as the block of each channel. What is absent is null. -/
structure HasShape (AskedFor : Yaml.Value → Prop) (document : Yaml.Value) : Prop where
  whole : AskedFor document
  defaults : AskedFor (defaultsBlock (some document))
  channels : AskedFor (channelsValue document)
  blocks : ∀ entry ∈ channelEntries (some document), AskedFor entry.2

variable {document : Yaml.Value}

section General

variable [Validator]

/-- Blocks that can be read stand for mappings. -/
theorem hasShape_of_isReadable (hdocument : StandsForMapping document)
    (hchannels : StandsForMapping (channelsValue document))
    (hblocks : ∀ b ∈ documentBlocks document, b.IsReadable) :
    HasShape StandsForMapping document := by
  refine ⟨hdocument, ?_, hchannels, fun entry hmem => ?_⟩
  · obtain ⟨o, hblock⟩ := (hblocks _ List.mem_cons_self).block
    exact hblock.mapping
  · obtain ⟨o, hblock⟩ :=
      (hblocks _ (List.mem_cons_of_mem _ (List.mem_map_of_mem hmem))).block
    exact hblock.mapping

variable [LawfulValidator]

theorem ofDocument_eq_ok_iff : (∃ overlay, Overlay.ofDocument document = .ok overlay) ↔
    HasShape StandsForMapping document ∧ ∀ b ∈ documentBlocks document, b.IsReadable := by
  rw [← firstRefusal?_eq_none_iff]
  have hreading := reading_ofDocument document
  generalize Overlay.ofDocument document = result at hreading ⊢
  cases hreading with
  | notMapping hdocument hnone => exact iff_of_false (by simp) fun h => hdocument h.1.whole
  | refused hdocument hfirst => exact iff_of_false (by simp) (by simp [hfirst])
  | channelsNotMapping hchannels hnone =>
    exact iff_of_false (by simp) fun h => hchannels h.1.channels
  | read overlay hdocument hchannels hnone =>
    exact iff_of_true ⟨overlay, rfl⟩ ⟨hasShape_of_isReadable hdocument hchannels
      (firstRefusal?_eq_none_iff.mp hnone), hnone⟩

/-- If the other sources are in order, a configuration is loaded with a document of overrides exactly
if the document, its block for all channels, its channels and the blocks of the channels are mappings
or empty values, and all blocks can be read. A document of another shape is refused, and the fault is
reported as one of the configuration unless the reading stops at a key before. -/
theorem load_iff_hasShape [Yaml.Loader] {sources : Sources} {ini : Option Ini.Document}
    {base : Base} {bytes : List UInt8} (hini : sources.ini.mapM readIni = .ok ini)
    (hbase : Base.load ini sources.environment = .ok base) (hoverlay : sources.overlay = some bytes)
    (hread : readDocument bytes = .ok document) :
    ((∃ c, sources.load = .ok c) ↔
      HasShape StandsForMapping document ∧ ∀ b ∈ documentBlocks document, b.IsReadable) ∧
    (¬ HasShape StandsForMapping document →
      ∃ fault, sources.load = .error (.overlay fault) ∧
        (fault.isReported = true ↔ ¬ StopsAtKey document)) := by
  have hload := load_of_document hini hbase hoverlay hread
  have hcases := ofDocument_cases document
  rw [← ofDocument_eq_ok_iff]
  cases hresult : Overlay.ofDocument document with
  | ok overlay =>
    rw [hresult] at hload
    have hshape := (ofDocument_eq_ok_iff.mp ⟨overlay, hresult⟩).1
    exact ⟨iff_of_true ⟨_, hload⟩ ⟨overlay, rfl⟩, fun hother => absurd hshape hother⟩
  | error fault =>
    rw [hresult] at hload hcases
    refine ⟨iff_of_false ?_ (by simp), fun _ => ⟨fault, hload, ?_⟩⟩
    · rintro ⟨c, hc⟩
      rw [hload] at hc
      cases hc
    · rw [← Bool.not_eq_false]
      exact not_congr hcases

end General

/-- An empty list of channels. -/
def emptyList : List UInt8 := "channels: []\n".toUTF8.toList

theorem load_iff_hasShape_lists :
    (∃ c, (Sources.ofDocument emptyList).load = .ok c) ∧
      ∃ fault, (Sources.ofDocument listed).load = .error (.overlay fault) ∧
        fault.isReported = true := by
  obtain ⟨base, hbase⟩ := exists_load_standard
  have hini (bytes : List UInt8) : (Sources.ofDocument bytes).ini.mapM readIni = .ok none := rfl
  have hempty : (readDocument emptyList).toOption.map (fun v =>
      ((entries? v).isSome, (entries? (channelsValue v)).isSome, firstRefusal? v)) =
      some (true, true, none) := by decide +kernel
  have hlisted : (readDocument listed).toOption.map (fun v =>
      ((entries? (channelsValue v)).isSome, decide (StopsAtKey v))) = some (false, false) := by
    decide +kernel
  obtain ⟨document, hread, heq⟩ := Option.map_eq_some_iff.mp hempty
  obtain ⟨document', hread', heq'⟩ := Option.map_eq_some_iff.mp hlisted
  simp only [Prod.mk.injEq] at heq heq'
  obtain ⟨hdocument, hchannels, hnone⟩ := heq
  obtain ⟨hchannels', hgoes⟩ := heq'
  have hblocks := firstRefusal?_eq_none_iff.mp hnone
  have hshape := hasShape_of_isReadable (isSome_entries?_iff.mp hdocument)
    (isSome_entries?_iff.mp hchannels) hblocks
  have hother : ¬ HasShape StandsForMapping document' := fun h =>
    ne_true_of_eq_false hchannels' (isSome_entries?_iff.mpr h.channels)
  obtain ⟨fault, hload, hreported⟩ :=
    (load_iff_hasShape (hini listed) hbase rfl (toOption_eq_some_iff.mp hread')).2 hother
  exact ⟨(load_iff_hasShape (hini emptyList) hbase rfl
    (toOption_eq_some_iff.mp hread)).1.mpr ⟨hshape, hblocks⟩,
    fault, hload, hreported.mpr (of_decide_eq_false hgoes)⟩

theorem load_without_mapping_emptyList :
    ∃ document c, readDocument emptyList = .ok document ∧
      (Sources.ofDocument emptyList).load = .ok c ∧ ¬ HasShape IsNullOrMapping document := by
  have hload : (Sources.ofDocument emptyList).load.isOk := by decide +kernel
  have hlist : (readDocument emptyList).toOption.map (fun v =>
      match channelsValue v with
      | .list items => items.isEmpty
      | _ => false) = some true := by decide +kernel
  obtain ⟨c, hc⟩ := isOk_iff_exists.mp hload
  obtain ⟨document, hread, hvalue⟩ := Option.map_eq_some_iff.mp hlist
  refine ⟨document, c, toOption_eq_some_iff.mp hread, hc, fun hshape => ?_⟩
  obtain hnull | ⟨entries, hmap⟩ := hshape.channels
  · rw [hnull] at hvalue
    cases hvalue
  · rw [hmap] at hvalue
    cases hvalue

end SendMeter.Configuration
