import SendMeter.Proofs.Configuration.Documents

namespace SendMeter.Configuration

open Override (LawfulValidator Validator)

/-- Whether a fault is reported as one of the configuration. -/
def OverlayFault.isReported : OverlayFault → Bool
  | keyNotText => false
  | keyTooLong => false
  | _ => true

/-- A block with a key that is not made of code points. -/
def HasStrayKey (block : Yaml.Value) : Prop :=
  ∃ entry ∈ blockEntries block, isWordKey entry.1 = false

/-- A block whose faults are not reported. -/
def KeyedBlock.IsMiskeyed (b : KeyedBlock) : Prop :=
  (∃ key, b.key = some key ∧ IsTooLong key) ∨ HasStrayKey b.block

/-- The reading of a document comes to a block whose faults are not reported: all blocks before it
can be read. -/
def StopsAtKey [Validator] (document : Yaml.Value) : Prop :=
  ∃ before b after, documentBlocks document = before ++ b :: after ∧
    (∀ earlier ∈ before, earlier.IsReadable) ∧ b.IsMiskeyed

variable {block document : Yaml.Value} {b : KeyedBlock}

private theorem hasStrayKey_iff {entries : List (Yaml.Value × Yaml.Value)}
    (h : entries? block = some entries) :
    HasStrayKey block ↔ entries.all (isWordKey ·.1) = false := by
  rw [HasStrayKey, blockEntries, h, Option.getD_some, List.all_eq_false]
  simp

section General

variable [Validator]

/-- A fault of a block is reported unless a key of the block is no word. -/
theorem readBlock_cases (place : List Text.Point) (block : Yaml.Value) :
    match readBlock place block with
    | .ok _ => ¬ HasStrayKey block
    | .error fault => fault.isReported = false ↔ HasStrayKey block := by
  unfold readBlock
  cases hentries : entries? block with
  | none =>
    have hnone : blockEntries block = [] := by rw [blockEntries, hentries, Option.getD_none]
    refine iff_of_false Bool.noConfusion ?_
    rintro ⟨entry, hmem, -⟩
    rw [hnone] at hmem
    cases hmem
  | some entries =>
    rw [hasStrayKey_iff hentries]
    dsimp only
    cases hwords : entries.all (isWordKey ·.1) with
    | false => exact iff_of_true rfl rfl
    | true =>
      cases Validator.validate entries with
      | error issues =>
        simp only [mapError_error]
        exact iff_of_false Bool.noConfusion Bool.noConfusion
      | ok o => simp

theorem KeyedBlock.isMiskeyed_iff :
    b.IsMiskeyed ↔ ∃ fault, b.refusal? = some fault ∧ fault.isReported = false := by
  obtain ⟨hlong, hread⟩ | ⟨hshort, place, hread⟩ := b.read_cases
  · exact iff_of_true (.inl hlong) ⟨.keyTooLong, by rw [refusal?, hread], rfl⟩
  · have hcases := readBlock_cases place b.block
    have hnot : ¬ ∃ key, b.key = some key ∧ IsTooLong key := by
      rintro ⟨key, hkey, hlong⟩
      exact hshort key hkey hlong
    -- With a key that has a text, everything is up to the keys of the block.
    rw [IsMiskeyed, or_iff_right hnot, refusal?, hread]
    cases hblock : readBlock place b.block with
    | error fault =>
      rw [hblock] at hcases
      simpa using hcases.symm
    | ok o =>
      rw [hblock] at hcases
      simpa using hcases

variable [LawfulValidator]

theorem stopsAtKey_iff : StopsAtKey document ↔
    ∃ fault, firstRefusal? document = some fault ∧ fault.isReported = false := by
  simp only [StopsAtKey, KeyedBlock.isMiskeyed_iff, ← KeyedBlock.refusal?_eq_none_iff, firstRefusal?,
    List.findSome?_eq_some_iff]
  constructor
  · rintro ⟨before, b, after, heq, hbefore, fault, hrefusal, hreported⟩
    exact ⟨fault, ⟨before, b, after, heq, hrefusal, hbefore⟩, hreported⟩
  · rintro ⟨fault, ⟨before, b, after, heq, hrefusal, hbefore⟩, hreported⟩
    exact ⟨before, b, after, heq, hbefore, fault, hrefusal, hreported⟩

/-- A document is read, or refused with a fault that is reported, or its reading stops at a key. -/
theorem ofDocument_cases (document : Yaml.Value) :
    match Overlay.ofDocument document with
    | .ok _ => ¬ StopsAtKey document
    | .error fault => fault.isReported = false ↔ StopsAtKey document := by
  rw [stopsAtKey_iff]
  have hreading := reading_ofDocument document
  generalize Overlay.ofDocument document = result at hreading ⊢
  cases hreading with
  | notMapping hdocument hnone => simp [hnone, OverlayFault.isReported]
  | refused hdocument hfirst => simp [hfirst]
  | channelsNotMapping hchannels hnone => simp [hnone, OverlayFault.isReported]
  | read overlay hdocument hchannels hnone => simp [hnone]

end General

/-- A document of overrides, and nothing else. -/
def Sources.ofDocument (bytes : List UInt8) : Sources where
  ini := none
  overlay := some bytes
  environment := .empty

theorem exists_load_standard : ∃ base, Base.load none .empty = .ok base :=
  isOk_iff_exists.mp (by decide +kernel)

section Loading

variable [Yaml.Loader] [Validator]

theorem load_ofDocument {bytes : List UInt8} (hread : readDocument bytes = .ok document) :
    ∃ base, (Sources.ofDocument bytes).load =
      ((Overlay.ofDocument document).mapError .overlay).map fun overlay => ⟨base, overlay⟩ := by
  obtain ⟨base, hbase⟩ := exists_load_standard
  exact ⟨base, load_of_document rfl hbase rfl hread⟩

variable [LawfulValidator]

/-- Whatever a document of overrides is made of, the configuration is loaded with it, or refused with
a fault that is reported as one of the configuration. The only exception is a document the reading
of which comes to a block with a key that is no word, or to a channel the key of which has too many
digits: then another fault goes through. -/
theorem load_reported_unless_stopped_at_key {bytes : List UInt8}
    (hread : readDocument bytes = .ok document) :
    (¬ StopsAtKey document →
      (∃ c, (Sources.ofDocument bytes).load = .ok c) ∨
        ∃ fault, (Sources.ofDocument bytes).load = .error (.overlay fault) ∧
          fault.isReported = true) ∧
    (StopsAtKey document →
      ∃ fault, (Sources.ofDocument bytes).load = .error (.overlay fault) ∧
        fault.isReported = false) := by
  obtain ⟨base, hload⟩ := load_ofDocument hread
  have hcases := ofDocument_cases document
  cases hresult : Overlay.ofDocument document with
  | ok overlay =>
    rw [hresult] at hload hcases
    exact ⟨fun _ => .inl ⟨_, hload⟩, fun hstops => absurd hstops hcases⟩
  | error fault =>
    rw [hresult] at hload hcases
    refine ⟨fun hgoes => .inr ⟨fault, hload, ?_⟩, fun hstops => ⟨fault, hload, hcases.mpr hstops⟩⟩
    exact Bool.eq_true_of_not_eq_false fun hreported => hgoes (hcases.mp hreported)

instance (document : Yaml.Value) : Decidable (StopsAtKey document) :=
  decidable_of_iff ((firstRefusal? document).any (!·.isReported) = true) <| by
    rw [stopsAtKey_iff, Option.any_eq_true]
    simp only [Bool.not_eq_true']

end Loading

/-- A block with a number for a key. -/
def strayKey : List UInt8 := "defaults:\n  1: 2\n".toUTF8.toList

/-- A list of channels, behind a block that is read. -/
def listed : List UInt8 := "defaults:\n  window_size: 2\nchannels:\n  - orders\n".toUTF8.toList

theorem load_reported_unless_stopped_at_key_listed :
    (∃ fault, (Sources.ofDocument strayKey).load = .error (.overlay fault) ∧
      fault.isReported = false) ∧
    ∃ fault, (Sources.ofDocument listed).load = .error (.overlay fault) ∧
      fault.isReported = true := by
  have hstray : (readDocument strayKey).toOption.map (fun v => decide (StopsAtKey v)) =
      some true := by decide +kernel
  have hlisted : (readDocument listed).toOption.map (fun v => decide (StopsAtKey v)) =
      some false := by decide +kernel
  have hfailed : (Sources.ofDocument listed).load.isOk = false := by decide +kernel
  obtain ⟨document, hread, hstops⟩ := Option.map_eq_some_iff.mp hstray
  obtain ⟨document', hread', hgoes⟩ := Option.map_eq_some_iff.mp hlisted
  refine ⟨(load_reported_unless_stopped_at_key (toOption_eq_some_iff.mp hread)).2
    (of_decide_eq_true hstops), ?_⟩
  obtain hloaded | hrefused := (load_reported_unless_stopped_at_key
    (toOption_eq_some_iff.mp hread')).1 (of_decide_eq_false hgoes)
  · exact absurd (isOk_iff_exists.mpr hloaded) (ne_true_of_eq_false hfailed)
  · exact hrefused

theorem load_not_reported_strayKey :
    ∃ document, readDocument strayKey = .ok document ∧
      (Sources.ofDocument strayKey).load = .error (.overlay .keyNotText) ∧
      OverlayFault.keyNotText.isReported = false := by
  have hstray : (readDocument strayKey).toOption.map firstRefusal? = some (some .keyNotText) := by
    decide +kernel
  obtain ⟨document, hread, hfirst⟩ := Option.map_eq_some_iff.mp hstray
  obtain ⟨base, hload⟩ := load_ofDocument (toOption_eq_some_iff.mp hread)
  rw [ofDocument_of_firstRefusal? hfirst] at hload
  exact ⟨document, toOption_eq_some_iff.mp hread, hload, rfl⟩

end SendMeter.Configuration
