import SendMeter.Proofs.Configuration.Blocks

namespace SendMeter.Configuration

open Override (LawfulValidator Validator)

variable {place : List Text.Point} {v block : Yaml.Value} {o : Override}

/-- Whether a value is read as a mapping: every empty value is one without entries. -/
def StandsForMapping (v : Yaml.Value) : Prop :=
  v.isEmpty = true ∨ ∃ entries, v = .map entries

theorem isSome_entries?_iff : (entries? v).isSome = true ↔ StandsForMapping v := by
  unfold entries? StandsForMapping
  cases hempty : v.isEmpty with
  | true => simp
  | false => cases v <;> simp

theorem standsForMapping_of_entries? {entries : List (Yaml.Value × Yaml.Value)}
    (h : entries? v = some entries) : StandsForMapping v :=
  isSome_entries?_iff.mp (by rw [h]; rfl)

theorem entries?_eq_none_iff : entries? v = none ↔ ¬ StandsForMapping v := by
  rw [← isSome_entries?_iff, Option.not_isSome_iff_eq_none]

/-- The entries of a block; a block that is no mapping has none. -/
def blockEntries (block : Yaml.Value) : List (Yaml.Value × Yaml.Value) :=
  (entries? block).getD []

/-- The value of a document under the key of the channels, null if there is none. -/
def channelsValue (document : Yaml.Value) : Yaml.Value :=
  entryOr (documentEntries (some document)) "channels"

/-- A block of a document. The block of a channel has the key of the channel. -/
structure KeyedBlock where
  key : Option Yaml.Value
  block : Yaml.Value

def KeyedBlock.ofEntry (entry : Yaml.Value × Yaml.Value) : KeyedBlock :=
  ⟨some entry.1, entry.2⟩

/-- The blocks of a document in the order in which they are read, the one for all channels first. -/
def documentBlocks (document : Yaml.Value) : List KeyedBlock :=
  ⟨none, defaultsBlock (some document)⟩ ::
    (channelEntries (some document)).map KeyedBlock.ofEntry

variable [Validator]

/-- A block that is read as an override: its keys are the names of settings, and what it gives for
them is what the override says. -/
structure IsBlock (block : Yaml.Value) (o : Override) : Prop extends Reads block o where
  mapping : StandsForMapping block
  keys : ∀ entry ∈ blockEntries block, ∃ key ∈ Override.keys, entry.1 = .text key

private theorem isBlock_null : IsBlock .null .empty :=
  ⟨⟨rfl, rfl, rfl⟩, .inl rfl, nofun⟩

/-- The override of a block, at the place of its key. -/
def KeyedBlock.read (b : KeyedBlock) : Except OverlayFault Override :=
  match b.key with
  | none => readBlock (Text.stringPoints "defaults") b.block
  | some key => do
    let name ← channelName key
    readBlock (Text.stringPoints "channels." ++ name) b.block

/-- Why a block is refused, if it is. -/
def KeyedBlock.refusal? (b : KeyedBlock) : Option OverlayFault :=
  match b.read with
  | .ok _ => none
  | .error fault => some fault

/-- Why the first block of a document is refused that is refused at all. -/
def firstRefusal? (document : Yaml.Value) : Option OverlayFault :=
  (documentBlocks document).findSome? (·.refusal?)

/-- A block that can be read, under a key that has a text. -/
structure KeyedBlock.IsReadable (b : KeyedBlock) : Prop where
  key : ∀ key, b.key = some key → ¬ IsTooLong key
  block : ∃ o, IsBlock b.block o

variable {b : KeyedBlock} {document : Yaml.Value}

/-- A key without a text is found before the block is looked at. -/
theorem KeyedBlock.read_cases (b : KeyedBlock) :
    ((∃ key, b.key = some key ∧ IsTooLong key) ∧ b.read = .error .keyTooLong) ∨
      ((∀ key, b.key = some key → ¬ IsTooLong key) ∧ ∃ place, b.read = readBlock place b.block) := by
  obtain ⟨key?, block⟩ := b
  cases key? with
  | none => exact .inr ⟨by simp, _, rfl⟩
  | some key =>
    obtain ⟨hlong, hname⟩ | ⟨hshort, hname⟩ := channelName_cases key
    · refine .inl ⟨⟨key, rfl, hlong⟩, ?_⟩
      simp only [read, hname]
      rfl
    · refine .inr ⟨fun _ heq => Option.some_inj.mp heq ▸ hshort,
        Text.stringPoints "channels." ++ key.keyPoints, ?_⟩
      simp only [read, hname]
      rfl

/-- What is read under the key of a channel is put among the blocks of the channels. -/
theorem addChannel_eq (channels : List (List Text.Point × Override))
    (entry : Yaml.Value × Yaml.Value) : addChannel channels entry =
      (KeyedBlock.ofEntry entry).read.map (putBlock channels entry.1.keyPoints) := by
  obtain ⟨-, hname⟩ | ⟨-, hname⟩ := channelName_cases entry.1
  · simp only [addChannel, KeyedBlock.read, KeyedBlock.ofEntry, hname]
    rfl
  · simp only [addChannel, KeyedBlock.read, KeyedBlock.ofEntry, hname, bind, Except.bind]
    cases readBlock (Text.stringPoints "channels." ++ entry.1.keyPoints) entry.2 <;> rfl

/-- The blocks of channels are added one by one, up to the first that is refused. -/
theorem foldlM_addChannel_cases (blocks : List (Yaml.Value × Yaml.Value))
    (channels : List (List Text.Point × Override)) :
    match (blocks.map KeyedBlock.ofEntry).findSome? (·.refusal?) with
    | none => ∃ after, blocks.foldlM addChannel channels = .ok after
    | some fault => blocks.foldlM addChannel channels = .error fault := by
  induction blocks generalizing channels with
  | nil => exact ⟨channels, rfl⟩
  | cons entry blocks ih =>
    rw [List.map_cons, List.findSome?_cons, List.foldlM_cons, addChannel_eq, KeyedBlock.refusal?]
    cases (KeyedBlock.ofEntry entry).read with
    | error fault => rfl
    | ok o => exact ih (putBlock channels entry.1.keyPoints o)

/-- How the reading of a document ends. -/
inductive Reading (document : Yaml.Value) : Except OverlayFault Overlay → Prop
  | notMapping (hdocument : ¬ StandsForMapping document) (hnone : firstRefusal? document = none) :
    Reading document (.error .notMapping)
  | refused {fault : OverlayFault} (hdocument : StandsForMapping document)
    (hfirst : firstRefusal? document = some fault) : Reading document (.error fault)
  | channelsNotMapping (hchannels : ¬ StandsForMapping (channelsValue document))
    (hnone : firstRefusal? document = none) : Reading document (.error .channelsNotMapping)
  | read (overlay : Overlay) (hdocument : StandsForMapping document)
    (hchannels : StandsForMapping (channelsValue document))
    (hnone : firstRefusal? document = none) : Reading document (.ok overlay)

/-- The block for all channels comes first. If it is read, the blocks of the channels follow. -/
theorem firstRefusal?_eq {document : Yaml.Value} {entries : List (Yaml.Value × Yaml.Value)}
    (h : entries? document = some entries) : firstRefusal? document =
      match readBlock (Text.stringPoints "defaults") (entryOr entries "defaults") with
      | .error fault => some fault
      | .ok _ => (((entries? (entryOr entries "channels")).getD []).map
          KeyedBlock.ofEntry).findSome? (·.refusal?) := by
  rw [firstRefusal?, documentBlocks, List.findSome?_cons, KeyedBlock.refusal?, KeyedBlock.read,
    defaultsBlock, channelEntries, documentEntries, Option.getD_some, h, Option.getD_some]
  cases readBlock (Text.stringPoints "defaults") (entryOr entries "defaults") <;> rfl

/-- With everything before it in order, the document decides whether sources can be loaded. -/
theorem load_of_document [Yaml.Loader] {sources : Sources} {ini : Option Ini.Document} {base : Base}
    {bytes : List UInt8} {document : Yaml.Value} (hini : sources.ini.mapM readIni = .ok ini)
    (hbase : Base.load ini sources.environment = .ok base) (hoverlay : sources.overlay = some bytes)
    (hread : readDocument bytes = .ok document) :
    sources.load =
      ((Overlay.ofDocument document).mapError .overlay).map fun overlay => ⟨base, overlay⟩ := by
  have hdocument : sources.overlay.mapM readDocument = .ok (some document) := by
    rw [hoverlay, Option.mapM_some, hread]
    rfl
  unfold Sources.load
  rw [hini, hdocument]
  simp only [bind, Except.bind, hbase, mapError_ok, Overlay.ofDocument?]
  cases Overlay.ofDocument document <;> rfl

section Lawful

variable [LawfulValidator]

/-- A block is read as an override exactly if it is a block that says this. -/
theorem readBlock_eq_ok_iff : readBlock place v = .ok o ↔ IsBlock v o := by
  constructor
  · intro h
    have hreads := reads_of_readBlock h
    obtain ⟨entries, hentries, hvalidate⟩ := readBlock_eq_ok h
    have hkeys := (LawfulValidator.admits_of_validate hvalidate).keys
    refine { hreads with mapping := standsForMapping_of_entries? hentries, keys := ?_ }
    rw [blockEntries, hentries, Option.getD_some]
    exact hkeys
  · intro h
    obtain ⟨entries, hentries⟩ := Option.isSome_iff_exists.mp (isSome_entries?_iff.mpr h.mapping)
    obtain ⟨⟨hwindow, hunit, hperiod⟩, -, hkeys⟩ := h
    rw [blockEntries, hentries, Option.getD_some] at hkeys
    rw [blockValue?_eq_given? hentries] at hwindow hunit hperiod
    have hwords : entries.all (isWordKey ·.1) = true := by
      rw [List.all_eq_true]
      intro entry hmem
      obtain ⟨key, -, hkey⟩ := hkeys entry hmem
      rw [hkey]
      rfl
    have hvalidate := LawfulValidator.validate_of_admits ⟨hwindow, hunit, hperiod, hkeys⟩
    simp only [readBlock, hentries, hwords, hvalidate, Bool.not_true, Bool.false_eq_true, if_false,
      mapError_ok]

theorem KeyedBlock.read_eq_ok_iff :
    b.read = .ok o ↔ (∀ key, b.key = some key → ¬ IsTooLong key) ∧ IsBlock b.block o := by
  obtain ⟨⟨key, hkey, hlong⟩, hread⟩ | ⟨hshort, place, hread⟩ := b.read_cases
  · rw [hread]
    exact iff_of_false (by simp) fun h => h.1 key hkey hlong
  · rw [hread, readBlock_eq_ok_iff]
    exact (and_iff_right hshort).symm

theorem KeyedBlock.refusal?_eq_none_iff : b.refusal? = none ↔ b.IsReadable := by
  unfold refusal?
  constructor
  · intro h
    split at h
    next o hread =>
      obtain ⟨hkey, hblock⟩ := read_eq_ok_iff.mp hread
      exact ⟨hkey, o, hblock⟩
    · cases h
  · rintro ⟨hkey, o, hblock⟩
    rw [read_eq_ok_iff.mpr ⟨hkey, hblock⟩]

theorem firstRefusal?_eq_none_iff :
    firstRefusal? document = none ↔ ∀ b ∈ documentBlocks document, b.IsReadable := by
  simp only [firstRefusal?, List.findSome?_eq_none_iff, KeyedBlock.refusal?_eq_none_iff]

theorem reading_ofDocument (document : Yaml.Value) :
    Reading document (Overlay.ofDocument document) := by
  have hvalue : channelsValue document = entryOr ((entries? document).getD []) "channels" := rfl
  unfold Overlay.ofDocument
  cases hdocument : entries? document with
  | none =>
    refine .notMapping (entries?_eq_none_iff.mp hdocument) ?_
    rw [firstRefusal?, documentBlocks, defaultsBlock, channelEntries, documentEntries,
      Option.getD_some, hdocument, List.findSome?_cons,
      KeyedBlock.refusal?_eq_none_iff.mpr ⟨by simp, .empty, isBlock_null⟩]
    rfl
  | some entries =>
    have hmapping := standsForMapping_of_entries? hdocument
    have hfirst := firstRefusal?_eq hdocument
    rw [hdocument, Option.getD_some] at hvalue
    dsimp only
    cases hdefaults : readBlock (Text.stringPoints "defaults") (entryOr entries "defaults") with
    | error fault =>
      rw [hdefaults] at hfirst
      exact .refused hmapping hfirst
    | ok defaults =>
      rw [hdefaults] at hfirst
      simp only [bind, Except.bind]
      cases hchannels : entries? (entryOr entries "channels") with
      | none =>
        rw [hchannels] at hfirst
        exact .channelsNotMapping (hvalue ▸ entries?_eq_none_iff.mp hchannels) hfirst
      | some blocks =>
        -- What is left of the first refusal is that of the channels, which decides the fold.
        have hfold := foldlM_addChannel_cases blocks []
        rw [hchannels, Option.getD_some] at hfirst
        dsimp only at hfirst ⊢
        rw [← hfirst] at hfold
        cases hrefusal : firstRefusal? document with
        | some fault =>
          rw [hrefusal] at hfold
          rw [hfold]
          exact .refused hmapping hrefusal
        | none =>
          rw [hrefusal] at hfold
          obtain ⟨channels, hread⟩ := hfold
          rw [hread]
          exact .read _ hmapping (hvalue ▸ standsForMapping_of_entries? hchannels) hrefusal

theorem ofDocument_of_firstRefusal? {document : Yaml.Value} {fault : OverlayFault}
    (h : firstRefusal? document = some fault) : Overlay.ofDocument document = .error fault := by
  have hreading := reading_ofDocument document
  generalize Overlay.ofDocument document = result at hreading ⊢
  cases hreading with
  | notMapping hdocument hnone => simp [hnone] at h
  | refused hdocument hfirst => rw [Option.some_inj.mp (hfirst.symm.trans h)]
  | channelsNotMapping hchannels hnone => simp [hnone] at h
  | read overlay hdocument hchannels hnone => simp [hnone] at h

end Lawful

end SendMeter.Configuration
