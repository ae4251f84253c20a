import Mathlib.Data.List.Induction
import SendMeter.Configuration.Load
import SendMeter.Proofs.History.Recorded
import SendMeter.Proofs.Override.Laws

namespace SendMeter.Configuration

open Override (Gives LawfulValidator Validator)

/-- The value that a block gives a setting, if it gives it one. Null is no value. -/
def blockValue? (block : Yaml.Value) (key : String) : Option Yaml.Value :=
  match (entries? block).bind (Yaml.Value.lookup? · key) with
  | some .null => none
  | value => value

/-- The entries of a document; nothing and a document without content have none. -/
def documentEntries (document : Option Yaml.Value) : List (Yaml.Value × Yaml.Value) :=
  (entries? (document.getD .null)).getD []

/-- The block that holds for every channel. -/
def defaultsBlock (document : Option Yaml.Value) : Yaml.Value :=
  entryOr (documentEntries document) "defaults"

/-- The blocks of single channels, each with its key. -/
def channelEntries (document : Option Yaml.Value) : List (Yaml.Value × Yaml.Value) :=
  (entries? (entryOr (documentEntries document) "channels")).getD []

/-- The block of a channel: the last one whose key has its name as its text, or an empty one. -/
def channelBlock (document : Option Yaml.Value) (name : String) : Yaml.Value :=
  (((channelEntries document).filter
    fun entry => entry.1.keyPoints == Text.stringPoints name).getLast?.map (·.2)).getD (.map [])

/-- An override that says what a block says. -/
structure Reads [Validator] (block : Yaml.Value) (o : Override) : Prop where
  window : Gives Validator.whole (¬ · < 1) (blockValue? block Override.windowKey) o.window
  periodUnit :
    Gives Validator.real ((0 : Float) < ·) (blockValue? block Override.periodUnitKey) o.periodUnit
  averagingPeriod :
    Gives Validator.real ((0 : Float) < ·) (blockValue? block Override.averagingPeriodKey)
      o.averagingPeriod

section Block

variable {v : Yaml.Value} {entries : List (Yaml.Value × Yaml.Value)}

/-- What a block gives is what its entries give. -/
theorem blockValue?_eq_given? (h : entries? v = some entries) (key : String) :
    blockValue? v key = Override.given? entries key := by
  rw [blockValue?, h, Option.bind_some, Override.given?]
  cases Yaml.Value.lookup? entries key with
  | none => rfl
  | some value => cases value <;> rfl

variable [Validator] {place : List Text.Point} {o : Override}

/-- What is validated are the entries of a block whose keys are made of code points. -/
theorem readBlock_eq_ok (h : readBlock place v = .ok o) :
    ∃ entries, entries? v = some entries ∧ Validator.validate entries = .ok o := by
  unfold readBlock at h
  split at h
  · cases h
  next entries hentries =>
    split at h
    · cases h
    · exact ⟨entries, hentries, mapError_eq_ok_iff.mp h⟩

variable [LawfulValidator]

theorem reads_of_readBlock (h : readBlock place v = .ok o) : Reads v o := by
  obtain ⟨entries, hentries, hvalidate⟩ := readBlock_eq_ok h
  have hadmits := LawfulValidator.admits_of_validate hvalidate
  constructor
  · rw [blockValue?_eq_given? hentries]
    exact hadmits.window
  · rw [blockValue?_eq_given? hentries]
    exact hadmits.periodUnit
  · rw [blockValue?_eq_given? hentries]
    exact hadmits.averagingPeriod

end Block

section Channels

variable {channels : List (List Text.Point × Override)}

private theorem lookup_replace_of_ne (channels : List (List Text.Point × Override))
    {name other : List Text.Point} (hne : other ≠ name) (o : Override) :
    (channels.map fun channel => if channel.1 == name then (name, o) else channel).lookup other =
      channels.lookup other := by
  induction channels with
  | nil => rfl
  | cons channel channels ih =>
    rw [List.map_cons, List.lookup_cons, List.lookup_cons, ih]
    by_cases heq : channel.1 = name
    · rw [if_pos (beq_iff_eq.mpr heq), heq, beq_false_of_ne hne]
    · rw [if_neg (by simpa using heq)]

private theorem lookup_replace_self {name : List Text.Point}
    (hany : channels.any (·.1 == name) = true) (o : Override) :
    (channels.map fun channel => if channel.1 == name then (name, o) else channel).lookup name =
      some o := by
  induction channels with
  | nil => cases hany
  | cons channel channels ih =>
    rw [List.map_cons, List.lookup_cons]
    by_cases heq : channel.1 = name
    · rw [if_pos (beq_iff_eq.mpr heq), beq_self_eq_true]
    · rw [List.any_cons, beq_false_of_ne heq, Bool.false_or] at hany
      rw [if_neg (by simpa using heq), beq_false_of_ne (Ne.symm heq)]
      exact ih hany

/-- A block that is put among others is found under its name, and the others under theirs. -/
theorem lookup_putBlock (channels : List (List Text.Point × Override))
    (name other : List Text.Point) (o : Override) :
    (putBlock channels name o).lookup other =
      if other = name then some o else channels.lookup other := by
  unfold putBlock
  split
  next hany =>
    split
    next heq =>
      subst other
      exact lookup_replace_self hany o
    next hne => exact lookup_replace_of_ne channels hne o
  next hnone =>
    rw [List.lookup_append]
    split
    next heq =>
      subst other
      have hlookup : channels.lookup name = none := by
        rw [List.lookup_eq_none_iff]
        intro channel hmem
        rw [bne_iff_ne]
        rintro rfl
        exact hnone (List.any_eq_true.mpr ⟨channel, hmem, beq_self_eq_true _⟩)
      rw [hlookup, List.lookup_cons, beq_self_eq_true, Option.none_or]
    next hne =>
      rw [List.lookup_cons, beq_false_of_ne hne]
      exact Option.or_none

/-- An integer with so many digits that it has no text. -/
def IsTooLong (key : Yaml.Value) : Prop :=
  ∃ n : Int, key = .int n ∧ Nat.pow 10 Numeral.digitLimit ≤ n.natAbs

theorem channelName_cases (key : Yaml.Value) :
    (IsTooLong key ∧ channelName key = .error .keyTooLong) ∨
      (¬ IsTooLong key ∧ channelName key = .ok key.keyPoints) := by
  unfold channelName
  split
  next n =>
    split
    next hlong => exact .inl ⟨⟨n, rfl, hlong⟩, rfl⟩
    next hshort =>
      refine .inr ⟨?_, rfl⟩
      rintro ⟨m, heq, hlong⟩
      cases heq
      exact hshort hlong
  next hint =>
    refine .inr ⟨?_, rfl⟩
    rintro ⟨m, rfl, -⟩
    exact hint m rfl

variable [Validator] [LawfulValidator]

theorem addChannel_eq_ok {entry : Yaml.Value × Yaml.Value}
    {after : List (List Text.Point × Override)} (h : addChannel channels entry = .ok after) :
    ∃ o, Reads entry.2 o ∧ after = putBlock channels entry.1.keyPoints o := by
  unfold addChannel at h
  obtain ⟨name, hname, h⟩ := bind_eq_ok_iff.mp h
  obtain ⟨o, hblock, h⟩ := bind_eq_ok_iff.mp h
  cases h
  obtain ⟨-, hlong⟩ | ⟨-, hpoints⟩ := channelName_cases entry.1
  · rw [hlong] at hname
    cases hname
  · rw [hpoints] at hname
    cases hname
    exact ⟨o, reads_of_readBlock hblock, rfl⟩

/-- Of all blocks under one text, the last one counts. -/
theorem lookup_of_foldlM {blocks : List (Yaml.Value × Yaml.Value)}
    (h : blocks.foldlM addChannel [] = .ok channels) (name : List Text.Point) :
    match (blocks.filter fun entry => entry.1.keyPoints == name).getLast? with
    | none => channels.lookup name = none
    | some entry => ∃ o, Reads entry.2 o ∧ channels.lookup name = some o := by
  induction blocks using List.reverseRecOn generalizing channels with
  | nil =>
    cases h
    rfl
  | append_singleton blocks entry ih =>
    rw [List.foldlM_append] at h
    obtain ⟨before, hbefore, h⟩ := bind_eq_ok_iff.mp h
    obtain ⟨after, hentry, h⟩ := bind_eq_ok_iff.mp h
    cases h
    obtain ⟨o, hreads, rfl⟩ := addChannel_eq_ok hentry
    rw [List.filter_append, lookup_putBlock]
    by_cases heq : entry.1.keyPoints = name
    · rw [List.filter_cons_of_pos (by simpa using heq), List.filter_nil, List.getLast?_concat,
        if_pos heq.symm]
      exact ⟨o, hreads, rfl⟩
    · rw [List.filter_cons_of_neg (by simpa using heq), List.filter_nil, List.append_nil,
        if_neg (Ne.symm heq)]
      exact ih hbefore

end Channels

section Documents

variable [Validator] [LawfulValidator]

/-- The two parts of an overlay that was read. -/
theorem ofDocument?_eq_ok {document : Option Yaml.Value} {overlay : Overlay}
    (h : Overlay.ofDocument? document = .ok overlay) :
    Reads (defaultsBlock document) overlay.defaults ∧
      (channelEntries document).foldlM addChannel [] = .ok overlay.channels := by
  cases document with
  | none =>
    cases h
    exact ⟨⟨rfl, rfl, rfl⟩, rfl⟩
  | some v =>
    unfold Overlay.ofDocument? Overlay.ofDocument at h
    dsimp only at h
    split at h
    · cases h
    next entries hentries =>
      obtain ⟨defaults, hdefaults, h⟩ := bind_eq_ok_iff.mp h
      split at h
      · cases h
      next blocks hblocks =>
        obtain ⟨channels, hchannels, h⟩ := bind_eq_ok_iff.mp h
        cases h
        have hdocument : documentEntries (some v) = entries := by
          rw [documentEntries, Option.getD_some, hentries, Option.getD_some]
        have hchannelEntries : channelEntries (some v) = blocks := by
          rw [channelEntries, hdocument, hblocks, Option.getD_some]
        rw [defaultsBlock, hdocument, hchannelEntries]
        exact ⟨reads_of_readBlock hdefaults, hchannels⟩

/-- An overlay that was read says what the blocks of its document say. -/
theorem reads_of_ofDocument? {document : Option Yaml.Value} {overlay : Overlay}
    (h : Overlay.ofDocument? document = .ok overlay) :
    Reads (defaultsBlock document) overlay.defaults ∧
      ∀ name, Reads (channelBlock document name) (overlay.blockOf name) := by
  obtain ⟨hdefaults, hchannels⟩ := ofDocument?_eq_ok h
  refine ⟨hdefaults, fun name => ?_⟩
  have hlast := lookup_of_foldlM hchannels (Text.stringPoints name)
  rw [channelBlock, Overlay.blockOf]
  split at hlast
  next hnone =>
    rw [hnone, hlast]
    exact ⟨rfl, rfl, rfl⟩
  next entry hsome =>
    obtain ⟨o, hreads, hlookup⟩ := hlast
    rw [hsome, hlookup]
    exact hreads

end Documents

end SendMeter.Configuration
