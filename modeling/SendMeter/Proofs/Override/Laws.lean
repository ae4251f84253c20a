import Mathlib.Data.Set.List
import SendMeter.Override.Block

namespace SendMeter.Override

/-- A value that says something, unlike null. -/
def nonNull? : Yaml.Value → Option Yaml.Value
  | .null => none
  | value => some value

/-- The value that entries give a setting, if they give it one. -/
def given? (entries : List (Yaml.Value × Yaml.Value)) (key : String) : Option Yaml.Value :=
  (Yaml.Value.lookup? entries key).bind nonNull?

/-- What is given for a setting is no value, or one that can be read and is valid. -/
def Gives {β : Type} (read : Yaml.Value → Except Problem β) (valid : β → Prop) :
    Option Yaml.Value → Option β → Prop
  | none, setting => setting = none
  | some value, setting => ∃ x, read value = .ok x ∧ valid x ∧ setting = some x

/-- Entries under the names of settings only, with windows of at least one and positive periods, and
the override that says the same. -/
structure Admits [Validator] (entries : List (Yaml.Value × Yaml.Value)) (o : Override) : Prop where
  window : Gives Validator.whole (¬ · < 1) (given? entries windowKey) o.window
  periodUnit : Gives Validator.real ((0 : Float) < ·) (given? entries periodUnitKey) o.periodUnit
  averagingPeriod :
    Gives Validator.real ((0 : Float) < ·) (given? entries averagingPeriodKey) o.averagingPeriod
  keys : ∀ entry ∈ entries, ∃ key ∈ keys, entry.1 = .text key

/-- A validator that holds blocks to what their fields are declared to be, and to nothing else. -/
class LawfulValidator [Validator] : Prop where
  /-- What is validated is an override that the entries admit. -/
  admits_of_validate : ∀ {entries : List (Yaml.Value × Yaml.Value)} {o : Override},
    Validator.validate entries = .ok o → Admits entries o
  /-- Entries that admit an override are validated. -/
  validate_of_admits : ∀ {entries : List (Yaml.Value × Yaml.Value)} {o : Override},
    Admits entries o → Validator.validate entries = .ok o

section Settings

variable {β : Type} {value : Yaml.Value} {known : List (String × Yaml.Value)}

private theorem nonNull?_of_ne (h : value ≠ .null) : nonNull? value = some value := by
  cases value with
  | null => exact absurd rfl h
  | _ => rfl

theorem readWindow_eq_ok_iff {setting : Option Int} :
    readWindow value = .ok setting ↔ Gives whole (¬ · < 1) (nonNull? value) setting := by
  unfold readWindow
  split
  · simp [nonNull?, Gives, eq_comm]
  next hne =>
    rw [nonNull?_of_ne hne, Gives]
    cases whole value with
    | error problem => simp
    | ok n =>
      by_cases hvalid : n < 1
      · simp [hvalid]
      · simp [hvalid, Int.not_lt.mp hvalid, eq_comm]

theorem readPeriod_eq_ok_iff {setting : Option Float} :
    readPeriod value = .ok setting ↔ Gives real ((0 : Float) < ·) (nonNull? value) setting := by
  unfold readPeriod
  split
  · simp [nonNull?, Gives, eq_comm]
  next hne =>
    rw [nonNull?_of_ne hne, Gives]
    cases real value with
    | error problem => simp
    | ok x => by_cases hvalid : (0 : Float) < x <;> simp [hvalid, eq_comm]

/-- A setting is read without an issue exactly if it is what is given for it. -/
theorem readSetting_eq_iff {key : String} {readSet : Yaml.Value → Except Problem (Option β)}
    {read : Yaml.Value → Except Problem β} {valid : β → Prop} {setting : Option β}
    (hread : ∀ {value : Yaml.Value} {setting : Option β},
      readSet value = .ok setting ↔ Gives read valid (nonNull? value) setting) :
    readSetting known key readSet = (setting, []) ↔
      Gives read valid ((known.lookup key).bind nonNull?) setting := by
  unfold readSetting
  cases known.lookup key with
  | none => simp [Gives, eq_comm]
  | some value =>
    rw [Option.bind_some, ← hread]
    dsimp only
    cases readSet value <;> simp

private theorem unknownKeys_eq_nil_iff :
    unknownKeys known = [] ↔ ∀ entry ∈ known, entry.1 ∈ keys := by
  rw [unknownKeys, List.map_eq_nil_iff, List.filter_eq_nil_iff]
  simp

theorem ofBlock_eq_ok_iff {o : Override} : ofBlock known = .ok o ↔
    readSetting known windowKey readWindow = (o.window, []) ∧
      readSetting known periodUnitKey readPeriod = (o.periodUnit, []) ∧
      readSetting known averagingPeriodKey readPeriod = (o.averagingPeriod, []) ∧
      ∀ entry ∈ known, entry.1 ∈ keys := by
  rw [← unknownKeys_eq_nil_iff]
  unfold ofBlock
  dsimp only
  constructor
  · intro h
    split at h
    next hissues =>
      simp only [List.append_eq_nil_iff] at hissues
      obtain ⟨⟨⟨hwindow, hunit⟩, hperiod⟩, hunknown⟩ := hissues
      cases h
      exact ⟨Prod.ext rfl hwindow, Prod.ext rfl hunit, Prod.ext rfl hperiod, hunknown⟩
    · cases h
  · rintro ⟨hwindow, hunit, hperiod, hunknown⟩
    rw [hwindow, hunit, hperiod, hunknown]
    rfl

end Settings

section Entries

variable {entries : List (Yaml.Value × Yaml.Value)} {known : List (String × Yaml.Value)}

theorem sameKey_text (key name : String) :
    (Yaml.Value.text key).sameKey (.text name) = (key == name) := rfl

theorem mapM_textEntry?_eq_some_iff : entries.mapM textEntry? = some known ↔
    entries = known.map fun entry => (.text entry.1, entry.2) := by
  constructor
  · intro h
    induction entries generalizing known with
    | nil =>
      cases h
      rfl
    | cons entry entries ih =>
      rw [List.mapM_cons] at h
      obtain ⟨first, hfirst, h⟩ := Option.bind_eq_some_iff.mp h
      obtain ⟨rest, hrest, h⟩ := Option.bind_eq_some_iff.mp h
      cases h
      obtain ⟨key, value⟩ := entry
      cases key <;> cases hfirst
      rw [List.map_cons, ← ih hrest]
  · rintro rfl
    induction known with
    | nil => rfl
    | cons entry known ih =>
      rw [List.map_cons, List.mapM_cons, ih]
      rfl

/-- Entries whose keys are texts are looked up by these texts. -/
theorem lookup_textEntries (h : entries.mapM textEntry? = some known) (key : String) :
    known.lookup key = Yaml.Value.lookup? entries key := by
  obtain rfl := mapM_textEntry?_eq_some_iff.mp h
  clear h
  unfold Yaml.Value.lookup?
  induction known with
  | nil => rfl
  | cons entry known ih =>
    rw [List.lookup_cons, List.map_cons, List.find?_cons, sameKey_text]
    by_cases hname : entry.1 = key
    · rw [hname]
      simp
    · rw [beq_false_of_ne hname, beq_false_of_ne (Ne.symm hname)]
      exact ih

/-- Entries whose keys are names of settings, as what is looked up in them. -/
theorem exists_known (h : ∀ entry ∈ entries, ∃ key ∈ keys, entry.1 = .text key) :
    ∃ known, entries.mapM textEntry? = some known := by
  have hrange : entries ∈ Set.range (List.map fun entry : String × Yaml.Value =>
      (Yaml.Value.text entry.1, entry.2)) := by
    rw [Set.range_list_map]
    intro entry hmem
    obtain ⟨key, -, hkey⟩ := h entry hmem
    exact ⟨(key, entry.2), Prod.ext hkey.symm rfl⟩
  obtain ⟨known, rfl⟩ := hrange
  exact ⟨known, mapM_textEntry?_eq_some_iff.mpr rfl⟩

private theorem keys_iff (h : entries.mapM textEntry? = some known) :
    (∀ entry ∈ entries, ∃ key ∈ keys, entry.1 = .text key) ↔ ∀ entry ∈ known, entry.1 ∈ keys := by
  obtain rfl := mapM_textEntry?_eq_some_iff.mp h
  rw [List.forall_mem_map]
  refine forall₂_congr fun entry _ => ⟨?_, fun hkey => ⟨entry.1, hkey, rfl⟩⟩
  rintro ⟨key, hkey, heq⟩
  cases heq
  exact hkey

/-- With texts for keys, entries are left to their settings. -/
theorem ofBlock_eq_ok_iff_admits (h : entries.mapM textEntry? = some known) {o : Override} :
    ofBlock known = .ok o ↔ Admits entries o := by
  have hgives {β : Type} {key : String} {read : Yaml.Value → Except Problem β} {valid : β → Prop}
      {setting : Option β} : Gives read valid ((known.lookup key).bind nonNull?) setting ↔
        Gives read valid (given? entries key) setting := by
    rw [given?, lookup_textEntries h]
  rw [ofBlock_eq_ok_iff, readSetting_eq_iff readWindow_eq_ok_iff,
    readSetting_eq_iff readPeriod_eq_ok_iff, readSetting_eq_iff readPeriod_eq_ok_iff, hgives,
    hgives, hgives, ← keys_iff h]
  exact ⟨fun ⟨hwindow, hunit, hperiod, hkeys⟩ => ⟨hwindow, hunit, hperiod, hkeys⟩,
    fun ⟨hwindow, hunit, hperiod, hkeys⟩ => ⟨hwindow, hunit, hperiod, hkeys⟩⟩

/-- Entries are read as an override exactly if they admit it. -/
theorem ofEntries_eq_ok_iff {o : Override} : ofEntries entries = .ok o ↔ Admits entries o := by
  unfold ofEntries
  cases hknown : entries.mapM textEntry? with
  | none =>
    refine iff_of_false nofun fun hadmits => ?_
    obtain ⟨known, hsome⟩ := exists_known hadmits.keys
    rw [hknown] at hsome
    cases hsome
  | some known => exact ofBlock_eq_ok_iff_admits hknown

instance : LawfulValidator where
  admits_of_validate := ofEntries_eq_ok_iff.mp
  validate_of_admits := ofEntries_eq_ok_iff.mpr

end Entries

end SendMeter.Override
