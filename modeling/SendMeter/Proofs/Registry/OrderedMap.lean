import SendMeter.Proofs.Fleet.Additions
import SendMeter.Proofs.Registry.Steps

namespace SendMeter

variable {α : Type} [Scalar α]

private theorem Monitor.name_of_complete {m after : Monitor α} {t taken : Ticket α} {success : Bool}
    {given : Option α} {now : α} (h : m.complete t success given now = .ok (after, taken)) :
    after.name = m.name := by
  obtain ⟨-, ⟨-, rfl, -⟩ | ⟨-, hrecord, -⟩⟩ := complete_eq_ok h
  · rfl
  · cases success with
    | true =>
      obtain ⟨outcomes, durations, -, -, rfl⟩ := recordSuccess_eq_ok hrecord
      rfl
    | false =>
      obtain ⟨outcomes, failures, -, -, rfl⟩ := recordFailure_eq_ok hrecord
      rfl

namespace Fleet

variable {f g : Fleet α} {hook : Hook α}

/-- A hook changes the monitor that it is called on, and no other one. -/
theorem getElem?_monitors_of_apply (h : f.apply hook = .ok g) {monitor : Nat}
    (hne : hook.monitor ≠ monitor) : g.monitors[monitor]? = f.monitors[monitor]? := by
  cases hook with
  | start started now =>
    obtain ⟨m, after, t, -, -, rfl⟩ := apply_start_eq_ok h
    exact List.getElem?_set_ne hne
  | complete settler ticket success duration now =>
    obtain ⟨m, t, completed, taken, -, -, -, rfl⟩ := apply_complete_eq_ok h
    exact List.getElem?_set_ne hne

theorem getElem?_monitors_run {hooks : List (Hook α)} {monitor : Nat}
    (hne : ∀ hook ∈ hooks, hook.monitor ≠ monitor) (f : Fleet α) :
    (f.run hooks).monitors[monitor]? = f.monitors[monitor]? := by
  induction hooks generalizing f with
  | nil => rfl
  | cons hook hooks ih =>
    rw [run_cons, ih fun hook hmem => hne hook (List.mem_cons_of_mem _ hmem)]
    cases hg : f.apply hook with
    | error e => rw [after_of_error hg]
    | ok g =>
      rw [after_of_ok hg]
      exact getElem?_monitors_of_apply hg (hne hook List.mem_cons_self)

/-- Every monitor keeps its number and its name. -/
def KeepsNames (f g : Fleet α) : Prop :=
  ∀ (monitor : Nat) (m : Monitor α), f.monitors[monitor]? = some m →
    ∃ m', g.monitors[monitor]? = some m' ∧ m'.name = m.name

omit [Scalar α] in
theorem KeepsNames.refl (f : Fleet α) : f.KeepsNames f :=
  fun _ m hm => ⟨m, hm, rfl⟩

omit [Scalar α] in
theorem KeepsNames.trans {k : Fleet α} (h : f.KeepsNames g) (h' : g.KeepsNames k) :
    f.KeepsNames k := by
  intro monitor m hm
  obtain ⟨m', hm', hname⟩ := h monitor m hm
  obtain ⟨m'', hm'', hname'⟩ := h' monitor m' hm'
  exact ⟨m'', hm'', hname'.trans hname⟩

omit [Scalar α] in
theorem KeepsNames.add (f : Fleet α) (m : Monitor α) : f.KeepsNames (f.add m) := by
  intro monitor m' hm'
  refine ⟨m', ?_, rfl⟩
  rw [monitors_add, List.getElem?_append_left (List.getElem?_eq_some_iff.mp hm').1]
  exact hm'

theorem keepsNames_of_apply (h : f.apply hook = .ok g) : f.KeepsNames g := by
  intro monitor m hm
  have hlt := (List.getElem?_eq_some_iff.mp hm).1
  by_cases hne : hook.monitor = monitor
  · subst monitor
    cases hook with
    | start started now =>
      obtain ⟨m', after, t, hm', hstart, rfl⟩ := apply_start_eq_ok h
      rw [Hook.monitor] at hm hlt ⊢
      rw [hm] at hm'
      cases hm'
      obtain ⟨sends, -, rfl, -⟩ := Monitor.start_eq_ok hstart
      exact ⟨_, List.getElem?_set_self hlt, rfl⟩
    | complete settler ticket success duration now =>
      obtain ⟨m', t, completed, taken, hm', -, hcomplete, rfl⟩ := apply_complete_eq_ok h
      rw [Hook.monitor] at hm hlt ⊢
      rw [hm] at hm'
      cases hm'
      exact ⟨completed, List.getElem?_set_self hlt, Monitor.name_of_complete hcomplete⟩
  · exact ⟨m, (getElem?_monitors_of_apply h hne).trans hm, rfl⟩

end Fleet

namespace Registry

variable {r after : Registry α} {source : SettingsSource α} {name : String} {now : α}
  {monitor : Nat}

/-- Names are distinct and not empty, and each of them stands for its own monitor, which has this
name. -/
structure WellKept (r : Registry α) : Prop where
  name_ne_empty : ∀ channel ∈ r.channels, channel.1 ≠ ""
  nodup_names : r.names.Nodup
  nodup_monitors : (r.channels.map (·.2)).Nodup
  name_eq : ∀ channel ∈ r.channels, ∃ m, r.fleet.monitors[channel.2]? = some m ∧ m.name = channel.1

namespace WellKept

omit [Scalar α] in
theorem of_channels_eq_nil (h : r.channels = []) : r.WellKept := by
  refine ⟨?_, ?_, ?_, ?_⟩
  · rw [h]
    exact fun channel hmem => by cases hmem
  · rw [names, h]
    exact List.nodup_nil
  · rw [h]
    exact List.nodup_nil
  · rw [h]
    exact fun channel hmem => by cases hmem

omit [Scalar α] in
theorem of_keepsNames (h : r.WellKept) (hchannels : after.channels = r.channels)
    (hfleet : r.fleet.KeepsNames after.fleet) : after.WellKept := by
  refine ⟨?_, ?_, ?_, ?_⟩
  · rw [hchannels]
    exact h.name_ne_empty
  · rw [names, hchannels]
    exact h.nodup_names
  · rw [hchannels]
    exact h.nodup_monitors
  · rw [hchannels]
    intro channel hmem
    obtain ⟨m, hm, hname⟩ := h.name_eq channel hmem
    obtain ⟨m', hm', hname'⟩ := hfleet channel.2 m hm
    exact ⟨m', hm', hname'.trans hname⟩

omit [Scalar α] in
theorem monitor_lt (h : r.WellKept) {channel : String × Nat} (hmem : channel ∈ r.channels) :
    channel.2 < r.fleet.monitors.length := by
  obtain ⟨m, hm, -⟩ := h.name_eq channel hmem
  exact (List.getElem?_eq_some_iff.mp hm).1

theorem register (h : r.WellKept)
    (hregister : r.register source name now = .ok (after, monitor)) : after.WellKept := by
  obtain ⟨hempty, htaken, rfl, settings, m, -, hcreate, rfl⟩ := register_eq_ok_iff.mp hregister
  refine ⟨?_, ?_, ?_, ?_⟩
  · intro channel hmem
    obtain hold | hnew := List.mem_append.mp hmem
    · exact h.name_ne_empty channel hold
    · rw [List.mem_singleton.mp hnew]
      exact hempty
  · rw [names, List.map_append]
    exact h.nodup_names.append (List.nodup_singleton name) (by simpa using htaken)
  · rw [List.map_append]
    refine h.nodup_monitors.append (List.nodup_singleton _) ?_
    intro number hold hnew
    obtain ⟨channel, hmem, rfl⟩ := List.mem_map.mp hold
    have hlt := h.monitor_lt hmem
    exact absurd (List.mem_singleton.mp hnew) (Nat.ne_of_lt hlt)
  · intro channel hmem
    obtain hold | hnew := List.mem_append.mp hmem
    · obtain ⟨m', hm', hname⟩ := h.name_eq channel hold
      obtain ⟨m'', hm'', hname'⟩ := Fleet.KeepsNames.add r.fleet m channel.2 m' hm'
      exact ⟨m'', hm'', hname'.trans hname⟩
    · rw [List.mem_singleton.mp hnew]
      refine ⟨m, List.getElem?_concat_length, ?_⟩
      obtain ⟨durations, sends, failures, outcomes, -, -, -, -, rfl⟩ := Monitor.create_eq_ok hcreate
      rfl

omit [Scalar α] in
/-- The monitor of a name is the one that the name was registered with. -/
theorem find?_eq_some_iff (h : r.WellKept) :
    r.find? name = some monitor ↔ (name, monitor) ∈ r.channels := by
  refine ⟨mem_of_lookup, fun hmem => ?_⟩
  have hsome : r.contains name = true := contains_iff.mpr (List.mem_map.mpr ⟨_, hmem, rfl⟩)
  obtain ⟨number, hnumber⟩ := Option.isSome_iff_exists.mp hsome
  have hfound := mem_of_lookup hnumber
  have heq : (name, number) = (name, monitor) :=
    List.inj_on_of_nodup_map h.nodup_names hfound hmem rfl
  rw [hnumber, (Prod.mk.inj heq).2]

omit [Scalar α] in
/-- The registered monitors are those of the names, in their order. -/
theorem registered_names (h : r.WellKept) : r.registered.map Monitor.name = r.names := by
  have hmap : ∀ channel ∈ r.channels,
      (r.fleet.monitors[channel.2]?).map Monitor.name = some channel.1 := by
    intro channel hmem
    obtain ⟨m, hm, hname⟩ := h.name_eq channel hmem
    rw [hm, Option.map_some, hname]
  rw [registered, List.map_filterMap, names, List.filterMap_congr hmap]
  exact congrFun List.filterMap_eq_map r.channels

end WellKept

end Registry

end SendMeter
