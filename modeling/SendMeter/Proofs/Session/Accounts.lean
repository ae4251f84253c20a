import SendMeter.Proofs.Fleet.Additions
import SendMeter.Proofs.Session.Orderly

namespace SendMeter.Session

/-- One send is started: its monitor counts it and gives out the next ticket. -/
def StartsSend (s s' : Session) (monitor : Nat) : Prop :=
  ∃ m started t, s.fleet.monitors[monitor]? = some m ∧ m.start s.clock = .ok (started, t) ∧
    s'.fleet = ⟨s.fleet.monitors.set monitor started, s.fleet.tickets ++ [t]⟩

/-- One outcome is recorded at a monitor, for a ticket that was open until then. -/
def RecordsOutcome (s s' : Session) (monitor ticket : Nat) (success : Bool) (duration : Float) :
    Prop :=
  ∃ m t recorded, s.fleet.monitors[monitor]? = some m ∧ s.fleet.tickets[ticket]? = some t ∧
    t.completed = false ∧ m.recordOutcome success duration s.clock = .ok recorded ∧
    s'.fleet = ⟨s.fleet.monitors.set monitor recorded,
      s.fleet.tickets.set ticket { t with completed := true }⟩

variable {s s' : Session} {events more new : List Event}

theorem recordsOutcome_of_complete {monitor ticket : Nat} {success : Bool} {t : Ticket Float}
    (ht : s.fleet.tickets[ticket]? = some t) (hopen : t.completed = false)
    (hcomplete : s.fleet.complete monitor ticket success none s.clock = .ok s'.fleet) :
    RecordsOutcome s s' monitor ticket success
      (Scalar.maximum Scalar.zero (s.clock - t.startedAt)) := by
  obtain ⟨m, t', hm, ht', hcases⟩ := Fleet.apply_complete_cases (h := hcomplete)
  rw [ht] at ht'
  cases ht'
  obtain ⟨hcompleted, -⟩ | ⟨-, recorded, hrecord, hfleet⟩ := hcases
  · rw [hopen] at hcompleted
    cases hcompleted
  · exact ⟨m, t, recorded, hm, ht, hopen, hrecord, hfleet⟩

theorem RecordsOutcome.completed {monitor ticket : Nat} {success : Bool} {duration : Float}
    (h : RecordsOutcome s s' monitor ticket success duration) :
    ∃ t, s'.fleet.tickets[ticket]? = some t ∧ t.completed = true := by
  obtain ⟨m, t, recorded, -, ht, -, -, hfleet⟩ := h
  rw [hfleet]
  exact ⟨_, List.getElem?_set_self (List.getElem?_eq_some_iff.mp ht).1, rfl⟩

theorem Move.ready (h : Move s s' new) {n : Nat} (hn : s.fleet.Ready n) :
    s'.fleet.Ready (n + (hooksOf new).length) := by
  obtain ⟨hnew, hfleet | ⟨name, settings, m, hcreate, hfleet⟩⟩ | ⟨hook, hnew, hhook⟩ :=
    h.fleet_cases
  · rw [hfleet, hnew]
    exact hn
  · rw [hfleet, hnew]
    exact hn.add hcreate
  · rw [hnew]
    exact hn.apply hhook

theorem Reaches.ready (h : Reaches s events s') {n : Nat} (hn : s.fleet.Ready n) :
    s'.fleet.Ready (n + (hooksOf events).length) := by
  induction h with
  | refl => exact hn
  | tail _ hmove ih =>
    rw [hooksOf_append, List.length_append, ← Nat.add_assoc]
    exact hmove.ready ih

/-- A fleet whose counts are those of the hooks among some events. -/
structure Accounted (events : List Event) (f : Fleet Float) : Prop where
  balanced : f.Balanced (hooksOf events)
  monitor_lt : ∀ hook ∈ hooksOf events, hook.monitor < f.monitors.length

theorem Accounted.of_hooksOf_eq_nil {f : Fleet Float} (h : Accounted events f)
    (hnew : hooksOf new = []) : Accounted (events ++ new) f := by
  have hsame : hooksOf (events ++ new) = hooksOf events := by
    rw [hooksOf_append, hnew, List.append_nil]
  exact ⟨hsame ▸ h.balanced, hsame ▸ h.monitor_lt⟩

theorem Accounted.add {f : Fleet Float} (h : Accounted events f) {name : String}
    {settings : Settings Float} {now : Float} {m : Monitor Float}
    (hcreate : Monitor.create name settings now = .ok m) : Accounted events (f.add m) := by
  refine ⟨h.balanced.add h.monitor_lt hcreate, fun hook hmem => ?_⟩
  rw [Fleet.monitors_add, List.length_append]
  exact Nat.lt_add_right 1 (h.monitor_lt hook hmem)

theorem Accounted.apply {f g : Fleet Float} (h : Accounted events f) {hook : Hook Float}
    (hnew : hooksOf new = [hook]) (hhook : f.apply hook = .ok g) :
    Accounted (events ++ new) g := by
  have hlength := (Fleet.length_of_apply hhook).1
  constructor
  · rw [hooksOf_append, hnew]
    exact h.balanced.apply hhook
  · intro called hcalled
    rw [hooksOf_append, hnew, List.mem_append, List.mem_singleton] at hcalled
    rw [hlength]
    obtain hold | rfl := hcalled
    · exact h.monitor_lt called hold
    · exact Fleet.monitor_lt_of_apply hhook

theorem Accounted.move (h : Accounted events s.fleet) (hmove : Move s s' new) :
    Accounted (events ++ new) s'.fleet := by
  obtain ⟨hnew, hfleet | ⟨name, settings, m, hcreate, hfleet⟩⟩ | ⟨hook, hnew, hhook⟩ :=
    hmove.fleet_cases
  · rw [hfleet]
    exact h.of_hooksOf_eq_nil hnew
  · rw [hfleet]
    exact (h.add hcreate).of_hooksOf_eq_nil hnew
  · exact h.apply hnew hhook

section Start

variable (clock : Float) (source : SettingsSource Float) (stamp : Json)

theorem isNew_start : (start clock source stamp).fleet.IsNew := by
  refine ⟨rfl, fun m hm => ?_⟩
  cases hm

theorem accounted_start : Accounted [] (start clock source stamp).fleet := by
  refine ⟨(isNew_start clock source stamp).balanced, fun hook hmem => ?_⟩
  cases hmem

end Start

variable {clock : Float} {source : SettingsSource Float} {stamp : Json}

/-- After so many hooks, no monitor has used up its counts. -/
theorem Reaches.ready_of_start (h : Reaches (start clock source stamp) events s) :
    s.fleet.Ready (hooksOf events).length := by
  have hnone : (start clock source stamp).fleet.Ready 0 := fun m hm => by cases hm
  have hready := h.ready hnone
  rwa [Nat.zero_add] at hready

theorem Reaches.accounted (h : Reaches (start clock source stamp) events s) :
    Accounted events s.fleet := by
  induction h with
  | refl => exact accounted_start clock source stamp
  | tail _ hmove ih => exact ih.move hmove

end SendMeter.Session
