import SendMeter.Proofs.Fleet.Additions

namespace SendMeter

/-- What is added to the counts of a monitor. -/
@[ext] structure Gain where
  attempts : Nat
  successes : Nat
  failures : Nat
deriving DecidableEq, Repr

namespace Gain

instance : Zero Gain := ⟨⟨0, 0, 0⟩⟩

instance : Add Gain :=
  ⟨fun g h => ⟨g.attempts + h.attempts, g.successes + h.successes, g.failures + h.failures⟩⟩

@[simp] theorem attempts_zero : (0 : Gain).attempts = 0 := rfl

@[simp] theorem successes_zero : (0 : Gain).successes = 0 := rfl

@[simp] theorem failures_zero : (0 : Gain).failures = 0 := rfl

@[simp] theorem attempts_add (g h : Gain) : (g + h).attempts = g.attempts + h.attempts := rfl

@[simp] theorem successes_add (g h : Gain) : (g + h).successes = g.successes + h.successes := rfl

@[simp] theorem failures_add (g h : Gain) : (g + h).failures = g.failures + h.failures := rfl

theorem add_assoc (g h k : Gain) : g + h + k = g + (h + k) := by
  rw [Gain.ext_iff]
  simp only [attempts_add, successes_add, failures_add, Nat.add_assoc, and_self]

@[simp] theorem add_zero (g : Gain) : g + 0 = g := rfl

@[simp] theorem zero_add (g : Gain) : 0 + g = g := by
  rw [Gain.ext_iff]
  simp

/-- The start of a send. -/
def attempt : Gain := ⟨1, 0, 0⟩

/-- The end of a send. -/
def outcome (success : Bool) : Gain := ⟨0, success.toNat, (!success).toNat⟩

/-- A gain of one monitor, and of no other one. -/
def only (monitor : Nat) (g : Gain) (other : Nat) : Gain :=
  if monitor = other then g else 0

/-- A send with its outcome. -/
def send (success : Bool) : Gain :=
  attempt + outcome success

theorem attempts_only_send (monitor other : Nat) (success : Bool) :
    (only monitor (send success) other).attempts =
      (only monitor (send success) other).successes +
        (only monitor (send success) other).failures := by
  unfold only
  split
  · cases success <;> rfl
  · rfl

/-- A send counts between what is gained before its outcome is recorded and after that. -/
theorem only_attempt_add (monitor other : Nat) (success : Bool) (g : Gain) :
    only monitor attempt other + g + only monitor (outcome success) other =
      only monitor (send success) other + g := by
  rw [Gain.ext_iff]
  unfold only send
  split
  · simp only [attempts_add, successes_add, failures_add]
    omega
  · simp

end Gain

variable {α : Type} [Scalar α]

/-- All counts of a monitor have grown by a gain. -/
def Monitor.Gains (m after : Monitor α) (g : Gain) : Prop :=
  ∀ attempts successes failures, m.HasCounts attempts successes failures → m.Dated →
    after.HasCounts (attempts + g.attempts) (successes + g.successes) (failures + g.failures) ∧
      after.Dated

namespace Monitor

omit [Scalar α] in
theorem gains_zero (m : Monitor α) : m.Gains m 0 :=
  fun _ _ _ hcounts hdated => ⟨hcounts, hdated⟩

variable {m after : Monitor α} {now : α}

theorem gains_start {t : Ticket α} (h : m.start now = .ok (after, t)) :
    m.Gains after .attempt :=
  fun _ _ _ hcounts hdated => hcounts.start hdated h

theorem gains_recordOutcome {success : Bool} {duration : α}
    (h : m.recordOutcome success duration now = .ok after) : m.Gains after (.outcome success) :=
  fun _ _ _ hcounts hdated => hcounts.recordOutcome hdated h

end Monitor

namespace Fleet

/-- The counts of all monitors have grown by so many hooks, which left the old tickets as they
were. -/
structure Grows (f g : Fleet α) (hooks : Nat) (gain : Nat → Gain) : Prop where
  tickets : f.tickets <+: g.tickets
  length_eq : g.monitors.length = f.monitors.length
  gains : ∀ (monitor : Nat) (m : Monitor α), f.monitors[monitor]? = some m →
    ∃ after, g.monitors[monitor]? = some after ∧ m.Gains after (gain monitor)
  ready : ∀ n, f.Ready n → g.Ready (n + hooks)

namespace Grows

variable {f g k : Fleet α} {hooks more : Nat} {gain gain' : Nat → Gain} {monitor : Nat} {now : α}

theorem refl (f : Fleet α) : Grows f f 0 fun _ => 0 :=
  ⟨List.prefix_rfl, rfl, fun _ m hm => ⟨m, hm, m.gains_zero⟩, fun _ h => h⟩

theorem trans (h : Grows f g hooks gain) (h' : Grows g k more gain') :
    Grows f k (hooks + more) fun monitor => gain monitor + gain' monitor := by
  refine ⟨h.tickets.trans h'.tickets, h'.length_eq.trans h.length_eq, ?_, fun n hn => ?_⟩
  · intro monitor m hm
    obtain ⟨m', hm', hgains⟩ := h.gains monitor m hm
    obtain ⟨m'', hm'', hgains'⟩ := h'.gains monitor m' hm'
    refine ⟨m'', hm'', fun attempts successes failures hcounts hdated => ?_⟩
    obtain ⟨hcounts, hdated⟩ := hgains _ _ _ hcounts hdated
    simpa only [Gain.attempts_add, Gain.successes_add, Gain.failures_add, Nat.add_assoc]
      using hgains' _ _ _ hcounts hdated
  · rw [← Nat.add_assoc]
    exact h'.ready _ (h.ready n hn)

theorem of_le (h : Grows f g hooks gain) (hle : hooks ≤ more)
    (hgain : ∀ monitor, gain monitor = gain' monitor) : Grows f g more gain' := by
  obtain rfl : gain = gain' := funext hgain
  exact ⟨h.tickets, h.length_eq, h.gains, fun n hn => (h.ready n hn).le (Nat.add_le_add_left hle n)⟩

/-- The tickets from before are still there, as they were. -/
theorem getElem?_tickets (h : Grows f g hooks gain) {ticket : Nat} {t : Ticket α}
    (ht : f.tickets[ticket]? = some t) : g.tickets[ticket]? = some t := by
  obtain ⟨new, hnew⟩ := h.tickets
  rw [← hnew, List.getElem?_append_left (List.getElem?_eq_some_iff.mp ht).1]
  exact ht

omit [Scalar α] in
/-- One monitor grows, and the others stay as they are. -/
theorem gains_set {m after : Monitor α} {gained : Gain} (hm : f.monitors[monitor]? = some m)
    (hgains : m.Gains after gained) (other : Nat) (m' : Monitor α)
    (hm' : f.monitors[other]? = some m') :
    ∃ after', (f.monitors.set monitor after)[other]? = some after' ∧
      m'.Gains after' (.only monitor gained other) := by
  by_cases heq : monitor = other
  · subst other
    rw [hm] at hm'
    cases hm'
    refine ⟨after, List.getElem?_set_self (List.getElem?_eq_some_iff.mp hm).1, ?_⟩
    rw [Gain.only, if_pos rfl]
    exact hgains
  · refine ⟨m', (List.getElem?_set_ne heq).trans hm', ?_⟩
    rw [Gain.only, if_neg heq]
    exact m'.gains_zero

/-- A start counts an attempt, and gives out an open ticket. -/
theorem of_start (h : f.start monitor now = .ok g) :
    Grows f g 1 (Gain.only monitor .attempt) ∧
      ∃ t, g.tickets[f.nextTicket]? = some t ∧ t.startedAt = now ∧ t.completed = false := by
  have happly : f.apply (.start monitor now) = .ok g := h
  have hready (n : Nat) (hn : f.Ready n) : g.Ready (n + 1) := hn.apply happly
  obtain ⟨m, started, t, hm, hstart, rfl⟩ := apply_start_eq_ok happly
  have hgains := gains_set hm (Monitor.gains_start hstart)
  obtain ⟨sends, -, -, rfl⟩ := Monitor.start_eq_ok hstart
  refine ⟨⟨List.prefix_append _ _, List.length_set, hgains, hready⟩, ?_⟩
  exact ⟨_, List.getElem?_concat_length, rfl, rfl⟩

/-- The completion of an open ticket that was given out since counts an outcome. -/
theorem complete (h : Grows f g hooks gain) {ticket : Nat} {success : Bool} {duration : Option α}
    (hnew : f.tickets.length ≤ ticket) {t : Ticket α} (ht : g.tickets[ticket]? = some t)
    (hopen : t.completed = false)
    (hcomplete : g.complete monitor ticket success duration now = .ok k) :
    Grows f k (hooks + 1) (fun other => gain other + .only monitor (.outcome success) other) := by
  have happly : g.apply (.complete monitor ticket success duration now) = .ok k := hcomplete
  have hready (n : Nat) (hn : g.Ready n) : k.Ready (n + 1) := hn.apply happly
  obtain ⟨m, t', hm, ht', ⟨hcompleted, -⟩ | ⟨-, recorded, hrecord, rfl⟩⟩ :=
    apply_complete_cases happly
  · rw [ht] at ht'
    cases ht'
    rw [hopen] at hcompleted
    cases hcompleted
  · have hgains := gains_set hm (Monitor.gains_recordOutcome hrecord)
    have hgrown : Grows g ⟨g.monitors.set monitor recorded, g.tickets⟩ 1
        (.only monitor (.outcome success)) :=
      ⟨List.prefix_rfl, List.length_set, hgains, hready⟩
    have hall := h.trans hgrown
    refine ⟨?_, hall.length_eq, hall.gains, hall.ready⟩
    obtain ⟨new, hnew'⟩ := h.tickets
    refine ⟨new.set (ticket - f.tickets.length) { t' with completed := true }, ?_⟩
    rw [← hnew', List.set_append_right _ _ hnew]

end Grows

end Fleet

end SendMeter
