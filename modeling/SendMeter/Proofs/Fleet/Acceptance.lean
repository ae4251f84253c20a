import SendMeter.Proofs.Average.Floats
import SendMeter.Proofs.Fleet.Accounting

namespace SendMeter

variable {α : Type} [Scalar α] {limit n : Nat}

open Scalar (CountsBelow)

namespace Rate

/-- A rate that can record events: its first interval can be divided by, and it has seen at most so
many gaps. -/
structure Ready (n : Nat) (r : Rate α) : Prop where
  initialInterval_pos : ¬ r.initialInterval ≤ Scalar.zero
  intervals_le : r.intervals ≤ n

theorem ready_of_create {window : Int} {periodUnit averagingPeriod now : α} {r : Rate α}
    (h : create window periodUnit averagingPeriod none now = .ok r) : r.Ready 0 := by
  obtain ⟨average, -, -, -, hinterval, rfl⟩ := create_eq_ok h
  exact ⟨hinterval, Nat.le_refl 0⟩

theorem Ready.exists_start (hα : CountsBelow α limit) {r : Rate α} (h : r.Ready n) (now : α) :
    ∃ s, r.start now = .ok s := by
  have hinterval : ¬ r.firstInterval now ≤ Scalar.zero := by
    unfold firstInterval
    dsimp only
    split
    · exact h.initialInterval_pos
    · assumption
  obtain ⟨mean, hmean⟩ := hα.divide_of_not_le r.periodUnit hinterval
  exact ⟨_, bind_eq_ok_iff.mpr ⟨mean, hmean, rfl⟩⟩

theorem Ready.exists_next (hα : CountsBelow α limit) {r : Rate α} (h : r.Ready n)
    (hn : n + 1 < limit) (last now : α) : ∃ s, r.next last now = .ok s := by
  by_cases hgap : Scalar.zero < now - last
  · obtain ⟨sample, hsample⟩ := hα.divide_of_pos r.periodUnit hgap
    have hle := h.intervals_le
    obtain ⟨average, haverage⟩ := Average.exists_blend hα
      { r.average with count := r.average.count + 1, lastUpdate := some now } sample
      (Nat.succ_pos r.intervals) (by omega)
    refine ⟨{ r with average, intervals := r.intervals + 1 }, ?_⟩
    simp only [Rate.next, if_pos hgap]
    exact bind_eq_ok_iff.mpr ⟨sample, hsample, bind_eq_ok_iff.mpr ⟨average, haverage, rfl⟩⟩
  · exact ⟨_, next_of_not_lt r hgap⟩

theorem Ready.of_increment {r s : Rate α} (h : r.Ready n) {now : α}
    (hs : r.increment now = .ok s) : s.Ready (n + 1) := by
  have hle := h.intervals_le
  obtain ⟨-, mean, -, rfl⟩ | ⟨last, sample, average, -, -, -, -, rfl⟩ | ⟨last, -, -, rfl⟩ :=
    increment_eq_ok hs
  · exact ⟨h.initialInterval_pos, by dsimp only; omega⟩
  · exact ⟨h.initialInterval_pos, by dsimp only; omega⟩
  · exact ⟨h.initialInterval_pos, by dsimp only; omega⟩

theorem Ready.exists_increment (hα : CountsBelow α limit) {r : Rate α} (h : r.Ready n)
    (hn : n + 1 < limit) (now : α) : ∃ s, r.increment now = .ok s := by
  unfold increment
  cases r.average.lastUpdate with
  | none => exact h.exists_start hα now
  | some last => exact h.exists_next hα hn last now

end Rate

namespace Monitor

/-- A monitor that can record a send after so many hooks. -/
structure Ready (n : Nat) (m : Monitor α) : Prop where
  sends : m.sends.Ready n
  failures : m.failures.Ready n
  durations_le : m.durations.average.count ≤ n
  outcomes_le : m.outcomes.average.count ≤ n

variable {m after : Monitor α} {t : Ticket α}

theorem ready_of_create {name : String} {s : Settings α} {now : α}
    (h : create name s now = .ok m) : m.Ready 0 := by
  obtain ⟨hcounts, -⟩ := hasCounts_of_create h
  obtain ⟨durations, sends, failures, outcomes, -, hsends, hfailures, -, rfl⟩ := create_eq_ok h
  exact ⟨Rate.ready_of_create hsends, Rate.ready_of_create hfailures,
    Nat.le_of_eq hcounts.durations_eq, Nat.le_of_eq hcounts.outcomes_eq⟩

theorem Ready.mono (h : m.Ready n) : m.Ready (n + 1) :=
  ⟨⟨h.sends.initialInterval_pos, Nat.le_succ_of_le h.sends.intervals_le⟩,
    ⟨h.failures.initialInterval_pos, Nat.le_succ_of_le h.failures.intervals_le⟩,
    Nat.le_succ_of_le h.durations_le, Nat.le_succ_of_le h.outcomes_le⟩

theorem Ready.of_start (h : m.Ready n) {now : α} (hstart : m.start now = .ok (after, t)) :
    after.Ready (n + 1) := by
  obtain ⟨sends, hsends, rfl, -⟩ := start_eq_ok hstart
  exact ⟨h.sends.of_increment hsends, h.mono.failures, h.mono.durations_le, h.mono.outcomes_le⟩

theorem Ready.of_recordOutcome (h : m.Ready n) {success : Bool} {duration now : α}
    (hrecord : m.recordOutcome success duration now = .ok after) : after.Ready (n + 1) := by
  cases success with
  | true =>
    obtain ⟨outcomes, durations, houtcomes, hdurations, rfl⟩ := recordSuccess_eq_ok hrecord
    have hdurations' := Durations.count_of_append hdurations
    have houtcomes' := Outcomes.count_of_record houtcomes
    have hdurations_le := h.durations_le
    have houtcomes_le := h.outcomes_le
    exact ⟨h.mono.sends, h.mono.failures, by dsimp only; omega, by dsimp only; omega⟩
  | false =>
    obtain ⟨outcomes, failures, houtcomes, hfailures, rfl⟩ := recordFailure_eq_ok hrecord
    have houtcomes' := Outcomes.count_of_record houtcomes
    have houtcomes_le := h.outcomes_le
    exact ⟨h.mono.sends, h.failures.of_increment hfailures, h.mono.durations_le,
      by dsimp only; omega⟩

theorem Ready.exists_start (hα : CountsBelow α limit) (h : m.Ready n) (hn : n + 1 < limit)
    (now : α) : ∃ result, m.start now = .ok result := by
  obtain ⟨sends, hsends⟩ := h.sends.exists_increment hα hn now
  rw [start_eq]
  exact ⟨_, bind_eq_ok_iff.mpr ⟨sends, hsends, rfl⟩⟩

theorem Ready.exists_recordOutcome (hα : CountsBelow α limit) (h : m.Ready n) (hn : n + 1 < limit)
    (success : Bool) (duration now : α) :
    ∃ after, m.recordOutcome success duration now = .ok after := by
  obtain ⟨shares, hshares⟩ :=
    Average.exists_append hα h.outcomes_le hn (Outcomes.valueOf success) now
  have houtcomes : m.outcomes.record success now = .ok ⟨shares⟩ :=
    bind_eq_ok_iff.mpr ⟨shares, hshares, rfl⟩
  rw [recordOutcome_eq]
  cases success with
  | true =>
    rw [if_pos rfl, recordSuccess_eq]
    obtain ⟨average, haverage⟩ := Average.exists_append hα h.durations_le hn duration now
    have hdurations : ∃ durations, m.durations.append duration now = .ok durations :=
      ⟨_, bind_eq_ok_iff.mpr ⟨average, haverage, rfl⟩⟩
    obtain ⟨durations, hdurations⟩ := hdurations
    exact ⟨_, bind_eq_ok_iff.mpr ⟨_, houtcomes, bind_eq_ok_iff.mpr ⟨durations, hdurations, rfl⟩⟩⟩
  | false =>
    rw [if_neg Bool.false_ne_true, recordFailure_eq]
    obtain ⟨failures, hfailures⟩ := h.failures.exists_increment hα hn now
    exact ⟨_, bind_eq_ok_iff.mpr ⟨_, houtcomes, bind_eq_ok_iff.mpr ⟨failures, hfailures, rfl⟩⟩⟩

/-- A completion is refused exactly for a negative duration. -/
theorem Ready.exists_complete_iff (hα : CountsBelow α limit) (h : m.Ready n) (hn : n + 1 < limit)
    (success : Bool) (given : Option α) (now : α) :
    (∃ result, m.complete t success given now = .ok result) ↔ Admits given := by
  constructor
  · rintro ⟨⟨after, taken⟩, hcomplete⟩
    exact (complete_eq_ok hcomplete).1
  · intro hgiven
    have hfilter := filter_negative_eq_none_iff.mpr hgiven
    cases hcompleted : t.completed with
    | true => exact ⟨(m, t), by simp [complete_eq, hfilter, hcompleted]⟩
    | false =>
      obtain ⟨after, hrecord⟩ := h.exists_recordOutcome hα hn success (t.duration given now) now
      exact ⟨(after, { t with completed := true }),
        by simp [complete_eq, hfilter, hcompleted, hrecord]⟩

end Monitor

namespace Fleet

/-- A fleet whose monitors can all record a send after so many hooks. -/
def Ready (n : Nat) (f : Fleet α) : Prop :=
  ∀ m ∈ f.monitors, m.Ready n

variable {f g : Fleet α}

theorem Ready.set (h : f.Ready n) {monitor : Nat} {m : Monitor α} (hm : m.Ready (n + 1))
    (tickets : List (Ticket α)) : Ready (n + 1) ⟨f.monitors.set monitor m, tickets⟩ := by
  intro m' hm'
  rcases List.mem_or_eq_of_mem_set hm' with hmem | rfl
  · exact (h m' hmem).mono
  · exact hm

theorem Ready.apply (h : f.Ready n) {hook : Hook α} (hg : f.apply hook = .ok g) :
    g.Ready (n + 1) := by
  cases hook with
  | start monitor now =>
    obtain ⟨m, started, t, hm, hstart, rfl⟩ := apply_start_eq_ok hg
    exact h.set ((h m (List.mem_of_getElem? hm)).of_start hstart) _
  | complete monitor ticket success duration now =>
    obtain ⟨m, t, hm, -, ⟨-, rfl⟩ | ⟨-, recorded, hrecord, rfl⟩⟩ := apply_complete_cases hg
    · exact fun m hm => (h m hm).mono
    · exact h.set ((h m (List.mem_of_getElem? hm)).of_recordOutcome hrecord) _

theorem Ready.run (h : f.Ready n) (hooks : List (Hook α)) :
    (f.run hooks).Ready (n + hooks.length) := by
  induction hooks generalizing f n with
  | nil => exact h
  | cons hook hooks ih =>
    have hafter : (f.after hook).Ready (n + 1) := by
      cases hg : f.apply hook with
      | error e =>
        rw [after_of_error hg]
        exact fun m hm => (h m hm).mono
      | ok g =>
        rw [after_of_ok hg]
        exact h.apply hg
    have hrun := ih hafter
    rw [run_cons, List.length_cons]
    rwa [Nat.add_assoc, Nat.add_comm 1] at hrun

theorem Ready.isOk_start (hα : CountsBelow α limit) (h : f.Ready n) (hn : n + 1 < limit)
    {monitor : Nat} (hmonitor : monitor < f.monitors.length) (now : α) :
    (f.apply (.start monitor now)).isOk := by
  have hm := List.getElem?_eq_getElem hmonitor
  obtain ⟨⟨started, t⟩, hstart⟩ :=
    (h _ (List.getElem_mem hmonitor)).exists_start hα hn now
  simp [Fleet.apply, Fleet.start_eq, hm, hstart, Except.isOk, Except.toBool]

theorem Ready.isOk_complete_iff (hα : CountsBelow α limit) (h : f.Ready n) (hn : n + 1 < limit)
    {monitor ticket : Nat} (hmonitor : monitor < f.monitors.length)
    (hticket : ticket < f.tickets.length) (success : Bool) (duration : Option α) (now : α) :
    (f.apply (.complete monitor ticket success duration now)).isOk ↔ Monitor.Admits duration := by
  have hm := List.getElem?_eq_getElem hmonitor
  have ht := List.getElem?_eq_getElem hticket
  rw [← (h _ (List.getElem_mem hmonitor)).exists_complete_iff hα hn success duration now
    (t := f.tickets[ticket])]
  simp only [Fleet.apply, Fleet.complete_eq, hm, ht]
  cases f.monitors[monitor].complete f.tickets[ticket] success duration now <;>
    simp [Except.isOk, Except.toBool]

end Fleet

end SendMeter
