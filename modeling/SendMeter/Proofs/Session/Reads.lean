import SendMeter.Proofs.Fleet.Reads
import SendMeter.Proofs.Session.CallTree
import SendMeter.Proofs.Session.OrderedRegistry

namespace SendMeter

open Binary64

private theorem exists_of_forall₂ {β γ : Type} {R : β → γ → Prop} {xs : List β} {ys : List γ}
    (h : List.Forall₂ R xs ys) : ∀ x ∈ xs, ∃ y, R x y := by
  induction h with
  | nil => exact fun x hx => absurd hx List.not_mem_nil
  | cons hxy _ ih => exact List.forall_mem_cons.mpr ⟨⟨_, hxy⟩, ih⟩

/-- The last report of a monitor is given in full unless the monitor is saturated. -/
theorem Monitor.Reads.closingRecords_cases {m : Monitor Float} {now : Float} (h : m.Reads now)
    (stamp : Json) :
    (m.Saturated now ∧ (m.closingRecords stamp now).2 = some .divisionByZero) ∨
      (¬ m.Saturated now ∧ (m.closingRecords stamp now).2 = none) := by
  unfold closingRecords
  obtain ⟨hsaturated, hsnapshot⟩ | ⟨hnot, snapshot, hsnapshot⟩ := h.snapshot_cases
  · rw [hsnapshot]
    exact .inl ⟨hsaturated, rfl⟩
  · rw [hsnapshot]
    exact .inr ⟨hnot, rfl⟩

namespace Session

theorem closingRecords_cases (stamp : Json) {now : Float} {ms : List (Monitor Float)}
    (h : ∀ m ∈ ms, m.Reads now) :
    ((∃ m ∈ ms, m.Saturated now) ∧ (closingRecords stamp now ms).2 = some .divisionByZero) ∨
      ((∀ m ∈ ms, ¬ m.Saturated now) ∧ (closingRecords stamp now ms).2 = none) := by
  induction ms with
  | nil => exact .inr ⟨fun m hm => absurd hm List.not_mem_nil, rfl⟩
  | cons m ms ih =>
    rw [List.forall_mem_cons] at h
    rw [closingRecords]
    have hfirst := h.1.closingRecords_cases stamp
    cases hrecords : m.closingRecords stamp now with
    | mk records fault =>
      simp only [hrecords] at hfirst ⊢
      obtain ⟨hsaturated, rfl⟩ | ⟨hnot, rfl⟩ := hfirst
      · exact .inl ⟨⟨m, List.mem_cons_self, hsaturated⟩, rfl⟩
      · obtain ⟨⟨m', hmem, hsaturated⟩, hrest⟩ | ⟨hnone, hrest⟩ := ih h.2
        · exact .inl ⟨⟨m', List.mem_cons_of_mem m hmem, hsaturated⟩, hrest⟩
        · exact .inr ⟨List.forall_mem_cons.mpr ⟨hnot, hnone⟩, hrest⟩

/-- The answer of a step that cannot read a monitor. -/
def unreadable : Reply := .failed (.reading .divisionByZero)

/-- How a session answers the steps that read its monitors. Shutting down closes the registry also
if a report fails, and then the reports of later channels are lost. -/
structure Reads (s : Session) : Prop where
  snapshot : ∀ handle m, s.monitor? handle = some m →
    (m.Saturated s.clock ∧ s.simpleStep (.snapshot handle) = ⟨s, unreadable, []⟩) ∨
      (¬ m.Saturated s.clock ∧ ∃ fields, s.simpleStep (.snapshot handle) = ⟨s, .fields fields, []⟩)
  stats : ∀ name monitor m, s.registry.find? name = some monitor → s.monitorAt? monitor = some m →
    (m.Saturated s.clock ∧ s.simpleStep (.stats name) = ⟨s, unreadable, []⟩) ∨
      (¬ m.Saturated s.clock ∧ ∃ fields, s.simpleStep (.stats name) = ⟨s, .fields fields, []⟩)
  allStats :
    ((∃ m ∈ s.registry.registered, m.Saturated s.clock) ∧
        s.simpleStep .allStats = ⟨s, unreadable, []⟩) ∨
      ((∀ m ∈ s.registry.registered, ¬ m.Saturated s.clock) ∧
        ∃ rows, s.simpleStep .allStats = ⟨s, .table rows, []⟩)
  destroy : ∀ handle m, s.monitor? handle = some m → ∃ records,
    (m.Saturated s.clock ∧ s.simpleStep (.destroy handle) = ⟨s, unreadable, records⟩) ∨
      (¬ m.Saturated s.clock ∧ s.simpleStep (.destroy handle) = ⟨s, .nothing, records⟩)
  shutdown : ∃ records,
    ((∃ m ∈ s.registry.registered, m.Saturated s.clock) ∧
        s.simpleStep .shutdown = ⟨{ s with registry := s.registry.close }, unreadable, records⟩) ∨
      ((∀ m ∈ s.registry.registered, ¬ m.Saturated s.clock) ∧
        s.simpleStep .shutdown = ⟨{ s with registry := s.registry.close }, .nothing, records⟩)

variable {s : Session}

theorem fieldsOf_reads {m : Monitor Float} (h : m.Reads s.clock) :
    (m.Saturated s.clock ∧ s.fieldsOf m = .error (.reading .divisionByZero)) ∨
      (¬ m.Saturated s.clock ∧ ∃ fields, s.fieldsOf m = .ok fields) := by
  unfold fieldsOf
  obtain ⟨hsaturated, hsnapshot⟩ | ⟨hnot, snapshot, hsnapshot⟩ := h.snapshot_cases
  · rw [hsnapshot]
    exact .inl ⟨hsaturated, rfl⟩
  · rw [hsnapshot]
    exact .inr ⟨hnot, _, rfl⟩

section Steps

variable (h : ∀ m ∈ s.fleet.monitors, m.Reads s.clock)
include h

theorem reads_registered : ∀ m ∈ s.registry.registered, m.Reads s.clock := by
  intro m hm
  obtain ⟨channel, -, hm⟩ := List.mem_filterMap.mp hm
  exact h m (List.mem_of_getElem? hm)

theorem reads_of_handle {handle : String} {m : Monitor Float}
    (hm : s.monitor? handle = some m) : m.Reads s.clock := by
  obtain ⟨number, -, hm⟩ := Option.bind_eq_some_iff.mp hm
  exact h m (List.mem_of_getElem? hm)

theorem reads : s.Reads where
  snapshot handle m hm := by
    have hstep : s.simpleStep (.snapshot handle) = s.perform (snapshotOf handle) := rfl
    rw [hstep, perform_snapshotOf s hm]
    obtain ⟨hsaturated, hfields⟩ | ⟨hnot, fields, hfields⟩ :=
      fieldsOf_reads (reads_of_handle h hm)
    · rw [hfields]
      exact .inl ⟨hsaturated, rfl⟩
    · rw [hfields]
      exact .inr ⟨hnot, fields, rfl⟩
  stats name monitor m hfind hm := by
    have hstep : s.simpleStep (.stats name) = s.perform (statsOf name) := rfl
    rw [hstep, perform_statsOf s hfind hm]
    obtain ⟨hsaturated, hfields⟩ | ⟨hnot, fields, hfields⟩ :=
      fieldsOf_reads (h m (List.mem_of_getElem? hm))
    · rw [hfields]
      exact .inl ⟨hsaturated, rfl⟩
    · rw [hfields]
      exact .inr ⟨hnot, fields, rfl⟩
  allStats := by
    have hstep : s.simpleStep .allStats = s.perform Session.allStats := rfl
    have hrows : ∀ m ∈ s.registry.registered,
        (m.Saturated s.clock ∧ (do return (m.name, ← s.fieldsOf m) : Except StepFault _) =
          .error (.reading .divisionByZero)) ∨
        (¬ m.Saturated s.clock ∧
          ∃ row, (do return (m.name, ← s.fieldsOf m) : Except StepFault _) = .ok row) := by
      intro m hm
      obtain ⟨hsaturated, hfields⟩ | ⟨hnot, fields, hfields⟩ :=
        fieldsOf_reads (reads_registered h m hm)
      · rw [hfields]
        exact .inl ⟨hsaturated, rfl⟩
      · rw [hfields]
        exact .inr ⟨hnot, _, rfl⟩
    rw [hstep, perform_allStats]
    obtain ⟨rows, hok, hall⟩ | ⟨m, hmem, e, he, herror⟩ :=
      mapM_cases (fun m => do return (m.name, ← s.fieldsOf m)) s.registry.registered
    · rw [hok]
      refine .inr ⟨fun m hm hsaturated => ?_, rows, rfl⟩
      obtain ⟨row, hrow⟩ := exists_of_forall₂ hall m hm
      obtain ⟨-, hfail⟩ | ⟨hnot, -⟩ := hrows m hm
      · rw [hfail] at hrow
        cases hrow
      · exact hnot hsaturated
    · rw [herror]
      obtain ⟨hsaturated, hfail⟩ | ⟨-, row, hrow⟩ := hrows m hmem
      · rw [hfail] at he
        cases he
        exact .inl ⟨⟨m, hmem, hsaturated⟩, rfl⟩
      · rw [hrow] at he
        cases he
  destroy handle m hm := by
    have hstep : s.simpleStep (.destroy handle) = s.perform (Session.destroy handle) := rfl
    rw [hstep, perform_destroy s hm]
    have hcases := (reads_of_handle h hm).closingRecords_cases s.stamp
    cases hrecords : m.closingRecords s.stamp s.clock with
    | mk records fault =>
      simp only [hrecords] at hcases
      refine ⟨records, ?_⟩
      obtain ⟨hsaturated, rfl⟩ | ⟨hnot, rfl⟩ := hcases
      · exact .inl ⟨hsaturated, rfl⟩
      · exact .inr ⟨hnot, rfl⟩
  shutdown := by
    have hstep : s.simpleStep .shutdown = s.shutdown := rfl
    rw [hstep, Session.shutdown]
    have hcases := closingRecords_cases s.stamp (reads_registered h)
    cases hrecords : closingRecords s.stamp s.clock s.registry.registered with
    | mk records fault =>
      simp only [hrecords] at hcases
      obtain ⟨hsome, rfl⟩ | ⟨hnone, rfl⟩ := hcases
      · exact ⟨_, .inl ⟨hsome, rfl⟩⟩
      · exact ⟨_, .inr ⟨hnone, rfl⟩⟩

end Steps

/-- After any hooks at finite readings of the clock, on monitors with finite periods, a rate is read
unless it is saturated, and all statistics are given unless a monitor that they need is saturated.
No monitor is saturated whose period is less than half of the range of the floats, in ticks of the
clock. -/
theorem reads_unless_saturated {f : Fleet Float} (hf : f.IsNewAt least)
    (hooks : List (Hook Float)) (hnow : ∀ h ∈ hooks, h.now.isFinite = true)
    (hlength : hooks.length < 2 ^ 1023) {s : Session} (hs : s.fleet = f.run hooks)
    (hclock : s.clock.isFinite = true) :
    (∀ m ∈ s.fleet.monitors, m.Reads s.clock) ∧ s.Reads ∧
      ∀ tick, IsTick tick → f.IsNewAt tick → (∀ h ∈ hooks, Reading tick h.now) →
        (∀ m ∈ s.fleet.monitors, 2 * (toRat m.settings.periodUnit / tick) < limit) →
          ∀ m ∈ s.fleet.monitors, ¬ m.Saturated s.clock := by
  have hreads : ∀ m ∈ s.fleet.monitors, m.Reads s.clock := by
    rw [hs]
    exact hf.reads_run hnow hlength hclock
  refine ⟨hreads, reads hreads, fun tick htick hf' hnow' hunit m hm => ?_⟩
  have hbounded : m.Bounded tick := hf'.bounded_run htick hnow' m (hs ▸ hm)
  exact hbounded.not_saturated (hunit m hm) s.clock

/-- A monitor whose rates are counted over a very long period. -/
def hasty : Fleet Float :=
  .made { Settings.standard with periodUnit := 1e300 } 0 ["mail"]

/-- A session in which a send came right after the monitor was made, and no time has passed. -/
def hurried : Session :=
  { start 1e-9 (fun _ => .ok Settings.standard) .null with
    registry := ⟨hasty.run [.start 0 1e-9], [("mail", 0)]⟩, handles := [("mail", 0)] }

theorem isNewAt_hasty : hasty.IsNewAt least := by
  have hunit : (1e300 : Float).isFinite = true := by decide +kernel
  exact Fleet.isNewAt_made { Settings.standard with periodUnit := 1e300 } hunit rfl
    (reading_least rfl) ["mail"]

theorem fleet_hurried : hurried.fleet = hasty.run [.start 0 1e-9] := by
  simp only [hurried, fleet]

/-- A session with the standard settings, whose clock counts seconds. -/
def settled : Session :=
  { paired.withFleet (Fleet.pair.run Fleet.crossing) with clock := 5 }

private theorem fleet_settled : settled.fleet = Fleet.pair.run Fleet.crossing := by
  simp only [settled, fleet, withFleet]

/-- The first session cannot be read, and shutting it down closes it all the same. The second can be
read. -/
theorem reads_unless_saturated_hurried :
    (∃ records, hurried.simpleStep .shutdown =
      ⟨{ hurried with registry := hurried.registry.close }, unreadable, records⟩) ∧
    ∃ fields, settled.simpleStep (.snapshot "mail") = ⟨settled, .fields fields, []⟩ := by
  constructor
  · obtain ⟨hmonitors, hreads, -⟩ := reads_unless_saturated isNewAt_hasty [.start 0 1e-9]
      (by decide +kernel) (by decide +kernel) fleet_hurried (by decide +kernel)
    have hfail : ∃ m ∈ hurried.registry.registered, (m.snapshot hurried.clock).isOk = false := by
      decide +kernel
    obtain ⟨records, ⟨-, hstep⟩ | ⟨hnone, -⟩⟩ := hreads.shutdown
    · exact ⟨records, hstep⟩
    · obtain ⟨m, hm, hfail⟩ := hfail
      obtain ⟨hsaturated, -⟩ | ⟨-, snapshot, hsnapshot⟩ :=
        (reads_registered hmonitors m hm).snapshot_cases
      · exact absurd hsaturated (hnone m hm)
      · rw [hsnapshot] at hfail
        cases hfail
  · have hpair {tick : ℚ} (hzero : Reading tick 0) : Fleet.pair.IsNewAt tick :=
      Fleet.isNewAt_made Settings.standard rfl rfl hzero ["mail", "log"]
    have hseconds : ∀ h ∈ Fleet.crossing, Reading 1 h.now := by
      simp only [Fleet.crossing, List.forall_mem_cons, Hook.now]
      exact ⟨reading_ofInt (n := 1) (by norm_num), reading_ofInt (n := 2) (by norm_num),
        reading_ofInt (n := 3) (by norm_num), reading_ofInt (n := 3) (by norm_num),
        reading_ofInt (n := 4) (by norm_num), reading_ofInt (n := 5) (by norm_num),
        List.forall_mem_nil _⟩
    obtain ⟨-, hreads, hnever⟩ := reads_unless_saturated (hpair (reading_least rfl))
      Fleet.crossing (fun h hh => (hseconds h hh).isFinite) (by decide +kernel) fleet_settled
      (by decide +kernel)
    have hperiod : ∀ m ∈ settled.fleet.monitors, m.settings.periodUnit = Scalar.one := by
      decide +kernel
    have hnot := hnever 1 isTick_one (hpair (reading_ofInt (n := 0) (by norm_num))) hseconds
      fun m hm => by
        rw [hperiod m hm, toRat_one, div_one, mul_one]
        exact two_lt_limit
    obtain ⟨m, hm⟩ := Option.isSome_iff_exists.mp
      (show (settled.monitor? "mail").isSome by decide +kernel)
    obtain ⟨hsaturated, -⟩ | ⟨-, hstep⟩ := hreads.snapshot "mail" m hm
    · obtain ⟨number, -, hmem⟩ := Option.bind_eq_some_iff.mp hm
      exact absurd hsaturated (hnot m (List.mem_of_getElem? hmem))
    · exact hstep

/-- Not every monitor can be read, though its clock goes on and reads finite numbers. -/
theorem hurried_unreadable :
    ¬ ∀ (f : Fleet Float) (hooks : List (Hook Float)) (s : Session), f.IsNewAt least →
      (∀ h ∈ hooks, h.now.isFinite = true) → s.clock.isFinite = true →
      (hooks.map Hook.now ++ [s.clock]).Pairwise (· ≤ ·) → s.fleet = f.run hooks →
        ∀ m ∈ s.fleet.monitors, (m.snapshot s.clock).isOk := by
  intro h
  have hfail : ∃ m ∈ hurried.fleet.monitors, (m.snapshot hurried.clock).isOk = false := by
    decide +kernel
  obtain ⟨m, hm, hfail⟩ := hfail
  have hok := h hasty [.start 0 1e-9] hurried isNewAt_hasty (by decide +kernel) (by decide +kernel)
    (by decide +kernel) fleet_hurried m hm
  rw [hfail] at hok
  cases hok

end Session

end SendMeter
