import SendMeter.Registry

namespace SendMeter

theorem mem_of_lookup {β : Type} {names : List (String × β)} {name : String} {thing : β}
    (h : names.lookup name = some thing) : (name, thing) ∈ names := by
  obtain ⟨before, rest, rfl, -⟩ := List.lookup_eq_some_iff.mp h
  exact List.mem_append_right before List.mem_cons_self

namespace Registry

variable {α : Type} [Scalar α] {r after : Registry α} {source : SettingsSource α} {name : String}
  {now : α} {monitor : Nat}

omit [Scalar α] in
theorem contains_iff : r.contains name = true ↔ name ∈ r.names := by
  rw [contains, find?, names, List.lookup_isSome_iff, List.mem_map]
  constructor
  · rintro ⟨channel, hmem, heq⟩
    exact ⟨channel, hmem, (eq_of_beq heq).symm⟩
  · rintro ⟨channel, hmem, rfl⟩
    exact ⟨channel, hmem, beq_self_eq_true _⟩

/-- A channel is registered with the next monitor, if its name is neither empty nor taken, and if
its monitor can be made. -/
theorem register_eq_ok_iff : r.register source name now = .ok (after, monitor) ↔
    name ≠ "" ∧ name ∉ r.names ∧ monitor = r.fleet.nextMonitor ∧
      ∃ settings m, source name = .ok settings ∧ Monitor.create name settings now = .ok m ∧
        after = ⟨r.fleet.add m, r.channels ++ [(name, monitor)]⟩ := by
  rw [← contains_iff]
  constructor
  · intro h
    have h := Work.result_eq_ok_iff.mp h
    rw [registerM_eq] at h
    split at h
    · cases h
    next hempty =>
      split at h
      · cases h
      next htaken =>
        split at h
        · cases h
        next settings hsource =>
          split at h
          · cases h
          next m hcreate =>
            cases h
            exact ⟨fun heq => hempty (String.isEmpty_iff.mpr heq), htaken, rfl, settings, m,
              hsource, hcreate, rfl⟩
  · rintro ⟨hempty, htaken, rfl, settings, m, hsource, hcreate, rfl⟩
    have hisEmpty : ¬ name.isEmpty = true := fun heq => hempty (String.isEmpty_iff.mp heq)
    refine Work.result_eq_ok_iff.mpr ?_
    rw [registerM_eq, if_neg hisEmpty, if_neg htaken, hsource]
    simp only [hcreate]

/-- The monitor of a channel is found, or else the channel is registered. -/
theorem getOrRegister_eq_ok_iff :
    r.getOrRegister source name now = .ok (after, monitor) ↔
      (r.find? name = some monitor ∧ after = r) ∨
        r.register source name now = .ok (after, monitor) := by
  constructor
  · intro h
    have h := Work.result_eq_ok_iff.mp h
    rw [getOrRegisterM_eq] at h
    cases hfind : r.find? name with
    | some number =>
      rw [hfind] at h
      cases h
      exact .inl ⟨rfl, rfl⟩
    | none =>
      simp only [hfind] at h
      split at h
      · cases h
      · cases h
      · exact .inr (Work.result_eq_ok_iff.mpr h)
  · rintro (⟨hfind, rfl⟩ | hregister)
    · refine Work.result_eq_ok_iff.mpr ?_
      rw [getOrRegisterM_eq, hfind]
    · have htaken := (register_eq_ok_iff.mp hregister).2.1
      have hnone : r.find? name = none := by
        rw [← contains_iff, contains] at htaken
        simpa using htaken
      refine Work.result_eq_ok_iff.mpr ?_
      rw [getOrRegisterM_eq, hnone, Work.result_eq_ok_iff.mp hregister]

omit [Scalar α] in
theorem get_eq_ok_iff : r.get name = .ok monitor ↔ r.find? name = some monitor := by
  unfold Registry.get
  cases hfind : r.find? name with
  | none => simp
  | some number => simp

end Registry

end SendMeter
