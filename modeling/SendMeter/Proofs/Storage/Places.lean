import SendMeter.Proofs.History.Recorded
import SendMeter.Storage.Disk

namespace SendMeter.Storage.Disk

variable {d d' : Disk} {p : Path} {place other : Location} {text : String}

/-- The place that a path names, whether or not there is anything. -/
def placeOf (d : Disk) (p : Path) : Location :=
  straighten (d.start p.root) p.names

private theorem straighten_append (place : Location) (names more : List String) :
    straighten place (names ++ more) = straighten (straighten place names) more := by
  induction names generalizing place with
  | nil => rfl
  | cons name names ih =>
    simp only [List.cons_append, straighten]
    split
    · exact ih _
    · exact ih _

/-- A name that does not lead upwards stays the last one. -/
theorem straighten_concat (place : Location) (names : List String) {name : String}
    (hname : name ≠ Path.above) : straighten place (names ++ [name]) =
      straighten place names ++ [name] := by
  rw [straighten_append, straighten, if_neg hname, straighten]

private theorem eq_straighten_of_follow {names : List String}
    (h : d.follow place names = .ok other) :
    other = straighten place names := by
  induction names generalizing place with
  | nil =>
    cases h
    rfl
  | cons name names ih =>
    rw [follow] at h
    rw [straighten]
    split
    next habove =>
      rw [if_pos habove] at h
      exact ih h
    next hname =>
      rw [if_neg hname] at h
      split at h
      · cases h
      split at h
      next hlast =>
        cases h
        rw [hlast, straighten]
      · split at h
        · exact ih h
        · cases h
        · cases h

theorem eq_placeOf_of_locate (h : d.locate p = .ok place) : place = d.placeOf p := by
  unfold locate at h
  split at h
  · cases h
  split at h
  · cases h
  exact eq_straighten_of_follow h

/-- The place of a file in a directory, by their paths from the top. -/
theorem placeOf_absolute_child (d : Disk) (p : Path) {name : String} (hname : name ≠ Path.above) :
    d.placeOf (d.absolute (p.child name)) = d.placeOf (d.absolute p) ++ [name] := by
  simp only [placeOf, absolute, Path.child]
  rw [straighten_concat _ _ hname, straighten_concat _ _ hname]
  rfl

theorem placeOf_absolute_congr (h : d'.home = d.home) (p : Path) :
    d'.placeOf (d'.absolute p) = d.placeOf (d.absolute p) := by
  have hstart (root : Root) : d'.start root = d.start root := by
    cases root
    · exact h
    · rfl
    · rfl
  simp only [placeOf, absolute, hstart]

/-- A disk on which folders and empty files were made, and nothing else was done. -/
structure Extends (d d' : Disk) : Prop where
  home_eq : d'.home = d.home
  kept : ∀ place entry, d.get? place = some entry → d'.get? place = some entry
  made : ∀ place, d.get? place = none →
    d'.get? place = none ∨ d'.get? place = some .folder ∨ d'.get? place = some (.file "")

namespace Extends

theorem refl (d : Disk) : d.Extends d :=
  ⟨rfl, fun _ _ h => h, fun _ h => .inl h⟩

theorem trans {d'' : Disk} (h : d.Extends d') (h' : d'.Extends d'') : d.Extends d'' := by
  refine ⟨h'.home_eq.trans h.home_eq, fun place entry hentry => ?_, fun place hnone => ?_⟩
  · exact h'.kept place entry (h.kept place entry hentry)
  · obtain hnone | hfolder | hfile := h.made place hnone
    · exact h'.made place hnone
    · exact .inr (.inl (h'.kept place _ hfolder))
    · exact .inr (.inr (h'.kept place _ hfile))

end Extends

/-- Nothing lies above the working folder but folders. -/
theorem isPrefixOf_home_eq_false (h : d.get? place ≠ some .folder) :
    place.isPrefixOf d.home = false := by
  rw [← Bool.not_eq_true]
  intro hprefix
  exact h (by rw [get?, if_pos hprefix])

theorem extends_put (hnone : d.get? place = none) {entry : Entry}
    (hentry : entry = .folder ∨ entry = .file "") : d.Extends (d.put place entry) := by
  have hput : (d.put place entry).get? place = some entry :=
    get?_put (isPrefixOf_home_eq_false (by simp [hnone])) entry
  refine ⟨rfl, fun other found hfound => ?_, fun other hother => ?_⟩
  · have hne : other ≠ place := by
      rintro rfl
      rw [hnone] at hfound
      cases hfound
    rw [get?_put_of_ne d hne]
    exact hfound
  · by_cases heq : other = place
    · subst other
      obtain rfl | rfl := hentry
      · exact .inr (.inl hput)
      · exact .inr (.inr hput)
    · rw [get?_put_of_ne d heq]
      exact .inl hother

theorem extends_ensureFolder (h : d.ensureFolder p = .ok d') : d.Extends d' := by
  unfold ensureFolder at h
  split at h
  next made hmade =>
    cases h
    obtain ⟨place, -, hmade⟩ := bind_eq_ok_iff.mp hmade
    split at hmade
    next hnone =>
      cases hmade
      exact extends_put hnone (.inl rfl)
    · cases hmade
  · split at h
    · cases h
      exact .refl d
    · cases h

/-- The folders above a folder may have been made even if the folder itself was not. -/
theorem extends_ensureFolders (d : Disk) (p : Path) : d.Extends (d.ensureFolders p).1 := by
  fun_induction ensureFolders d p with
  | case1 p d' hfolder => exact extends_ensureFolder hfolder
  | case2 p _ _ _ _ d' failure hparent ih =>
    rw [hparent] at ih
    exact ih
  | case3 p _ _ _ _ d' hparent d'' hfolder ih =>
    rw [hparent] at ih
    exact ih.trans (extends_ensureFolder hfolder)
  | case4 p _ _ _ _ d' hparent _ _ ih =>
    rw [hparent] at ih
    exact ih
  | case5 => exact .refl d

/-- A file that is opened is at the place that its path names. -/
theorem openFile_eq_ok (h : d.openFile p = .ok (d', place)) :
    place = d.placeOf p ∧ d.Extends d' ∧ ∃ text, d'.get? place = some (.file text) := by
  obtain ⟨found, hfound, h⟩ := bind_eq_ok_iff.mp h
  have hplace := eq_placeOf_of_locate hfound
  split at h
  · cases h
  next text hfile =>
    cases h
    exact ⟨hplace, .refl d, text, hfile⟩
  next hnone =>
    cases h
    refine ⟨hplace, extends_put hnone (.inr rfl), "", ?_⟩
    exact get?_put (isPrefixOf_home_eq_false (by simp [hnone])) _

theorem get?_append_self (h : d.get? place = some (.file text)) (more : String) :
    (d.append place more).get? place = some (.file (text ++ more)) := by
  unfold append
  rw [h]
  exact get?_put (isPrefixOf_home_eq_false (by simp [h])) _

theorem get?_append_of_ne (d : Disk) (hne : other ≠ place) (more : String) :
    (d.append place more).get? other = d.get? other := by
  unfold append
  split
  · rfl
  · exact get?_put_of_ne d hne _
  · exact get?_put_of_ne d hne _

@[simp] theorem home_append (d : Disk) (place : Location) (more : String) :
    (d.append place more).home = d.home := by
  unfold append
  split <;> rfl

end SendMeter.Storage.Disk
