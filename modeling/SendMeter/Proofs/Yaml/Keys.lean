import SendMeter.Proofs.History.Recorded
import SendMeter.Yaml.Document

namespace SendMeter.Yaml

/-- No two entries are under the same key. -/
def Unambiguous {β : Type} (entries : List (Value × β)) : Prop :=
  entries.Pairwise fun first second => first.1.sameKey second.1 = false

theorem Unambiguous.put {β : Type} {entries : List (Value × β)} (h : Unambiguous entries)
    (key : Value) (value : β) : Unambiguous (Value.put entries key value) := by
  unfold Value.put
  split
  · refine List.pairwise_map.mpr (h.imp fun {first second} hne => ?_)
    have hkey (entry : Value × β) :
        (if entry.1.sameKey key then (entry.1, value) else entry).1 = entry.1 := by
      split <;> rfl
    rw [hkey, hkey]
    exact hne
  next hnone =>
    refine List.pairwise_append.mpr ⟨h, List.pairwise_singleton _ _, ?_⟩
    intro entry hentry other hother
    cases List.mem_singleton.mp hother
    rw [← Bool.not_eq_true]
    exact fun hsame => hnone (List.any_eq_true.mpr ⟨entry, hentry, hsame⟩)

/-- All mappings that are reached through the values of mappings are unambiguous. -/
inductive WellKeyed : Value → Prop
  | map {entries : List (Value × Value)} (hkeys : Unambiguous entries)
    (hvalues : ∀ entry ∈ entries, WellKeyed entry.2) : WellKeyed (.map entries)
  | other {v : Value} (h : ∀ entries, v ≠ .map entries) : WellKeyed v

private theorem isKey_momentText {m : MomentText} {v : Value} (h : m.value = .ok v) :
    v.isKey = true := by
  unfold MomentText.value at h
  split at h
  · obtain ⟨d, -, rfl⟩ := map_eq_ok_iff.mp h
    rfl
  · dsimp only at h
    split at h
    · cases h
    · obtain ⟨date, -, h⟩ := bind_eq_ok_iff.mp h
      repeat' split at h
      all_goals cases h
      rfl

theorem isKey_scalarValue {tag : Tag} {place : Nat} {ps : List Text.Point} {v : Value}
    (h : scalarValue tag place ps = .ok v) : v.isKey = true := by
  unfold scalarValue at h
  split at h
  · cases h
    rfl
  · obtain ⟨b, -, rfl⟩ := map_eq_ok_iff.mp h
    rfl
  · obtain ⟨n, -, rfl⟩ := map_eq_ok_iff.mp h
    rfl
  · obtain ⟨x, -, rfl⟩ := map_eq_ok_iff.mp h
    unfold floatValue
    split
    · rfl
    · split <;> rfl
  · obtain ⟨b, -, rfl⟩ := map_eq_ok_iff.mp h
    rfl
  · unfold momentOfText at h
    split at h
    · cases h
    · exact isKey_momentText (mapError_eq_ok_iff.mp h)
  · cases h
    unfold Value.ofPoints
    cases Text.characters? ps <;> rfl
  · cases h

/-- The meaning of a node whose mappings are unambiguous. -/
def Meaning.WellKeyed : Meaning → Prop
  | .single v => v.isKey = true
  | .map entries => Unambiguous entries
  | _ => True

namespace Builder

def Keyed (b : Builder) : Prop :=
  ∀ number m, meaningAt? b.meanings number = some m → m.WellKeyed

variable {α β : Type} {P : α → Prop} {Q : β → Prop}

/-- A step of the building leaves all mappings unambiguous, and its result has a property. -/
def Ensures (x : Build α) (P : α → Prop) : Prop :=
  ∀ b, b.Keyed → ∀ a b', x.run b = .ok (a, b') → b'.Keyed ∧ P a

theorem ensures_pure {a : α} (h : P a) : Ensures (pure a) P := by
  intro b hb a' b' hrun
  cases hrun
  exact ⟨hb, h⟩

theorem Ensures.bind {x : Build α} {f : α → Build β} (hx : Ensures x P)
    (hf : ∀ a, P a → Ensures (f a) Q) : Ensures (x >>= f) Q := by
  intro b hb c b'' hrun
  rw [StateT.run_bind] at hrun
  obtain ⟨⟨a, b'⟩, hfirst, hrun⟩ := bind_eq_ok_iff.mp hrun
  obtain ⟨hb', ha⟩ := hx b hb a b' hfirst
  exact hf a ha b' hb' c b'' hrun

theorem ensures_throw (fault : Fault) : Ensures (throw fault : Build α) P := by
  intro b hb a b' hrun
  cases hrun

theorem ensures_lift {x : Except Fault α} (h : ∀ a, x = .ok a → P a) :
    Ensures (x : Build α) P := by
  intro b hb a b' hrun
  cases hx : x with
  | error fault =>
    rw [hx] at hrun
    cases hrun
  | ok a =>
    rw [hx] at hrun
    cases hrun
    exact ⟨hb, h a hx⟩

theorem ensures_get : Ensures (get : Build Builder) Keyed := by
  intro b hb a b' hrun
  cases hrun
  exact ⟨hb, hb⟩

theorem ensures_modify {f : Builder → Builder} (h : ∀ b, b.Keyed → (f b).Keyed) :
    Ensures (modify f : Build Unit) fun _ => True := by
  intro b hb a b' hrun
  cases hrun
  exact ⟨h b hb, trivial⟩

theorem ensures_modify_rest {f : Builder → Builder} (h : ∀ b, (f b).meanings = b.meanings) :
    Ensures (modify f : Build Unit) fun _ => True :=
  ensures_modify fun b hb => by
    unfold Keyed
    rw [h]
    exact hb

private theorem ensures_foldlM {γ : Type} {f : β → γ → Build β}
    (hf : ∀ x y, Q x → Ensures (f x y) Q) (items : List γ) {x : β} (hx : Q x) :
    Ensures (items.foldlM f x) Q := by
  induction items generalizing x with
  | nil => exact ensures_pure hx
  | cons item items ih =>
    rw [List.foldlM_cons]
    exact (hf x item hx).bind fun next hnext => ih hnext

private theorem ensures_forM {γ : Type} {f : γ → Build Unit}
    (hf : ∀ item, Ensures (f item) fun _ => True) (items : List γ) :
    Ensures (items.forM f) fun _ => True := by
  induction items with
  | nil => exact ensures_pure trivial
  | cons item items ih => exact (hf item).bind fun _ _ => ih

private theorem ensures_mapM {γ : Type} {f : γ → Build α}
    (hf : ∀ item, Ensures (f item) fun _ => True) (items : List γ) :
    Ensures (items.mapM f) fun _ => True := by
  induction items with
  | nil => exact ensures_pure trivial
  | cons item items ih =>
    rw [List.mapM_cons]
    exact (hf item).bind fun _ _ => ih.bind fun _ _ => ensures_pure trivial

theorem ensures_setMeaning (number : Nat) {m : Meaning} (hm : m.WellKeyed) :
    Ensures (setMeaning number m) fun _ => True := by
  refine ensures_modify fun b hb other m' hm' => ?_
  unfold meaningAt? at hm'
  rw [Array.getElem?_setIfInBounds] at hm'
  split at hm'
  · split at hm'
    · cases hm'
      exact hm
    · cases hm'
  · exact hb other m' hm'

theorem ensures_meet (number : Nat) : Ensures (meet number) fun _ => True := by
  unfold meet
  refine ensures_get.bind fun b hb => ?_
  split
  · exact ensures_pure trivial
  dsimp only
  split
  · exact (ensures_setMeaning number (m := .waiting) trivial).bind fun _ _ =>
      ensures_modify_rest fun _ => rfl
  · refine (ensures_lift fun _ _ => trivial).bind fun text _ => ?_
    have hvalue : Ensures (do
        let v ← (scalarValue (tagAt b.nodes number) number text : Except Fault Value)
        setMeaning number (.single v)) fun _ => True :=
      (ensures_lift fun v hv => isKey_scalarValue hv).bind fun v hv => ensures_setMeaning number hv
    split
    · exact (ensures_throw (P := fun _ => True) _).bind fun _ _ => hvalue
    · exact hvalue

theorem ensures_meetPair (entry : Nat × Nat) : Ensures (meetPair entry) fun _ => True :=
  (ensures_meet entry.1).bind fun _ _ => ensures_meet entry.2

theorem ensures_meetEntry {entries : List (Value × Nat)} (h : Unambiguous entries)
    (entry : Nat × Nat) : Ensures (meetEntry entries entry) Unambiguous := by
  unfold meetEntry
  refine (ensures_meet entry.1).bind fun _ _ => ensures_get.bind fun b _ => ?_
  split
  next key _ => exact (ensures_meet entry.2).bind fun _ _ => ensures_pure (h.put key entry.2)
  · exact ensures_throw _

theorem ensures_meetEntries (number : Nat) : Ensures (meetEntries number) Unambiguous := by
  unfold meetEntries
  refine ensures_get.bind fun b _ => (ensures_lift fun _ _ => trivial).bind fun nodes _ =>
    (ensures_modify_rest (by intro; rfl)).bind fun _ _ => ?_
  split
  next entries _ =>
    exact ensures_foldlM (fun _ entry h => ensures_meetEntry h entry) entries List.Pairwise.nil
  · exact ensures_throw _

theorem ensures_expand (number : Nat) : Ensures (expand number) fun _ => True := by
  unfold expand
  refine ensures_get.bind fun b _ => ?_
  dsimp only
  split
  · exact (ensures_meetEntries number).bind fun _ h => ensures_setMeaning number h
  · exact (ensures_meetEntries number).bind fun _ _ => ensures_setMeaning number trivial
  · exact (ensures_forM ensures_meet _).bind fun _ _ => ensures_setMeaning number trivial
  · refine (ensures_mapM (fun item => ?_) _).bind fun _ _ => ensures_setMeaning number trivial
    split
    next entry _ => exact (ensures_meetPair entry).bind fun _ _ => ensures_pure trivial
    · exact ensures_throw _
  · exact ensures_throw _

theorem ensures_run (fuel : Nat) : Ensures (run fuel) fun _ => True := by
  induction fuel with
  | zero => exact ensures_pure trivial
  | succ fuel ih =>
    unfold run
    refine ensures_get.bind fun b _ => ?_
    split
    · exact ensures_pure trivial
    next number queue _ =>
      exact (ensures_modify_rest (by intro; rfl)).bind fun _ _ =>
        (ensures_expand number).bind fun _ _ => ih

end Builder

theorem wellKeyed_valueTo {meanings : Array (Option Meaning)}
    (h : ∀ number m, meaningAt? meanings number = some m → m.WellKeyed) (levels number : Nat) :
    WellKeyed (valueTo meanings levels number) := by
  have hsingle {v : Value} (hv : v.isKey = true) : WellKeyed v :=
    .other fun entries heq => by
      subst heq
      cases hv
  induction levels generalizing number with
  | zero =>
    unfold valueTo
    split
    next v hmeaning => exact hsingle (h number _ hmeaning)
    · exact .map List.Pairwise.nil nofun
    · exact .other nofun
    · exact .other nofun
  | succ levels ih =>
    unfold valueTo
    dsimp only
    split
    next v hmeaning => exact hsingle (h number _ hmeaning)
    next entries hmeaning =>
      refine .map (List.pairwise_map.mpr (h number _ hmeaning)) fun entry hentry => ?_
      obtain ⟨origin, -, rfl⟩ := List.mem_map.mp hentry
      exact ih origin.2
    · exact .other nofun
    · exact .other nofun
    · exact .other nofun
    · exact .other nofun

/-- A loader that reads no mapping with one key twice. -/
class LawfulLoader [Loader] : Prop where
  wellKeyed_ofText : ∀ {cs : List Char} {v : Value}, Loader.ofText cs = .ok v → WellKeyed v

theorem wellKeyed_ofText {depthLimit : Nat} {cs : List Char} {v : Value}
    (h : Value.ofText depthLimit cs = .ok v) : WellKeyed v := by
  obtain ⟨graph, -, h⟩ := bind_eq_ok_iff.mp h
  unfold Graph.value at h
  split at h
  · cases h
    exact .other nofun
  · obtain ⟨⟨⟨⟩, b⟩, hbuild, h⟩ := bind_eq_ok_iff.mp h
    cases h
    refine wellKeyed_valueTo ?_ levels _
    have hstart : Builder.Keyed
        { nodes := graph.nodes, meanings := Array.replicate graph.nodes.size none, queue := [] } := by
      intro number m hm
      unfold meaningAt? at hm
      rw [Array.getElem?_replicate] at hm
      split at hm <;> cases hm
    exact (((Builder.ensures_meet _).bind fun _ _ => Builder.ensures_run _) _ hstart _ _ hbuild).1

instance (depthLimit : Nat) : @LawfulLoader (.ofDepth depthLimit) :=
  @LawfulLoader.mk (.ofDepth depthLimit) wellKeyed_ofText

end SendMeter.Yaml
