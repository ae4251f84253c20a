import SendMeter.Proofs.Fleet.ExactlyOnce
import SendMeter.Proofs.Fleet.Growth
import SendMeter.Proofs.Session.Interception

namespace SendMeter

namespace Session

namespace Step

mutual

/-- A call whose body is made of such steps, or a step that calls no hook. -/
def isTree : Step → Bool
  | call c => bodyIsTrees c
  | advance _ => true
  | setClock _ => true
  | step => step.reads

def bodyIsTrees : Call Step → Bool
  | ⟨_, _, _, _, body, _⟩ => areTrees body

def areTrees : List Step → Bool
  | [] => true
  | step :: steps => isTree step && areTrees steps

end

mutual

/-- What the calls in a tree add to a monitor. A call on a monitor that is not known is not made, and
neither are those in its body. -/
def gain (handles : List (String × Nat)) (monitor : Nat) : Step → Gain
  | call c => callGain handles monitor c
  | _ => 0

def callGain (handles : List (String × Nat)) (monitor : Nat) : Call Step → Gain
  | ⟨_, handle, _, _, body, ending⟩ =>
    match handles.lookup handle with
    | some number => .only number (.send ending.succeeds) monitor + gains handles monitor body
    | none => 0

def gains (handles : List (String × Nat)) (monitor : Nat) : List Step → Gain
  | [] => 0
  | step :: steps => gain handles monitor step + gains handles monitor steps

end

theorem callGain_eq (handles : List (String × Nat)) (monitor : Nat) (c : Call Step) :
    callGain handles monitor c = match handles.lookup c.monitor with
      | some number =>
        .only number (.send c.ending.succeeds) monitor + gains handles monitor c.body
      | none => 0 := by
  cases c
  rw [callGain]

mutual

/-- Every call in a tree has one outcome. -/
theorem attempts_gain (handles : List (String × Nat)) (monitor : Nat) (step : Step) :
    (gain handles monitor step).attempts =
      (gain handles monitor step).successes + (gain handles monitor step).failures := by
  cases step with
  | call c =>
    rw [gain]
    exact attempts_callGain handles monitor c
  | _ => rfl

theorem attempts_callGain (handles : List (String × Nat)) (monitor : Nat) (c : Call Step) :
    (callGain handles monitor c).attempts =
      (callGain handles monitor c).successes + (callGain handles monitor c).failures := by
  cases c with
  | mk path handle channel advance body ending =>
    have hbody := attempts_gains handles monitor body
    rw [callGain]
    cases handles.lookup handle with
    | none => rfl
    | some number =>
      have hsend := Gain.attempts_only_send number monitor ending.succeeds
      simp only [Gain.attempts_add, Gain.successes_add, Gain.failures_add]
      omega

theorem attempts_gains (handles : List (String × Nat)) (monitor : Nat) (steps : List Step) :
    (gains handles monitor steps).attempts =
      (gains handles monitor steps).successes + (gains handles monitor steps).failures := by
  cases steps with
  | nil => rfl
  | cons step steps =>
    have hstep := attempts_gain handles monitor step
    have hsteps := attempts_gains handles monitor steps
    rw [gains]
    simp only [Gain.attempts_add, Gain.successes_add, Gain.failures_add]
    omega

end

private theorem bodyIsTrees_eq (c : Call Step) : bodyIsTrees c = areTrees c.body := by
  cases c
  rw [bodyIsTrees]

private theorem callCost_eq (c : Call Step) : callCost c = costs c.body := by
  cases c
  rw [callCost]

end Step

/-- The handles of a session lead to monitors that it has. -/
def HandlesKnown (s : Session) : Prop :=
  ∀ entry ∈ s.handles, entry.2 < s.fleet.monitors.length

/-- A run that gives no handles, and adds a gain to each monitor. -/
structure Grown (s s' : Session) (hooks : Nat) (gain : Nat → Gain) : Prop where
  fleet : s.fleet.Grows s'.fleet hooks gain
  handles : s'.handles = s.handles

variable {s s' s'' : Session} {hooks more : Nat} {gain gain' : Nat → Gain}

namespace Grown

theorem of_fleet_eq (hfleet : s'.fleet = s.fleet) (hhandles : s'.handles = s.handles)
    (hooks : Nat) : Grown s s' hooks fun _ => 0 := by
  refine ⟨?_, hhandles⟩
  rw [hfleet]
  exact (Fleet.Grows.refl s.fleet).of_le (Nat.zero_le hooks) fun _ => rfl

theorem trans (h : Grown s s' hooks gain) (h' : Grown s' s'' more gain') :
    Grown s s'' (hooks + more) fun monitor => gain monitor + gain' monitor :=
  ⟨h.fleet.trans h'.fleet, h'.handles.trans h.handles⟩

theorem handlesKnown (h : Grown s s' hooks gain) (hs : s.HandlesKnown) : s'.HandlesKnown := by
  intro entry hentry
  rw [h.handles] at hentry
  rw [h.fleet.length_eq]
  exact hs entry hentry

end Grown

/-- A send whose code grows: the code is between the two hooks, and both are accepted. -/
theorem exists_sendByHooks_grown {ρ : Type} {monitor n : Nat} {code : Code ρ}
    (hmonitor : monitor < s.fleet.monitors.length) (hready : s.fleet.Ready n)
    (hn : n + hooks + 2 < 2 ^ 1023)
    (hcode : ∀ started, started.handles = s.handles →
      started.fleet.monitors.length = s.fleet.monitors.length → started.fleet.Ready (n + 1) →
      Grown started (code started).1 hooks gain) :
    ∃ started s', started.handles = s.handles ∧
      started.fleet.monitors.length = s.fleet.monitors.length ∧ started.fleet.Ready (n + 1) ∧
      sendByHooks monitor code s = .ok (code started).2 s' ∧
      Grown s s' (hooks + 2) fun other =>
        .only monitor (.send (code started).2.2.succeeds) other + gain other := by
  obtain ⟨started, hstart⟩ := isOk_iff_exists.mp
    (hready.isOk_start Binary64.countsBelow (by omega) hmonitor s.clock)
  obtain ⟨hbegun, t, ht, -, hopen⟩ := Fleet.Grows.of_start hstart
  have hran := hcode (s.withFleet started) rfl hbegun.length_eq (hbegun.ready n hready)
  have hgrown := hbegun.trans hran.fleet
  have ht' := hran.fleet.getElem?_tickets ht
  have hlt : monitor < (code (s.withFleet started)).1.fleet.monitors.length := by
    rw [hgrown.length_eq]
    exact hmonitor
  obtain ⟨completed, hcomplete⟩ := isOk_iff_exists.mp <|
    ((hgrown.ready n hready).isOk_complete_iff Binary64.countsBelow (by omega) hlt
      (List.getElem?_eq_some_iff.mp ht').1 (code (s.withFleet started)).2.2.succeeds none
      (code (s.withFleet started)).1.clock).mpr fun _ hnone => by cases hnone
  refine ⟨s.withFleet started, _, rfl, hbegun.length_eq, hbegun.ready n hready,
    sendByHooks_of_complete hstart rfl hcomplete, ?_, hran.handles⟩
  have hended := hgrown.complete (Nat.le_refl _) ht' hopen hcomplete
  exact hended.of_le (by omega) fun other => Gain.only_attempt_add monitor other _ _

section Nested

variable {ρ : Type}

/-- A send around code: the path that it takes, its channel, and its monitor. -/
structure Layer where
  path : Path
  channel : String
  monitor : Nat

/-- Code inside of sends that are inside of each other, the first of them outermost. A hook that is
refused raises an error. -/
def nested (refused : StepFault → Raised) (code : Code ρ) : List Layer → Code (Option ρ)
  | [] => fun s =>
    let (ran, given, ending) := code s
    (ran, some given, ending)
  | layer :: layers => fun s =>
    match send layer.path layer.channel layer.monitor (nested refused code layers) s with
    | .ok sent left => (left, sent.given, sent.ending)
    | .error fault left => (left, none, .raises (refused fault))

/-- What sends around code that succeeds or fails add to a monitor. -/
def layersGain (success : Bool) (monitor : Nat) (layers : List Layer) : Gain :=
  (layers.map fun layer => Gain.only layer.monitor (.send success) monitor).foldr (· + ·) 0

theorem layersGain_eq (success : Bool) (monitor : Nat) (layers : List Layer) :
    (layersGain success monitor layers).attempts =
        layers.countP (fun layer => layer.monitor = monitor) ∧
      (layersGain success monitor layers).failures =
        if success then 0 else layers.countP (fun layer => layer.monitor = monitor) := by
  induction layers with
  | nil =>
    cases success with
    | true => exact ⟨rfl, rfl⟩
    | false => exact ⟨rfl, rfl⟩
  | cons layer layers ih =>
    obtain ⟨hattempts, hfailures⟩ := ih
    have hcons : layersGain success monitor (layer :: layers) =
        Gain.only layer.monitor (.send success) monitor + layersGain success monitor layers := rfl
    rw [hcons, Gain.attempts_add, Gain.failures_add, hattempts, hfailures, List.countP_cons,
      Gain.only]
    by_cases hmonitor : layer.monitor = monitor
    · cases success with
      | true => simp [hmonitor, Gain.send, Gain.attempt, Gain.outcome, Nat.add_comm]
      | false => simp [hmonitor, Gain.send, Gain.attempt, Gain.outcome, Nat.add_comm]
    · simp [hmonitor]

/-- What the innermost code of nested sends ends with comes out of all of them, on whichever paths
and monitors. An error that it raises makes each of them fail. -/
theorem nested_hands_out (refused : StepFault → Raised) {code : Code ρ} {ending : Ending}
    (layers : List Layer) {s : Session} {n : Nat}
    (hlayers : ∀ layer ∈ layers, layer.monitor < s.fleet.monitors.length)
    (hready : s.fleet.Ready n) (hn : n + (hooks + 2 * layers.length) < 2 ^ 1023)
    (hcode : ∀ started, started.handles = s.handles →
      started.fleet.monitors.length = s.fleet.monitors.length →
      started.fleet.Ready (n + layers.length) →
      (code started).2.2 = ending ∧ Grown started (code started).1 hooks gain) :
    ∃ s' given, nested refused code layers s = (s', some given, ending) ∧
      Grown s s' (hooks + 2 * layers.length) fun monitor =>
        layersGain ending.succeeds monitor layers + gain monitor := by
  induction layers generalizing s n with
  | nil =>
    obtain ⟨hending, hgrown⟩ := hcode s rfl rfl hready
    refine ⟨(code s).1, (code s).2.1, ?_, ?_⟩
    · rw [nested, ← hending]
    · exact ⟨hgrown.fleet.of_le (Nat.le_refl _) fun monitor => (Gain.zero_add _).symm,
        hgrown.handles⟩
  | cons layer layers ih =>
    rw [List.length_cons] at hn hcode ⊢
    have hinner (started : Session) (hhandles : started.handles = s.handles)
        (hlength : started.fleet.monitors.length = s.fleet.monitors.length)
        (hstarted : started.fleet.Ready (n + 1)) :
        ∃ s' given, nested refused code layers started = (s', some given, ending) ∧
          Grown started s' (hooks + 2 * layers.length) fun monitor =>
            layersGain ending.succeeds monitor layers + gain monitor := by
      refine ih (fun layer hmem => ?_) hstarted (by omega)
        fun innermost hsame hlength' hready' => ?_
      · rw [hlength]
        exact hlayers layer (List.mem_cons_of_mem _ hmem)
      · rw [Nat.add_assoc, Nat.add_comm 1] at hready'
        exact hcode innermost (hsame.trans hhandles) (hlength'.trans hlength) hready'
    have hgrown (started : Session) (hhandles : started.handles = s.handles)
        (hlength : started.fleet.monitors.length = s.fleet.monitors.length)
        (hstarted : started.fleet.Ready (n + 1)) :
        Grown started (nested refused code layers started).1 (hooks + 2 * layers.length)
          fun monitor => layersGain ending.succeeds monitor layers + gain monitor := by
      obtain ⟨left, given, hinside, hgrown⟩ := hinner started hhandles hlength hstarted
      rw [hinside]
      exact hgrown
    obtain ⟨started, s', hhandles, hlength, hstarted, hsend, hgrown⟩ :=
      exists_sendByHooks_grown (hlayers layer List.mem_cons_self) hready (by omega) hgrown
    obtain ⟨_, given, hnested, -⟩ := hinner started hhandles hlength hstarted
    rw [hnested] at hsend hgrown
    obtain ⟨before, after, hsent⟩ := send_eq_ok layer.path layer.channel hsend
    refine ⟨s', given, ?_, hgrown.fleet.of_le (by omega) fun monitor => ?_, hgrown.handles⟩
    · simp only [nested, hsent]
    · exact (Gain.add_assoc _ _ _).symm

end Nested

section Trees

-- The induction is on the fuel, as in the definitions of the runs. What a tree costs is enough fuel
-- for it, and more than the hooks that it calls.
mutual

theorem grown_runStep (fuel : Nat) {s : Session} (hs : s.HandlesKnown) {n : Nat}
    (hready : s.fleet.Ready n) (step : Step) (htree : step.isTree = true)
    (hfuel : step.cost ≤ fuel) (hn : n + step.cost < 2 ^ 1023) :
    Grown s (s.runStep fuel step).1 step.cost fun monitor => step.gain s.handles monitor := by
  cases fuel with
  | zero => cases step <;> simp [Step.cost] at hfuel
  | succ fuel =>
    have hreads (hreads : step.reads = true) :
        Grown s (s.simpleStep step).session step.cost fun _ => 0 := by
      rw [session_simpleStep_of_reads hreads]
      exact .of_fleet_eq rfl rfl _
    cases step with
    | call c =>
      rw [Step.cost] at hfuel hn ⊢
      exact grown_runCall fuel hs hready c htree (by omega) (by omega)
    | advance seconds =>
      refine Grown.of_fleet_eq ?_ ?_ 4
      · rfl
      · rfl
    | setClock reading =>
      refine Grown.of_fleet_eq ?_ ?_ 4
      · rfl
      · rfl
    | stepTask task => cases htree
    | finishTask task => cases htree
    | again times steps => cases htree
    | _ => exact hreads htree

theorem grown_runSteps (fuel : Nat) {s : Session} (hs : s.HandlesKnown) {n : Nat}
    (hready : s.fleet.Ready n) (steps : List Step) (htree : Step.areTrees steps = true)
    (hfuel : Step.costs steps ≤ fuel) (hn : n + Step.costs steps < 2 ^ 1023) :
    Grown s (s.runSteps fuel steps).1 (Step.costs steps)
      fun monitor => Step.gains s.handles monitor steps := by
  cases fuel with
  | zero =>
    have hpos := Step.costs_pos steps
    omega
  | succ fuel =>
    cases steps with
    | nil => exact .of_fleet_eq rfl rfl _
    | cons step steps =>
      rw [Step.areTrees, Bool.and_eq_true] at htree
      rw [Step.costs] at hfuel hn ⊢
      have hpos := Step.costs_pos steps
      have hpos' := Step.cost_pos step
      have hstep := grown_runStep fuel hs hready step htree.1 (by omega) (by omega)
      have hsteps := grown_runSteps fuel (hstep.handlesKnown hs) (hstep.fleet.ready n hready) steps
        htree.2 (by omega) (by omega)
      rw [hstep.handles] at hsteps
      exact hstep.trans hsteps

theorem grown_runCall (fuel : Nat) {s : Session} (hs : s.HandlesKnown) {n : Nat}
    (hready : s.fleet.Ready n) (c : Call Step) (htree : Step.bodyIsTrees c = true)
    (hfuel : Step.callCost c < fuel) (hn : n + Step.callCost c + 2 < 2 ^ 1023) :
    Grown s (s.runCall fuel c).1 (4 + Step.callCost c)
      fun monitor => Step.callGain s.handles monitor c := by
  cases fuel with
  | zero => cases hfuel
  | succ fuel =>
    rw [Step.callCost_eq] at hfuel hn ⊢
    rw [Step.bodyIsTrees_eq] at htree
    simp only [Step.callGain_eq]
    cases hmonitor : s.handles.lookup c.monitor with
    | none =>
      have hresolve : s.resolve c.monitor = .error (.unknownName c.monitor) := by
        simp [resolve, monitorNumber?, hmonitor]
      simp only [runCall, hresolve]
      exact .of_fleet_eq rfl rfl _
    | some monitor =>
      have hlt : monitor < s.fleet.monitors.length := hs _ (mem_of_lookup hmonitor)
      have hbody (started : Session) (hhandles : started.handles = s.handles)
          (hlength : started.fleet.monitors.length = s.fleet.monitors.length)
          (hstarted : started.fleet.Ready (n + 1)) :
          Grown started (callCode fuel c started).1 (Step.costs c.body)
            fun monitor => Step.gains s.handles monitor c.body := by
        have hknown : (started.advanceBy c.advance).HandlesKnown := by
          intro entry hentry
          have hentry : entry ∈ started.handles := hentry
          rw [fleet_advanceBy, hlength]
          exact hs entry (hhandles ▸ hentry)
        have hran := grown_runSteps fuel hknown hstarted c.body htree (by omega) (by omega)
        have hsame : (started.advanceBy c.advance).handles = s.handles := hhandles
        rw [hsame] at hran
        exact ⟨hran.fleet, hran.handles.trans (hsame.trans hhandles.symm)⟩
      obtain ⟨started, s', -, -, -, hsend, hgrown⟩ :=
        exists_sendByHooks_grown hlt hready (by omega) hbody
      obtain ⟨before, after, reply, hcall, -⟩ := runCall_eq_of_ok hmonitor hsend
      rw [hcall]
      exact ⟨hgrown.fleet.of_le (by omega) fun _ => rfl, hgrown.handles⟩

end

end Trees

/-- A session with two monitors. -/
def paired : Session :=
  { start 0 (fun _ => .ok Settings.standard) .null with
    registry := ⟨Fleet.pair, []⟩, handles := [("mail", 0), ("log", 1)] }

theorem orderly_paired : paired.Orderly := by
  refine ⟨⟨?_, ?_⟩, ?_, ?_, ?_, ?_⟩
  · intro p hp
    cases hp
  · intro p hp
    cases hp
  · decide +kernel
  · intro entry hentry
    cases hentry
  · intro entry hentry
    cases hentry
  · intro entry hentry
    cases hentry

/-- A send that is interrupted after two sends in its body, one of which failed. -/
def interrupted : Call Step :=
  { path := .proxy, monitor := "mail", channel := "mail", advance := 1
    body := [
      .call {
        path := .wrappedTask, monitor := "log", channel := "log", advance := 1, body := []
        ending := .raises ⟨"ValueError", "lost"⟩ },
      .snapshot "mail",
      .call {
        path := .block, monitor := "mail", channel := "mail", advance := 1, body := []
        ending := .returns .null }]
    ending := .raises ⟨"KeyboardInterrupt", ""⟩ }

end Session

end SendMeter
