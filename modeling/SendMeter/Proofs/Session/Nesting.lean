import SendMeter.Proofs.Fleet.ExactlyOnce
import SendMeter.Proofs.Fleet.Growth
import SendMeter.Proofs.Session.Accounts
import SendMeter.Proofs.Session.Steps

namespace SendMeter.Session

/-- Steps that have no body. -/
def Step.isSimple : Step → Bool
  | .call _ => false
  | .stepTask _ => false
  | .finishTask _ => false
  | .again _ _ => false
  | _ => true

/-- The session after steps that have no body. -/
def afterSteps (s : Session) (steps : List Step) : Session :=
  steps.foldl (fun s step => (s.simpleStep step).session) s

theorem afterSteps_append (s : Session) (steps more : List Step) :
    s.afterSteps (steps ++ more) = (s.afterSteps steps).afterSteps more :=
  List.foldl_append

theorem runStep_eq_simpleStep {step : Step} (hsimple : step.isSimple = true) (fuel : Nat)
    (s : Session) : (s.runStep (fuel + 1) step).1 = (s.simpleStep step).session := by
  cases step with
  | call c => cases hsimple
  | stepTask task => cases hsimple
  | finishTask task => cases hsimple
  | again times steps => cases hsimple
  | _ => rfl

theorem runSteps_eq_afterSteps {steps : List Step} (hsimple : ∀ step ∈ steps, step.isSimple = true)
    {fuel : Nat} (hfuel : steps.length < fuel) (s : Session) :
    (s.runSteps fuel steps).1 = s.afterSteps steps := by
  induction steps generalizing fuel s with
  | nil => cases fuel <;> rfl
  | cons step steps ih =>
    rw [List.length_cons] at hfuel
    obtain ⟨fuel, rfl⟩ : ∃ less, fuel = less + 2 := ⟨fuel - 2, by omega⟩
    have hstep := runStep_eq_simpleStep (hsimple step List.mem_cons_self) fuel s
    have hlt : steps.length < fuel + 1 := by omega
    simp only [runSteps]
    rw [hstep]
    exact ih (fun step hstep => hsimple step (List.mem_cons_of_mem _ hstep)) hlt _

section Block

variable {s : Session} {name : String} {b : Block}

private theorem lookup_filter_of_ne {β : Type} (names : List (String × β)) {name other : String}
    (hne : other ≠ name) : (names.filter (·.1 != name)).lookup other = names.lookup other := by
  induction names with
  | nil => rfl
  | cons entry names ih =>
    obtain ⟨key, thing⟩ := entry
    by_cases hkey : key = name
    · subst key
      rw [List.filter_cons_of_neg (by simp), List.lookup_cons, beq_false_of_ne hne]
      exact ih
    · rw [List.filter_cons_of_pos (by simp [hkey]), List.lookup_cons, List.lookup_cons, ih]

private theorem lookup_give_self {β : Type} (names : List (String × β)) (name : String)
    (thing : β) :
    (give names name thing).lookup name = some thing := by
  simp [give]

private theorem lookup_give_of_ne {β : Type} (names : List (String × β)) {name other : String}
    (hne : other ≠ name) (thing : β) :
    (give names name thing).lookup other = names.lookup other := by
  rw [give, List.lookup_cons, beq_false_of_ne hne]
  exact lookup_filter_of_ne names hne

theorem simpleStep_enter {f : Fleet Float} (hb : s.blocks.lookup name = some b)
    (hstart : s.fleet.start b.monitor s.clock = .ok f) :
    (s.simpleStep (.enter name)).session =
      { s.withFleet f with
        blocks := give s.blocks name { b with ticket := some s.fleet.nextTicket } } := by
  have henter := enterBlock_eq b s
  rw [hstart] at henter
  show (s.perform (enterNamed name)).session = _
  rw [enterNamed, perform_get_bind, lookupName_eq_ok_iff.mpr hb,
    perform_bind_of_ok (Work.ofExcept_ok b s), perform_bind_of_ok henter,
    perform_bind_of_ok (Work.modify_apply _ _), perform_get_bind]
  split
  · rfl
  · rfl

theorem simpleStep_leave {ticket : Nat} {success : Bool} {f : Fleet Float}
    (hb : s.blocks.lookup name = some b) (hticket : b.ticket = some ticket)
    (hcomplete : s.fleet.complete b.monitor ticket success none s.clock = .ok f) :
    (s.simpleStep (.leave name success)).session = s.withFleet f := by
  have hleave := leaveBlock_eq b success s
  simp only [hticket, hcomplete] at hleave
  show (s.perform (leaveNamed name success)).session = _
  rw [leaveNamed, perform_get_bind, lookupName_eq_ok_iff.mpr hb,
    perform_bind_of_ok (Work.ofExcept_ok b s), perform_bind_of_ok hleave]
  rfl

end Block

/-- A well-nested sequence of blocks that are entered and left, while the clock is moved. -/
inductive Nest where
  | done
  | clock (reading : Float) (rest : Nest)
  | block (name : String) (body : Nest) (success : Bool) (rest : Nest)

namespace Nest

def steps : Nest → List Step
  | done => []
  | clock reading rest => .setClock reading :: rest.steps
  | block name body success rest =>
    .enter name :: (body.steps ++ .leave name success :: rest.steps)

/-- The blocks that are entered. -/
def names : Nest → List String
  | done => []
  | clock _ rest => rest.names
  | block name body _ rest => name :: (body.names ++ rest.names)

/-- What a block alone adds to a monitor: its outcome only if it is not entered again in its
body. -/
def ownGain (monitorOf : String → Option Nat) (monitor : Nat) (name : String) (body : Nest)
    (success : Bool) : Gain :=
  if monitorOf name = some monitor then
    if name ∈ body.names then .attempt else .send success
  else 0

section OwnGain

variable {monitorOf : String → Option Nat} {monitor : Nat} {name : String} {body : Nest}

theorem ownGain_reentered (hmonitor : monitorOf name = some monitor) (hagain : name ∈ body.names)
    (other : Nat) (success : Bool) :
    ownGain monitorOf other name body success = .only monitor .attempt other := by
  rw [ownGain, if_pos hagain, hmonitor, Gain.only]
  simp only [Option.some.injEq]

theorem ownGain_own (hmonitor : monitorOf name = some monitor) (hnot : name ∉ body.names)
    (other : Nat) (success : Bool) :
    ownGain monitorOf other name body success = .only monitor (.send success) other := by
  rw [ownGain, if_neg hnot, hmonitor, Gain.only]
  simp only [Option.some.injEq]

end OwnGain

/-- What all blocks of a nest add to a monitor. -/
def gain (monitorOf : String → Option Nat) (monitor : Nat) : Nest → Gain
  | done => 0
  | clock _ rest => rest.gain monitorOf monitor
  | block name body success rest =>
    ownGain monitorOf monitor name body success + body.gain monitorOf monitor +
      rest.gain monitorOf monitor

/-- The number of times that a block on a monitor is entered, and then again in its body. -/
def lost (monitorOf : String → Option Nat) (monitor : Nat) : Nest → Nat
  | done => 0
  | clock _ rest => rest.lost monitorOf monitor
  | block name body _ rest =>
    (if monitorOf name = some monitor ∧ name ∈ body.names then 1 else 0) +
      body.lost monitorOf monitor + rest.lost monitorOf monitor

theorem attempts_ownGain (monitorOf : String → Option Nat) (monitor : Nat) (name : String)
    (body : Nest) (success : Bool) :
    (ownGain monitorOf monitor name body success).attempts =
      (ownGain monitorOf monitor name body success).successes +
        (ownGain monitorOf monitor name body success).failures +
        if monitorOf name = some monitor ∧ name ∈ body.names then 1 else 0 := by
  unfold ownGain
  by_cases hmonitor : monitorOf name = some monitor
  · rw [if_pos hmonitor]
    by_cases hagain : name ∈ body.names
    · rw [if_pos hagain, if_pos ⟨hmonitor, hagain⟩]
      rfl
    · rw [if_neg hagain, if_neg fun h => hagain h.2]
      cases success <;> rfl
  · rw [if_neg hmonitor, if_neg fun h => hmonitor h.1]
    rfl

theorem attempts_gain (monitorOf : String → Option Nat) (monitor : Nat) (nest : Nest) :
    (nest.gain monitorOf monitor).attempts = (nest.gain monitorOf monitor).successes +
      (nest.gain monitorOf monitor).failures + nest.lost monitorOf monitor := by
  induction nest with
  | done => rfl
  | clock reading rest ih => exact ih
  | block name body success rest ihbody ihrest =>
    have hown := attempts_ownGain monitorOf monitor name body success
    simp only [gain, lost, Gain.attempts_add, Gain.successes_add, Gain.failures_add]
    omega

private theorem isSimple_of_mem_steps {nest : Nest} {step : Step} (h : step ∈ nest.steps) :
    step.isSimple = true := by
  induction nest with
  | done => cases h
  | clock reading rest ih =>
    obtain rfl | h := List.mem_cons.mp h
    · rfl
    · exact ih h
  | block name body success rest ihbody ihrest =>
    obtain rfl | h := List.mem_cons.mp h
    · rfl
    · obtain h | h := List.mem_append.mp h
      · exact ihbody h
      · obtain rfl | h := List.mem_cons.mp h
        · rfl
        · exact ihrest h

end Nest

/-- The monitor of a block. -/
def blockMonitor? (s : Session) (name : String) : Option Nat :=
  (s.blocks.lookup name).map (·.monitor)

/-- Blocks with these names are there, on monitors of the session. -/
def BlocksKnown (s : Session) (names : List String) : Prop :=
  ∀ name ∈ names, ∃ monitor, s.blockMonitor? name = some monitor ∧
    monitor < s.fleet.monitors.length

/-- How a block is left that was entered in one session, when its body has led to another: the
outcome is recorded for the ticket that entering it was given, unless it was entered again. -/
def Exit (s ran left : Session) (name : String) (body : Nest) (success : Bool) : Prop :=
  if name ∈ body.names then
    left.fleet = ran.fleet ∧
      ∃ t, left.fleet.tickets[s.fleet.nextTicket]? = some t ∧ t.completed = false
  else ∃ monitor, s.blockMonitor? name = some monitor ∧
    RecordsOutcome ran left monitor s.fleet.nextTicket success
      (Scalar.maximum Scalar.zero (ran.clock - s.clock))

/-- Every block of a well-nested sequence starts a send when it is entered, and is left as it was
nested. -/
def Nest.Exits : Nest → Session → Prop
  | done, _ => True
  | clock reading rest, s => rest.Exits { s with clock := reading }
  | block name body success rest, s =>
    let entered := (s.simpleStep (.enter name)).session
    let ran := entered.afterSteps body.steps
    let left := (ran.simpleStep (.leave name success)).session
    (∃ monitor, s.blockMonitor? name = some monitor ∧ StartsSend s entered monitor) ∧
      Exit s ran left name body success ∧ body.Exits entered ∧ rest.Exits left

/-- What a well-nested sequence leaves behind: the gains of the monitors, and blocks whose tickets
are taken. -/
structure Ran (s s' : Session) (nest : Nest) : Prop where
  grows : s.fleet.Grows s'.fleet nest.steps.length
    fun monitor => nest.gain s.blockMonitor? monitor
  blockMonitor : s'.blockMonitor? = s.blockMonitor?
  kept : ∀ name, name ∉ nest.names → s'.blocks.lookup name = s.blocks.lookup name
  settled : ∀ name ∈ nest.names, ∃ b ticket t, s'.blocks.lookup name = some b ∧
    b.ticket = some ticket ∧ s'.fleet.tickets[ticket]? = some t ∧ t.completed = true

namespace Ran

variable {s s' s'' : Session} {name : String} {body rest : Nest} {success : Bool}

theorem append (h : Ran s s' (.block name body success .done)) (h' : Ran s' s'' rest) :
    Ran s s'' (.block name body success rest) := by
  have hmonitor := h'.grows
  rw [h.blockMonitor] at hmonitor
  refine ⟨?_, h'.blockMonitor.trans h.blockMonitor, ?_, ?_⟩
  · refine (h.grows.trans hmonitor).of_le ?_ fun monitor => ?_
    · simp only [Nest.steps, List.length_cons, List.length_append, List.length_nil]
      omega
    · rw [Nest.gain, Nest.gain, Nest.gain, Gain.add_zero]
  · intro other hother
    simp only [Nest.names, List.mem_cons, List.mem_append, not_or] at hother
    rw [h'.kept other hother.2.2]
    refine h.kept other ?_
    simp only [Nest.names, List.mem_cons, List.mem_append, List.not_mem_nil, not_or]
    exact ⟨hother.1, hother.2.1, not_false⟩
  · intro other hother
    by_cases hrest : other ∈ rest.names
    · exact h'.settled other hrest
    · have hfirst : other ∈ (Nest.block name body success .done).names := by
        simp only [Nest.names, List.mem_cons, List.mem_append, List.not_mem_nil, or_false,
          hrest] at hother ⊢
        exact hother
      obtain ⟨b, ticket, t, hb, hticket, ht, hcompleted⟩ := h.settled other hfirst
      exact ⟨b, ticket, t, (h'.kept other hrest).trans hb, hticket, h'.grows.getElem?_tickets ht,
        hcompleted⟩

end Ran

/-- A block that was entered holds the next ticket, and all other blocks are as they were. -/
structure Entered (s entered : Session) (name : String) (monitor : Nat) : Prop where
  start : s.fleet.start monitor s.clock = .ok entered.fleet
  clock : entered.clock = s.clock
  own : entered.blocks.lookup name = some ⟨monitor, some s.fleet.nextTicket⟩
  others : ∀ other, other ≠ name → entered.blocks.lookup other = s.blocks.lookup other

section Block

variable {s entered ran left : Session} {name : String} {body : Nest} {success : Bool}
  {monitor n : Nat}

theorem entered_of_ready (hmonitor : s.blockMonitor? name = some monitor)
    (hlt : monitor < s.fleet.monitors.length) (hready : s.fleet.Ready n)
    (hn : n + 1 < 2 ^ 1023) : Entered s (s.simpleStep (.enter name)).session name monitor := by
  obtain ⟨b, hb, rfl⟩ := Option.map_eq_some_iff.mp hmonitor
  obtain ⟨f, hstart⟩ :=
    isOk_iff_exists.mp (hready.isOk_start Binary64.countsBelow hn hlt s.clock)
  rw [simpleStep_enter hb hstart]
  exact ⟨hstart, rfl, lookup_give_self _ _ _, fun other hne => lookup_give_of_ne _ hne _⟩

namespace Entered

theorem blockMonitor (h : Entered s entered name monitor)
    (hmonitor : s.blockMonitor? name = some monitor) : entered.blockMonitor? = s.blockMonitor? := by
  funext other
  by_cases heq : other = name
  · subst other
    rw [hmonitor, blockMonitor?, h.own]
    rfl
  · rw [blockMonitor?, h.others other heq]
    rfl

/-- Leaving the block gives no names, and takes no ticket back. -/
theorem ran_leave (h : Entered s entered name monitor)
    (hmonitor : s.blockMonitor? name = some monitor) (hbody : Ran entered ran body)
    (hblocks : left.blocks = ran.blocks)
    (hgrows : s.fleet.Grows left.fleet (body.steps.length + 2) fun other =>
      Nest.ownGain s.blockMonitor? other name body success + body.gain s.blockMonitor? other)
    (htaken : ∀ (ticket : Nat) (t : Ticket Float), ran.fleet.tickets[ticket]? = some t →
      t.completed = true →
      ∃ t', left.fleet.tickets[ticket]? = some t' ∧ t'.completed = true)
    (hown : ∃ b ticket t, ran.blocks.lookup name = some b ∧ b.ticket = some ticket ∧
      left.fleet.tickets[ticket]? = some t ∧ t.completed = true) :
    Ran s left (.block name body success .done) := by
  have hsame : left.blockMonitor? = ran.blockMonitor? := by
    funext other
    rw [blockMonitor?, hblocks]
    rfl
  refine ⟨?_, ?_, fun other hother => ?_, fun other hother => ?_⟩
  · refine hgrows.of_le ?_ fun other => ?_
    · simp [Nest.steps]
    · rw [Nest.gain, Nest.gain, Gain.add_zero]
  · rw [hsame, hbody.blockMonitor, h.blockMonitor hmonitor]
  · simp only [Nest.names, List.append_nil, List.mem_cons, not_or] at hother
    rw [hblocks, hbody.kept other hother.2, h.others other hother.1]
  · rw [hblocks]
    simp only [Nest.names, List.append_nil, List.mem_cons] at hother
    obtain rfl | hother := hother
    · exact hown
    · obtain ⟨b, ticket, t, hb, hticket, ht, hcompleted⟩ := hbody.settled other hother
      obtain ⟨t', ht', hcompleted'⟩ := htaken ticket t ht hcompleted
      exact ⟨b, ticket, t', hb, hticket, ht', hcompleted'⟩

/-- A block that was entered again in its body holds a ticket that is taken. -/
theorem leave_reentered (h : Entered s entered name monitor)
    (hmonitor : s.blockMonitor? name = some monitor) (hlt : monitor < s.fleet.monitors.length)
    (hbody : Ran entered ran body) (hagain : name ∈ body.names) :
    Ran s (ran.simpleStep (.leave name success)).session (.block name body success .done) ∧
      Exit s ran (ran.simpleStep (.leave name success)).session name body success := by
  obtain ⟨hgrown, t, ht, -, hopen⟩ := Fleet.Grows.of_start h.start
  obtain ⟨b, ticket, taken, hb, hticket, htaken, hcompleted⟩ := hbody.settled name hagain
  have hran := hgrown.trans hbody.grows
  have hsame : ran.blockMonitor? name = some monitor := by
    rw [hbody.blockMonitor, h.blockMonitor hmonitor, hmonitor]
  have hb_monitor : b.monitor = monitor := by
    rw [blockMonitor?, hb] at hsame
    exact Option.some.inj hsame
  have hlt' : b.monitor < ran.fleet.monitors.length := by
    rw [hran.length_eq, hb_monitor]
    exact hlt
  have hcomplete := Fleet.complete_of_completed hlt' htaken hcompleted success ran.clock
  rw [simpleStep_leave hb hticket hcomplete]
  constructor
  · refine h.ran_leave hmonitor hbody rfl ?_ (fun ticket t ht hcompleted => ⟨t, ht, hcompleted⟩)
      ⟨b, ticket, taken, hb, hticket, htaken, hcompleted⟩
    refine hran.of_le (by omega) fun other => ?_
    rw [Nest.ownGain_reentered hmonitor hagain, h.blockMonitor hmonitor]
  · rw [Exit, if_pos hagain]
    exact ⟨rfl, t, hbody.grows.getElem?_tickets ht, hopen⟩

/-- A block that was not entered again holds the ticket that entering it was given. -/
theorem leave_own (h : Entered s entered name monitor)
    (hmonitor : s.blockMonitor? name = some monitor) (hlt : monitor < s.fleet.monitors.length)
    (hready : s.fleet.Ready n) (hn : n + body.steps.length + 2 < 2 ^ 1023)
    (hbody : Ran entered ran body) (hnot : name ∉ body.names) :
    Ran s (ran.simpleStep (.leave name success)).session (.block name body success .done) ∧
      Exit s ran (ran.simpleStep (.leave name success)).session name body success := by
  obtain ⟨hgrown, t, ht, hstarted, hopen⟩ := Fleet.Grows.of_start h.start
  have hran := hgrown.trans hbody.grows
  have hb := (hbody.kept name hnot).trans h.own
  have ht' := hbody.grows.getElem?_tickets ht
  have hlt' : monitor < ran.fleet.monitors.length := by
    rw [hran.length_eq]
    exact hlt
  obtain ⟨f, hcomplete⟩ := isOk_iff_exists.mp <|
    ((hran.ready n hready).isOk_complete_iff Binary64.countsBelow (by omega) hlt'
      (List.getElem?_eq_some_iff.mp ht').1 success none ran.clock).mpr fun _ hnone => by cases hnone
  rw [simpleStep_leave hb rfl hcomplete]
  have hleft := hran.complete (Nat.le_refl _) ht' hopen hcomplete
  have hrecords : RecordsOutcome ran (ran.withFleet f) monitor s.fleet.nextTicket success
      (Scalar.maximum Scalar.zero (ran.clock - t.startedAt)) :=
    recordsOutcome_of_complete ht' hopen hcomplete
  constructor
  · obtain ⟨t', ht', hcompleted'⟩ := hrecords.completed
    refine h.ran_leave hmonitor hbody rfl (hleft.of_le (by omega) fun other => ?_)
      (fun ticket t ht hcompleted => Fleet.completed_of_apply (h := hcomplete) ht hcompleted)
      ⟨_, _, t', hb, rfl, ht', hcompleted'⟩
    rw [Nest.ownGain_own hmonitor hnot, h.blockMonitor hmonitor]
    exact Gain.only_attempt_add monitor other success _
  · rw [Exit, if_neg hnot]
    rw [hstarted] at hrecords
    exact ⟨monitor, hmonitor, hrecords⟩

theorem leave (h : Entered s entered name monitor)
    (hmonitor : s.blockMonitor? name = some monitor) (hlt : monitor < s.fleet.monitors.length)
    (hready : s.fleet.Ready n) (hn : n + body.steps.length + 2 < 2 ^ 1023)
    (hbody : Ran entered ran body) (success : Bool) :
    Ran s (ran.simpleStep (.leave name success)).session (.block name body success .done) ∧
      Exit s ran (ran.simpleStep (.leave name success)).session name body success := by
  by_cases hagain : name ∈ body.names
  · exact h.leave_reentered hmonitor hlt hbody hagain
  · exact h.leave_own hmonitor hlt hready hn hbody hagain

end Entered

theorem BlocksKnown.of_subset {names more : List String} (h : s.BlocksKnown more)
    (hnames : ∀ name ∈ names, name ∈ more) {s' : Session}
    (hmonitor : s'.blockMonitor? = s.blockMonitor?)
    (hlength : s'.fleet.monitors.length = s.fleet.monitors.length) : s'.BlocksKnown names := by
  intro name hname
  rw [hmonitor, hlength]
  exact h name (hnames name hname)

end Block

/-- The induction is on the nest: a block is left after its body has settled all that was entered in
it, and what comes next finds all blocks on the same monitors. -/
theorem ran_afterSteps (nest : Nest) {s : Session} {n : Nat} (hknown : s.BlocksKnown nest.names)
    (hready : s.fleet.Ready n) (hn : n + nest.steps.length < 2 ^ 1023) :
    Ran s (s.afterSteps nest.steps) nest ∧ nest.Exits s := by
  induction nest generalizing s n with
  | done =>
    refine ⟨⟨Fleet.Grows.refl _, rfl, fun _ _ => rfl, fun name hname => ?_⟩, trivial⟩
    cases hname
  | clock reading rest ih =>
    rw [Nest.steps, List.length_cons] at hn
    have hrest := ih (s := { s with clock := reading }) hknown hready (by omega)
    obtain ⟨hran, hexits⟩ := hrest
    refine ⟨⟨hran.grows.of_le ?_ fun _ => rfl, hran.blockMonitor, hran.kept, hran.settled⟩, hexits⟩
    rw [Nest.steps, List.length_cons]
    exact Nat.le_succ _
  | block name body success rest ihbody ihrest =>
    rw [Nest.steps, List.length_cons, List.length_append, List.length_cons] at hn
    obtain ⟨monitor, hmonitor, hlt⟩ := hknown name List.mem_cons_self
    have hentered := entered_of_ready hmonitor hlt hready (by omega)
    obtain ⟨hgrown, -⟩ := Fleet.Grows.of_start hentered.start
    have hbody := ihbody
      (hknown.of_subset (fun other hother => List.mem_cons_of_mem _ (List.mem_append_left _ hother))
        (hentered.blockMonitor hmonitor) hgrown.length_eq)
      (hgrown.ready n hready) (by omega)
    have hleft := hentered.leave hmonitor hlt hready (by omega) hbody.1 success
    have hlength : (Nest.block name body success .done).steps.length = body.steps.length + 2 := by
      simp [Nest.steps]
    have hrest := ihrest
      (hknown.of_subset
        (fun other hother => List.mem_cons_of_mem _ (List.mem_append_right _ hother))
        hleft.1.blockMonitor hleft.1.grows.length_eq)
      (hleft.1.grows.ready n hready) (by omega)
    have hsteps : s.afterSteps (Nest.block name body success rest).steps =
        ((((s.simpleStep (.enter name)).session.afterSteps body.steps).simpleStep
          (.leave name success)).session).afterSteps rest.steps := by
      rw [Nest.steps]
      exact afterSteps_append _ _ _
    rw [hsteps]
    refine ⟨hleft.1.append hrest.1, ⟨monitor, hmonitor, ?_⟩, hleft.2, hbody.2, hrest.2⟩
    exact Fleet.apply_start_eq_ok (h := hentered.start)

/-- In every well-nested sequence, entering a block starts a send on its monitor, and leaving it
records the outcome of this send, with the time since it was entered, unless the block was entered
again in its body: then leaving it records nothing, and leaves the ticket of its send open. So what
is missing from the outcomes of a monitor are the blocks on it that were entered again. -/
theorem blocks_recorded_unless_reentered {s : Session} {n : Nat} (nest : Nest)
    (hknown : s.BlocksKnown nest.names) (hready : s.fleet.Ready n)
    (hn : n + nest.steps.length < 2 ^ 1023) :
    nest.Exits s ∧
    ∀ (monitor : Nat) (m : Monitor Float), s.fleet.monitors[monitor]? = some m →
      (nest.gain s.blockMonitor? monitor).attempts =
        (nest.gain s.blockMonitor? monitor).successes +
          (nest.gain s.blockMonitor? monitor).failures + nest.lost s.blockMonitor? monitor ∧
      ∃ after, (s.run nest.steps).1.fleet.monitors[monitor]? = some after ∧
        m.Gains after (nest.gain s.blockMonitor? monitor) := by
  obtain ⟨hran, hexits⟩ := ran_afterSteps nest hknown hready hn
  refine ⟨hexits, fun monitor m hm => ⟨Nest.attempts_gain _ monitor nest, ?_⟩⟩
  have hrun : (s.run nest.steps).1 = s.afterSteps nest.steps :=
    runSteps_eq_afterSteps (fun _ hstep => Nest.isSimple_of_mem_steps hstep)
      (Step.length_lt_costs _) s
  rw [hrun]
  exact hran.grows.gains monitor m hm

/-- Two monitors, and a block on each of them. -/
def desk : Session :=
  { start 0 (fun _ => .ok Settings.standard) .null with
    registry := ⟨Fleet.pair, []⟩, blocks := [("w", .around 0), ("v", .around 1)] }

theorem blocksKnown_desk {names : List String} (h : ∀ name ∈ names, name = "w" ∨ name = "v") :
    desk.BlocksKnown names := by
  intro name hname
  obtain rfl | rfl := h name hname
  · exact ⟨0, by decide +kernel, by decide +kernel⟩
  · exact ⟨1, by decide +kernel, by decide +kernel⟩

/-- A block with another one inside it, and then once more, entered again inside itself. -/
def reentering : Nest :=
  .block "w" (.clock 2 (.block "v" .done true (.clock 3 .done))) false
    (.block "w" (.block "w" .done true .done) true .done)

theorem blocks_recorded_unless_reentered_reentering :
    desk.BlocksKnown reentering.names ∧ reentering.Exits desk ∧
      reentering.lost desk.blockMonitor? 0 = 1 ∧
      ∃ after, (desk.run reentering.steps).1.fleet.monitors[0]? = some after ∧
        after.HasCounts 3 1 1 := by
  have hknown : desk.BlocksKnown reentering.names := blocksKnown_desk (by decide)
  obtain ⟨hexits, hgains⟩ := blocks_recorded_unless_reentered reentering hknown
    Fleet.isNew_pair.ready (by decide +kernel)
  have hm := List.getElem?_eq_getElem (show 0 < desk.fleet.monitors.length by decide +kernel)
  obtain ⟨hlost, after, hafter, hgained⟩ := hgains 0 _ hm
  obtain ⟨name, settings, now, hcreate⟩ := Fleet.isNew_pair.2 _ (List.mem_of_getElem? hm)
  obtain ⟨hcounts, hdated⟩ := Monitor.hasCounts_of_create hcreate
  exact ⟨hknown, hexits, by decide +kernel, after, hafter, (hgained 0 0 0 hcounts hdated).1⟩

/-- A failing block that is entered inside itself. -/
def twice : Nest :=
  .block "w" (.block "w" .done false .done) false .done

/-- A block that is entered inside itself leaves a send without an outcome. -/
theorem blocks_reentered_not_recorded :
    ¬ ∀ nest : Nest, desk.BlocksKnown nest.names →
      ∀ after, (desk.run nest.steps).1.fleet.monitors[0]? = some after →
        after.durations.average.count + after.errorCount = after.sendCount := by
  intro h
  have hall : ∀ after ∈ (desk.run twice.steps).1.fleet.monitors[0]?,
      ¬ after.durations.average.count + after.errorCount = after.sendCount := by
    decide +kernel
  have hsome : ((desk.run twice.steps).1.fleet.monitors[0]?).isSome := by decide +kernel
  obtain ⟨after, hafter⟩ := Option.isSome_iff_exists.mp hsome
  exact hall after hafter (h _ (blocksKnown_desk (by decide)) after hafter)

end SendMeter.Session
