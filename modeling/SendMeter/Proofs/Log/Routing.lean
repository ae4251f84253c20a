import SendMeter.Proofs.Log.Setups

namespace SendMeter.Log

open Storage

/-- What happens to a log: it is set up, or it gets a notice. -/
inductive Event where
  | setUp (s : Setup)
  | post (n : Notice)

/-- What a setup establishes: the severity that a notice needs, and the folder of the log files. -/
structure Installation where
  severity : Nat
  folder : Location
deriving DecidableEq, Repr

namespace Installation

def journal (i : Installation) : Location :=
  i.folder ++ [Desk.journalName]

def statistics (i : Installation) : Location :=
  i.folder ++ [Desk.statisticsName]

def router (i : Installation) : Router :=
  ⟨i.severity, [.console, .journal i.journal, .statistics i.statistics]⟩

/-- The line that a notice brings to a target: to the console from the level of information on, to
the journal from that of debugging on, and to the statistics if it is from the statistics logger
itself. No other file gets anything. -/
def line? (i : Installation) (n : Notice) (t : Target) : Option String :=
  if i.severity ≤ n.severity then
    match t with
    | .console => if Level.info.severity ≤ n.severity then some n.detailed else none
    | .file place =>
      if place = i.journal then
        if Level.debug.severity ≤ n.severity then some n.detailed else none
      else if place = i.statistics then
        if Level.info.severity ≤ n.severity ∧ n.logger = statisticsLogger then some n.message
        else none
      else none
  else none

theorem journal_ne_statistics (i : Installation) : i.journal ≠ i.statistics := by
  unfold journal statistics
  intro h
  have hname := List.append_cancel_left h
  revert hname
  decide

theorem deliveries_router (i : Installation) (n : Notice) :
    i.router.deliveries n =
      if i.severity ≤ n.severity then
        (if Level.info.severity ≤ n.severity then [⟨.console, n.detailed⟩] else []) ++
        (if Level.debug.severity ≤ n.severity then [⟨.file i.journal, n.detailed⟩] else []) ++
        if Level.info.severity ≤ n.severity ∧ n.logger = statisticsLogger then
          [⟨.file i.statistics, n.message⟩]
        else []
      else [] := by
  unfold Router.deliveries router
  by_cases hlevel : i.severity ≤ n.severity
  · rw [if_pos hlevel, if_pos hlevel]
    by_cases hinfo : Level.info.severity ≤ n.severity <;>
      by_cases hdebug : Level.debug.severity ≤ n.severity <;>
      by_cases hlogger : n.logger = statisticsLogger <;>
      simp [Outlet.takes, Outlet.level, Outlet.admits, Outlet.write, hinfo, hdebug, hlogger]
  · rw [if_neg hlevel, if_neg hlevel]

/-- What the router of an installation delivers to one target. -/
theorem lines_deliveries (i : Installation) (n : Notice) (t : Target) :
    ((i.router.deliveries n).filter (·.target = t)).map (·.line) = (i.line? n t).toList := by
  have hshare (c : Prop) [Decidable c] (t' : Target) (line : String) :
      ((if c then [⟨t', line⟩] else [] : List Delivery).filter (·.target = t)).map (·.line) =
        if c ∧ t' = t then [line] else [] := by
    by_cases hc : c <;> by_cases ht : t' = t <;> simp [hc, ht]
  have hne := i.journal_ne_statistics
  rw [deliveries_router]
  unfold line?
  split
  · rw [List.filter_append, List.filter_append, List.map_append, List.map_append, hshare, hshare,
      hshare]
    cases t with
    | console => simp [apply_ite Option.toList]
    | file place =>
      by_cases hjournal : place = i.journal
      · subst place
        simp [hne.symm, apply_ite Option.toList]
      · by_cases hstatistics : place = i.statistics
        · subst place
          simp [hne, hne.symm, apply_ite Option.toList]
        · simp [hjournal, hstatistics, Ne.symm hjournal, Ne.symm hstatistics]
  · rfl

end Installation

/-- Where a setup that succeeds leads to; only the working folder of the disk matters. -/
def Setup.installation? (s : Setup) (disk : Disk) : Option Installation :=
  match s.path, s.severity with
  | .ok directory, .ok (_, severity) =>
    some { severity, folder := disk.placeOf (disk.absolute directory) }
  | _, _ => none

/-- The installation that holds after some events, if one held before them. -/
def latest? (disk : Disk) : Option Installation → List Event → Option Installation
  | i?, [] => i?
  | _, .setUp s :: events => latest? disk (s.installation? disk) events
  | i?, .post _ :: events => latest? disk i? events

/-- The lines that events bring to a target: each notice goes where the latest installation before
it says. -/
def lines (disk : Disk) : Option Installation → List Event → Target → List String
  | _, [], _ => []
  | _, .setUp s :: events, t => lines disk (s.installation? disk) events t
  | i?, .post n :: events, t => (i?.bind (·.line? n t)).toList ++ lines disk i? events t

/-- Lines as they stand in a file. -/
def joined (lines : List String) : String :=
  String.join (lines.map (· ++ "\n"))

@[simp] theorem joined_nil : joined [] = "" := rfl

@[simp] theorem joined_append (lines more : List String) :
    joined (lines ++ more) = joined lines ++ joined more := by
  simp [joined]

namespace Desk

variable {d after : Desk} {i : Installation} {n : Notice} {delivery : Delivery} {t : Target}

/-- The log after an event, unless the event is a setup that fails. -/
def perform? (d : Desk) : Event → Option Desk
  | .setUp s =>
    match d.setUp s with
    | (after, .ok _) => some after
    | (_, .error _) => none
  | .post n => some (d.post n)

/-- The log after some events, if all setups among them succeed. -/
def run? (d : Desk) (events : List Event) : Option Desk :=
  events.foldlM perform? d

/-- All that was written to a target. -/
def textAt (d : Desk) : Target → String
  | .console => d.console
  | .file place =>
    match d.disk.get? place with
    | some (.file text) => text
    | _ => ""

/-- What is delivered to the target can be written. -/
def Accepts (d : Desk) : Target → Prop
  | .console => True
  | .file place => ∃ text, d.disk.get? place = some (.file text)

private theorem textAt_deliver (h : d.Accepts delivery.target) (t : Target) :
    (d.deliver delivery).textAt t =
      d.textAt t ++ if delivery.target = t then delivery.line ++ "\n" else "" := by
  obtain ⟨target, line⟩ := delivery
  cases target with
  | console =>
    cases t with
    | console => simp [deliver, textAt, String.append_assoc]
    | file place => simp [deliver, textAt]
  | file place =>
    obtain ⟨text, htext⟩ := h
    cases t with
    | console => simp [deliver, textAt]
    | file other =>
      by_cases heq : other = place
      · subst other
        simp [deliver, textAt, htext, Disk.get?_append_self htext]
      · simp [deliver, textAt, Disk.get?_append_of_ne _ heq, Ne.symm heq]

theorem accepts_deliver (h : d.Accepts delivery.target) (ht : d.Accepts t) :
    (d.deliver delivery).Accepts t := by
  obtain ⟨target, line⟩ := delivery
  cases t with
  | console => trivial
  | file place =>
    cases target with
    | console => exact ht
    | file other =>
      obtain ⟨text, htext⟩ := h
      by_cases heq : place = other
      · subst place
        exact ⟨_, Disk.get?_append_self htext _⟩
      · obtain ⟨text, htext⟩ := ht
        exact ⟨text, (Disk.get?_append_of_ne _ heq _).trans htext⟩

theorem accepts_foldl_deliver {deliveries : List Delivery}
    (h : ∀ delivery ∈ deliveries, d.Accepts delivery.target) (ht : d.Accepts t) :
    (deliveries.foldl deliver d).Accepts t := by
  induction deliveries generalizing d with
  | nil => exact ht
  | cons delivery deliveries ih =>
    obtain ⟨hfirst, hrest⟩ := List.forall_mem_cons.mp h
    exact ih (fun other hother => accepts_deliver hfirst (hrest other hother))
      (accepts_deliver hfirst ht)

theorem textAt_foldl_deliver {deliveries : List Delivery}
    (h : ∀ delivery ∈ deliveries, d.Accepts delivery.target) (t : Target) :
    (deliveries.foldl deliver d).textAt t =
      d.textAt t ++ joined ((deliveries.filter (·.target = t)).map (·.line)) := by
  induction deliveries generalizing d with
  | nil => simp
  | cons delivery deliveries ih =>
    obtain ⟨hfirst, hrest⟩ := List.forall_mem_cons.mp h
    rw [List.foldl_cons, ih fun other hother => accepts_deliver hfirst (hrest other hother),
      textAt_deliver hfirst, String.append_assoc]
    by_cases htarget : delivery.target = t
    · simp [htarget, joined]
    · simp [htarget]

/-- The outlets of the log are those of an installation, and its files are there. -/
structure Follows (d : Desk) (i : Installation) : Prop where
  router : d.router = i.router
  journal : d.Accepts (.file i.journal)
  statistics : d.Accepts (.file i.statistics)

theorem Follows.accepts (h : d.Follows i) (n : Notice) :
    ∀ delivery ∈ d.router.deliveries n, d.Accepts delivery.target := by
  intro delivery hdelivery
  obtain ⟨-, outlet, houtlet, -, hwritten⟩ := Router.mem_deliveries.mp hdelivery
  rw [h.router] at houtlet
  simp only [Installation.router, List.mem_cons, List.not_mem_nil, or_false] at houtlet
  obtain rfl | rfl | rfl := houtlet
  · cases List.mem_singleton.mp hwritten
    trivial
  · cases List.mem_singleton.mp hwritten
    exact h.journal
  · cases List.mem_singleton.mp hwritten
    exact h.statistics

theorem Follows.post (h : d.Follows i) (n : Notice) : (d.post n).Follows i where
  router := (router_post d n).trans h.router
  journal := accepts_foldl_deliver (h.accepts n) h.journal
  statistics := accepts_foldl_deliver (h.accepts n) h.statistics

/-- A notice adds its line where the installation says, and nothing anywhere else. -/
theorem Follows.textAt_post (h : d.Follows i) (n : Notice) (t : Target) :
    (d.post n).textAt t = d.textAt t ++ joined (i.line? n t).toList := by
  unfold Desk.post
  rw [textAt_foldl_deliver (h.accepts n), h.router, i.lines_deliveries]

/-- Nothing is lost when folders and files are made. -/
theorem textAt_of_extends (h : d.disk.Extends after.disk) (hconsole : after.console = d.console)
    (t : Target) : after.textAt t = d.textAt t := by
  cases t with
  | console => exact hconsole
  | file place =>
    unfold textAt
    dsimp only
    cases hfound : d.disk.get? place with
    | some entry => rw [h.kept place entry hfound]
    | none =>
      obtain hnone | hfolder | hfile := h.made place hfound
      · rw [hnone]
      · rw [hfolder]
      · rw [hfile]

private theorem perform?_setUp_eq_some_iff {s : Setup} :
    d.perform? (.setUp s) = some after ↔ ∃ settings, d.setUp s = (after, .ok settings) := by
  unfold perform?
  dsimp only
  split
  · next result settings h => simp [h]
  · next result fault h => simp [h]

/-- A setup that succeeds writes nothing, and its outlets are all that there are. -/
theorem follows_of_setUp {s : Setup} (h : d.perform? (.setUp s) = some after) :
    after.disk.home = d.disk.home ∧ (∀ t, after.textAt t = d.textAt t) ∧
      ∃ i, s.installation? d.disk = some i ∧ after.Follows i := by
  obtain ⟨settings, h⟩ := perform?_setUp_eq_some_iff.mp h
  have hends := Setup.ends_setUp d s
  rw [h] at hends
  cases hends with
  | @complete directory disk opened last level severity journal statistics hprepared hjournal
      hstatistics =>
    have hfolders : d.disk.Extends disk := by
      have := Disk.extends_ensureFolders d.disk directory
      rwa [hprepared.folders] at this
    obtain ⟨rfl, hopened, text, htext⟩ := Disk.openFile_eq_ok hjournal
    obtain ⟨rfl, hlast, hfile⟩ := Disk.openFile_eq_ok hstatistics
    have hextends := (hfolders.trans hopened).trans hlast
    have hplace {other : Disk} (hother : d.disk.Extends other) {name : String}
        (hname : name ≠ Path.above) : other.placeOf (other.absolute (directory.child name)) =
          d.disk.placeOf (d.disk.absolute directory) ++ [name] := by
      rw [Disk.placeOf_absolute_child _ _ hname, Disk.placeOf_absolute_congr hother.home_eq]
    rw [hplace hfolders (by decide)] at htext ⊢
    rw [hplace (hfolders.trans hopened) (by decide)] at hfile ⊢
    refine ⟨hextends.home_eq, textAt_of_extends hextends rfl,
      ⟨severity, d.disk.placeOf (d.disk.absolute directory)⟩, ?_, rfl, ?_, hfile⟩
    · simp only [Setup.installation?, hprepared.path, hprepared.level]
    · exact ⟨text, hlast.kept _ _ htext⟩

/-- Only the working folder counts for where a setup leads to. -/
theorem installation?_congr {disk disk' : Disk} (h : disk'.home = disk.home) (s : Setup) :
    s.installation? disk' = s.installation? disk := by
  unfold Setup.installation?
  simp only [Disk.placeOf_absolute_congr h]

@[simp] theorem home_deliver (d : Desk) (delivery : Delivery) :
    (d.deliver delivery).disk.home = d.disk.home := by
  unfold deliver
  split
  · rfl
  · exact Disk.home_append ..

@[simp] theorem home_post (d : Desk) (n : Notice) : (d.post n).disk.home = d.disk.home :=
  apply_post (f := fun d => d.disk.home) home_deliver d n

/-- Once an installation holds, a run ends with the latest one, and brings the lines of its
notices. -/
theorem Follows.run (h : d.Follows i) {disk : Disk} (hhome : d.disk.home = disk.home)
    {events : List Event} (hrun : d.run? events = some after) :
    (∃ last, latest? disk (some i) events = some last ∧ after.Follows last) ∧
      ∀ t, after.textAt t = d.textAt t ++ joined (lines disk (some i) events t) := by
  induction events generalizing d i with
  | nil =>
    cases hrun
    exact ⟨⟨i, rfl, h⟩, fun t => by simp [lines]⟩
  | cons event events ih =>
    obtain ⟨next, hnext, hlater⟩ := Option.bind_eq_some_iff.mp hrun
    cases event with
    | setUp s =>
      obtain ⟨hnext_home, hnext_text, i', hi', hfollows⟩ := follows_of_setUp hnext
      have hinstallation : s.installation? disk = some i' :=
        (installation?_congr hhome s).symm.trans hi'
      obtain ⟨hlast, htext⟩ := ih hfollows (hnext_home.trans hhome) hlater
      refine ⟨?_, fun t => ?_⟩
      · rw [latest?, hinstallation]
        exact hlast
      · rw [htext, hnext_text, lines, hinstallation]
    | post n =>
      cases hnext
      obtain ⟨hlast, htext⟩ := ih (h.post n) ((home_post d n).trans hhome) hlater
      refine ⟨hlast, fun t => ?_⟩
      rw [htext, h.textAt_post, lines, joined_append, Option.bind_some, String.append_assoc]

end Desk

/-- After a first setup and any further setups that succeed, with any notices between them, the log
has the three outlets of the latest setup, whose two files differ, and no other. What was written
since then is, at each target, one line for each notice that the latest setup before this notice
directs to the target, in the order of the notices; and so it is for every notice that comes
next. -/
theorem routed_by_latest_setup {d after : Desk} {first : Setup} {events : List Event}
    (h : d.run? (.setUp first :: events) = some after) :
    ∃ i, latest? d.disk none (.setUp first :: events) = some i ∧
      after.router.level = i.severity ∧
      after.router.outlets = [.console, .journal i.journal, .statistics i.statistics] ∧
      i.journal ≠ i.statistics ∧
      (∀ t, after.textAt t = d.textAt t ++ joined (lines d.disk none (.setUp first :: events) t)) ∧
      ∀ n t, (after.post n).textAt t = after.textAt t ++ joined (i.line? n t).toList := by
  obtain ⟨next, hnext, hrun⟩ := Option.bind_eq_some_iff.mp h
  obtain ⟨hnext_home, hnext_text, i, hi, hfollows⟩ := Desk.follows_of_setUp hnext
  obtain ⟨⟨last, hlast, hafter⟩, htext⟩ := hfollows.run hnext_home hrun
  refine ⟨last, ?_, ?_, ?_, last.journal_ne_statistics, fun t => ?_, hafter.textAt_post⟩
  · rw [latest?, hi, hlast]
  · rw [hafter.router]
    rfl
  · rw [hafter.router]
    rfl
  · rw [htext, hnext_text, lines, hi]

/-- A setup, a line of statistics, a setup in another directory, and notices from two loggers. -/
def moved : List Event :=
  [.post ⟨10, "mail", "before", "12:00", "1"⟩, .post ⟨20, "channel_stats", "first", "12:01", "2"⟩,
    .setUp ⟨.text "debug", .text "/new"⟩, .post ⟨10, "channel_stats", "hidden", "12:02", "3"⟩,
    .post ⟨30, "channel_stats.mail", "below", "12:03", "4"⟩]

theorem routed_by_latest_setup_moved :
    ∃ after, (Desk.initial (.empty [])).run? (.setUp ⟨.text "INFO", .text "/old"⟩ :: moved) =
        some after ∧
      after.router.outlets = [.console, .journal ["new", "channel_monitor.log"],
        .statistics ["new", "channel_stats.log"]] ∧
      after.textAt (.file ["old", "channel_stats.log"]) = "first\n" ∧
      after.textAt (.file ["new", "channel_stats.log"]) = "" ∧
      after.textAt (.file ["new", "channel_monitor.log"]) =
        "12:02 | DEBUG    | channel_stats:3 | hidden\n" ++
          "12:03 | WARNING  | channel_stats.mail:4 | below\n" := by
  have hsome : ((Desk.initial (.empty [])).run?
      (.setUp ⟨.text "INFO", .text "/old"⟩ :: moved)).isSome := by decide +kernel
  obtain ⟨after, hafter⟩ := Option.isSome_iff_exists.mp hsome
  obtain ⟨i, hi, -, houtlets, -, htext, -⟩ := routed_by_latest_setup hafter
  have hlatest : latest? (Desk.initial (.empty [])).disk none
      (.setUp ⟨.text "INFO", .text "/old"⟩ :: moved) = some ⟨10, ["new"]⟩ := by decide +kernel
  rw [hlatest] at hi
  cases hi
  refine ⟨after, hafter, houtlets, (htext _).trans ?_, (htext _).trans ?_, (htext _).trans ?_⟩
  · decide +kernel
  · decide +kernel
  · decide +kernel

end SendMeter.Log
