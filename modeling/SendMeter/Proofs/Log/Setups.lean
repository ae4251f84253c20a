import SendMeter.Log.Desk
import SendMeter.Proofs.Storage.Places

namespace SendMeter.Log

open Storage

namespace Desk

@[simp] theorem router_deliver (d : Desk) (delivery : Delivery) :
    (d.deliver delivery).router = d.router := by
  unfold deliver
  split <;> rfl

/-- What no delivery changes, no notice changes. -/
theorem apply_post {β : Type} {f : Desk → β} (hf : ∀ d delivery, f (deliver d delivery) = f d)
    (d : Desk) (n : Notice) : f (d.post n) = f d := by
  unfold post
  induction d.router.deliveries n generalizing d with
  | nil => rfl
  | cons delivery deliveries ih => rw [List.foldl_cons, ih, hf]

@[simp] theorem router_post (d : Desk) (n : Notice) : (d.post n).router = d.router :=
  apply_post router_deliver d n

/-- A file that cannot be opened is named in the failure by its path from the top. -/
theorem addFile_cases (d : Desk) (p : Path) (outlet : Location → Outlet) :
    (∃ fault, d.disk.openFile (d.disk.absolute p) = .error fault ∧
      d.addFile p outlet = .error ⟨fault, d.disk.absolute p⟩) ∨
    ∃ disk place, d.disk.openFile (d.disk.absolute p) = .ok (disk, place) ∧
      d.addFile p outlet = .ok ({ d with disk }.addOutlet (outlet place)) := by
  unfold addFile
  dsimp only
  cases d.disk.openFile (d.disk.absolute p) with
  | error fault => exact .inl ⟨fault, rfl, rfl⟩
  | ok opened => exact .inr ⟨opened.1, opened.2, rfl, rfl⟩

end Desk

/-- The log file that could not be opened, and why, if this is how a setup ended. -/
def unopened? : Except SetupFault LogSettings → Option Failure
  | .error (.file failure) => some failure
  | _ => none

theorem unopened?_eq_some_iff {result : Except SetupFault LogSettings} {failure : Failure} :
    unopened? result = some failure ↔ result = .error (.file failure) := by
  unfold unopened?
  split
  · simp
  · next hother =>
    refine ⟨nofun, fun h => ?_⟩
    exact absurd h (hother failure)

namespace Setup

/-- A setup comes to its log files: its directory is there, and its level is known. -/
structure Prepared (s : Setup) (before : Disk) (directory : Path) (disk : Disk) (level : String)
    (severity : Nat) : Prop where
  path : s.path = .ok directory
  folders : before.ensureFolders directory = (disk, none)
  level : s.severity = .ok (level, severity)

/-- How a setup ends, with the log that it leaves. -/
inductive Ends (d : Desk) (s : Setup) : Desk → Except SetupFault LogSettings → Prop
  | noDirectory {fault : SetupFault} (hpath : s.path = .error fault) : Ends d s d (.error fault)
  | noFolder {directory : Path} {disk : Disk} {failure : Failure} (hpath : s.path = .ok directory)
    (hfolders : d.disk.ensureFolders directory = (disk, some failure)) :
    Ends d s { d with disk } (.error (.directory failure))
  | noLevel {directory : Path} {disk : Disk} {fault : SetupFault} (hpath : s.path = .ok directory)
    (hfolders : d.disk.ensureFolders directory = (disk, none))
    (hlevel : s.severity = .error fault) : Ends d s { d with disk } (.error fault)
  | noJournal {directory : Path} {disk : Disk} {level : String} {severity : Nat} {fault : Fault}
    (hprepared : s.Prepared d.disk directory disk level severity)
    (hjournal : disk.openFile (disk.absolute (directory.child Desk.journalName)) = .error fault) :
    Ends d s { d with disk, router := ⟨severity, [.console]⟩ }
      (.error (.file ⟨fault, disk.absolute (directory.child Desk.journalName)⟩))
  | noStatistics {directory : Path} {disk opened : Disk} {level : String} {severity : Nat}
    {journal : Location} {fault : Fault}
    (hprepared : s.Prepared d.disk directory disk level severity)
    (hjournal : disk.openFile (disk.absolute (directory.child Desk.journalName)) =
      .ok (opened, journal))
    (hstatistics : opened.openFile (opened.absolute (directory.child Desk.statisticsName)) =
      .error fault) :
    Ends d s { d with disk := opened, router := ⟨severity, [.console, .journal journal]⟩ }
      (.error (.file ⟨fault, opened.absolute (directory.child Desk.statisticsName)⟩))
  | complete {directory : Path} {disk opened last : Disk} {level : String} {severity : Nat}
    {journal statistics : Location}
    (hprepared : s.Prepared d.disk directory disk level severity)
    (hjournal : disk.openFile (disk.absolute (directory.child Desk.journalName)) =
      .ok (opened, journal))
    (hstatistics : opened.openFile (opened.absolute (directory.child Desk.statisticsName)) =
      .ok (last, statistics)) :
    Ends d s
      { d with
        disk := last
        router := ⟨severity, [.console, .journal journal, .statistics statistics]⟩ }
      (.ok { level, directory := directory.text })

theorem ends_setUp (d : Desk) (s : Setup) : s.Ends d (d.setUp s).1 (d.setUp s).2 := by
  unfold Desk.setUp
  cases hpath : s.path with
  | error fault => exact .noDirectory hpath
  | ok directory =>
    dsimp only
    cases hfolders : d.disk.ensureFolders directory with
    | mk disk failure? =>
      cases failure? with
      | some failure => exact .noFolder hpath hfolders
      | none =>
        dsimp only
        cases hlevel : s.severity with
        | error fault => exact .noLevel hpath hfolders hlevel
        | ok found =>
          obtain ⟨level, severity⟩ := found
          have hprepared : s.Prepared d.disk directory disk level severity :=
            ⟨hpath, hfolders, hlevel⟩
          simp only [Desk.replaceOutlets, Desk.addOutlet, List.nil_append]
          obtain ⟨fault, hjournal, hadded⟩ | ⟨opened, journal, hjournal, hadded⟩ :=
            Desk.addFile_cases { d with disk, router := ⟨severity, [.console]⟩ }
              (directory.child Desk.journalName) .journal
          · simp only [hadded]
            exact .noJournal hprepared hjournal
          · simp only [hadded]
            obtain ⟨fault, hstatistics, hadded⟩ | ⟨last, statistics, hstatistics, hadded⟩ :=
              Desk.addFile_cases
                { d with disk := opened, router := ⟨severity, [.console, .journal journal]⟩ }
                (directory.child Desk.statisticsName) .statistics
            · simp only [Desk.addOutlet, List.cons_append, List.nil_append, hadded]
              exact .noStatistics hprepared hjournal hstatistics
            · simp only [Desk.addOutlet, List.cons_append, List.nil_append, hadded]
              exact .complete hprepared hjournal hstatistics

variable {s : Setup} {fault : SetupFault}

/-- Faults that are found before a log file is opened say so. -/
private theorem ne_file_of_path (h : s.path = .error fault) (failure : Failure) :
    fault ≠ .file failure := by
  unfold path at h
  split at h
  · cases h
  · cases h
    exact SetupFault.noConfusion

private theorem ne_file_of_severity (h : s.severity = .error fault) (failure : Failure) :
    fault ≠ .file failure := by
  unfold severity at h
  split at h
  · dsimp only at h
    split at h <;> cases h <;> exact SetupFault.noConfusion
  · cases h
    exact SetupFault.noConfusion

end Setup

/-- A setup that fails leaves the level and the outlets as they were if its directory cannot be made
or its level is not known. Only if it comes to its log files and one of them cannot be opened, the
old ones are lost: the level is the new one then, and of the new outlets there are those that come
before this file, the console and perhaps the journal. -/
theorem router_kept_unless_file_unopened {d : Desk} {s : Setup} {fault : SetupFault}
    (h : (d.setUp s).2 = .error fault) :
    ((∀ failure, fault ≠ .file failure) → (d.setUp s).1.router = d.router) ∧
    ∀ failure, fault = .file failure →
      ∃ directory disk level severity, s.Prepared d.disk directory disk level severity ∧
        ((disk.openFile (disk.absolute (directory.child Desk.journalName)) = .error failure.fault ∧
            (d.setUp s).1.router = ⟨severity, [.console]⟩) ∨
          ∃ opened journal,
            disk.openFile (disk.absolute (directory.child Desk.journalName)) =
              .ok (opened, journal) ∧
            opened.openFile (opened.absolute (directory.child Desk.statisticsName)) =
              .error failure.fault ∧
            (d.setUp s).1.router = ⟨severity, [.console, .journal journal]⟩) := by
  have hends := Setup.ends_setUp d s
  generalize (d.setUp s).1 = after at hends ⊢
  rw [h] at hends
  cases hends with
  | noDirectory hpath =>
    exact ⟨fun _ => rfl, fun failure heq => absurd heq (Setup.ne_file_of_path hpath failure)⟩
  | noFolder hpath hfolders => exact ⟨fun _ => rfl, fun failure heq => SetupFault.noConfusion heq⟩
  | noLevel hpath hfolders hlevel =>
    exact ⟨fun _ => rfl, fun failure heq => absurd heq (Setup.ne_file_of_severity hlevel failure)⟩
  | noJournal hprepared hjournal =>
    refine ⟨fun hother => absurd rfl (hother _), fun failure heq => ?_⟩
    cases heq
    exact ⟨_, _, _, _, hprepared, .inl ⟨hjournal, rfl⟩⟩
  | noStatistics hprepared hjournal hstatistics =>
    refine ⟨fun hother => absurd rfl (hother _), fun failure heq => ?_⟩
    cases heq
    exact ⟨_, _, _, _, hprepared, .inr ⟨_, _, hjournal, hstatistics, rfl⟩⟩

/-- A log that was set up in a directory with the name of a log file. -/
def misnamed : Desk :=
  ((Desk.initial (.empty [])).setUp
    ⟨.text "INFO", .text "/tmp/send_meter/channel_monitor.log"⟩).1

/-- A setup in the directory above, where this directory stands in the place of the journal. -/
def blocked : Setup := ⟨.text "DEBUG", .text "/tmp/send_meter"⟩

/-- A setup with a level that is not known. -/
def unleveled : Setup := ⟨.text "loud", .text "/tmp/send_meter"⟩

theorem setUp_blocked : (misnamed.setUp blocked).2 =
    .error (.file ⟨.isFolder, .ofText "/tmp/send_meter/channel_monitor.log"⟩) :=
  unopened?_eq_some_iff.mp (by decide +kernel)

theorem router_kept_unless_file_unopened_blocked :
    (misnamed.setUp blocked).1.router = ⟨Level.debug.severity, [.console]⟩ ∧
      (misnamed.setUp unleveled).1.router = misnamed.router := by
  have hunleveled : (misnamed.setUp unleveled).2.isOk = false := by decide +kernel
  have hother : unopened? (misnamed.setUp unleveled).2 = none := by decide +kernel
  constructor
  · obtain ⟨directory, disk, level, severity, hprepared, hends⟩ :=
      (router_kept_unless_file_unopened setUp_blocked).2 _ rfl
    have hlevel : blocked.severity.toOption = some ("DEBUG", Level.debug.severity) := by
      decide +kernel
    have hone : (misnamed.setUp blocked).1.router.outlets.length = 1 := by decide +kernel
    rw [hprepared.level] at hlevel
    cases hlevel
    obtain ⟨-, hrouter⟩ | ⟨opened, journal, -, -, hrouter⟩ := hends
    · exact hrouter
    · rw [hrouter] at hone
      cases hone
  · cases hfault : (misnamed.setUp unleveled).2 with
    | ok => rw [hfault] at hunleveled; cases hunleveled
    | error fault =>
      refine (router_kept_unless_file_unopened hfault).1 ?_
      rintro failure rfl
      rw [hfault] at hother
      cases hother

/-- Not every setup that fails leaves the level and the outlets as they were. -/
theorem router_not_kept_blocked :
    ∃ fault, (misnamed.setUp blocked).2 = .error fault ∧
      (misnamed.setUp blocked).1.router.level ≠ misnamed.router.level ∧
      (misnamed.setUp blocked).1.router.outlets ≠ misnamed.router.outlets := by
  refine ⟨_, setUp_blocked, ?_⟩
  decide +kernel

end SendMeter.Log
