import SendMeter.Log.Notice
import SendMeter.Storage.Disk

namespace SendMeter.Log

open Storage

/-- What notices are written to, if they are written at all. -/
inductive Outlet where
  | silent
  | console
  | journal (file : Location)
  | statistics (file : Location)
deriving DecidableEq, Repr

/-- Where a line ends up. -/
inductive Target where
  | console
  | file (place : Location)
deriving DecidableEq, Repr

structure Delivery where
  target : Target
  line : String
deriving DecidableEq, Repr

namespace Outlet

def level : Outlet → Nat
  | .silent => 0
  | .console => Level.info.severity
  | .journal _ => Level.debug.severity
  | .statistics _ => Level.info.severity

/-- How many filters stand before the outlet. -/
def filterCount : Outlet → Nat
  | .statistics _ => 1
  | _ => 0

/-- The outlet for statistics takes what comes from the statistics logger itself, and nothing from
those below it. -/
def admits : Outlet → String → Bool
  | .statistics _, logger => logger == statisticsLogger
  | _, _ => true

/-- What becomes of a notice that the outlet takes. -/
def write : Outlet → Notice → List Delivery
  | .silent, _ => []
  | .console, n => [⟨.console, n.detailed⟩]
  | .journal file, n => [⟨.file file, n.detailed⟩]
  | .statistics file, n => [⟨.file file, n.message⟩]

def takes (o : Outlet) (n : Notice) : Bool :=
  decide ((o.level : Int) ≤ n.severity) && o.admits n.logger

end Outlet

/-- The level that a notice needs, and the outlets in the order in which they get it. -/
structure Router where
  level : Nat
  outlets : List Outlet
deriving DecidableEq, Repr

namespace Router

/-- Before any setup. -/
def initial : Router :=
  { level := Level.warning.severity, outlets := [.silent] }

def deliveries (r : Router) (n : Notice) : List Delivery :=
  if (r.level : Int) ≤ n.severity then (r.outlets.filter (·.takes n)).flatMap (·.write n) else []

theorem mem_deliveries {r : Router} {n : Notice} {delivery : Delivery} :
    delivery ∈ r.deliveries n ↔
      (r.level : Int) ≤ n.severity ∧ ∃ o ∈ r.outlets, o.takes n = true ∧ delivery ∈ o.write n := by
  simp only [deliveries]
  split
  · simp [*, and_assoc]
  · simp [*]

end Router

end SendMeter.Log
