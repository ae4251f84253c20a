import SendMeter.Log.Router
import SendMeter.Log.Setup
import SendMeter.Log.Statistics

namespace SendMeter.Log

open Storage

structure Desk where
  router : Router
  disk : Disk
  console : String
deriving DecidableEq, Repr

namespace Desk

def initial (disk : Disk) : Desk :=
  { router := .initial, disk, console := "" }

/-- One line more at its target. -/
def deliver (d : Desk) (delivery : Delivery) : Desk :=
  match delivery.target with
  | .console => { d with console := d.console ++ delivery.line ++ "\n" }
  | .file place => { d with disk := d.disk.append place (delivery.line ++ "\n") }

def post (d : Desk) (n : Notice) : Desk :=
  (d.router.deliveries n).foldl deliver d

/-- Posts a line of statistics, under the statistics logger. -/
def postStatistics (d : Desk) (time line : String) (stamp : Json) (action : String)
    (data : List (String × Json)) : Desk :=
  d.post
    { severity := Level.info.severity, logger := statisticsLogger
      message := statisticsLine stamp action data, time, line }

def journalName : String := "channel_monitor.log"

def statisticsName : String := "channel_stats.log"

def addOutlet (d : Desk) (o : Outlet) : Desk :=
  { d with router := { d.router with outlets := d.router.outlets ++ [o] } }

/-- One outlet more, which writes to a file. The file is opened by its path from the top. -/
def addFile (d : Desk) (p : Path) (outlet : Location → Outlet) : Except Failure Desk :=
  let path := d.disk.absolute p
  match d.disk.openFile path with
  | .ok (disk, place) => .ok ({ d with disk }.addOutlet (outlet place))
  | .error fault => .error ⟨fault, path⟩

/-- The outlets of a directory, after all others have been removed. -/
def replaceOutlets (d : Desk) (directory : Path) : Desk × Option Failure :=
  let cleared := { d with router := { d.router with outlets := [] } }.addOutlet .console
  match cleared.addFile (directory.child journalName) .journal with
  | .error failure => (cleared, some failure)
  | .ok journaled =>
    match journaled.addFile (directory.child statisticsName) .statistics with
    | .error failure => (journaled, some failure)
    | .ok complete => (complete, none)

/-- A setup; if it succeeds, with the level and the directory that now hold. -/
def setUp (d : Desk) (s : Setup) : Desk × Except SetupFault LogSettings :=
  match s.path with
  | .error fault => (d, .error fault)
  | .ok directory =>
    match d.disk.ensureFolders directory with
    | (disk, some failure) => ({ d with disk }, .error (.directory failure))
    | (disk, none) =>
      match s.severity with
      | .error fault => ({ d with disk }, .error fault)
      | .ok (level, severity) =>
        match { d with disk, router.level := severity }.replaceOutlets directory with
        | (d, some failure) => (d, .error (.file failure))
        | (d, none) => (d, .ok { level, directory := directory.text })

/-- A setup from a source. Records that are written while the source is read still go to the outlets
from before. -/
def setUpFrom (d : Desk) (time line : String) (source : SetupSource) :
    Desk × Except SetupFault LogSettings :=
  match Setup.ofSource source with
  | .error fault => (d, .error fault)
  | .ok (s, records) =>
    ((records.map (Notice.ofRecord time line)).foldl post d).setUp s

end Desk

end SendMeter.Log
