import SendMeter.Storage.Path
import SendMeter.Text.Quoted

namespace SendMeter.Storage

/-- The names from the top down to a folder or file. -/
abbrev Location := List String

inductive Entry where
  | folder
  | file (text : String)
deriving DecidableEq, Repr

/-- All folders and files, but for the working folder and those above it, which always exist. -/
structure Disk where
  home : Location
  entries : List (Location × Entry)
deriving DecidableEq, Repr

/-- Obstacles to making a folder or opening a file. -/
inductive Fault where
  | missing
  | occupied
  | notFolder
  | isFolder
  | tooLong
  | zeroCharacter
deriving DecidableEq, Repr

/-- The number and the wording that a system has for an obstacle. A path with a zero character never
gets as far as that. -/
def Fault.report? : Fault → Option (Nat × String)
  | .missing => some (2, "No such file or directory")
  | .occupied => some (17, "File exists")
  | .notFolder => some (20, "Not a directory")
  | .isFolder => some (21, "Is a directory")
  | .tooLong => some (36, "File name too long")
  | .zeroCharacter => none

/-- An obstacle, and the path that was asked for. -/
structure Failure where
  fault : Fault
  path : Path
deriving DecidableEq, Repr

def Failure.message (f : Failure) : String :=
  match f.fault.report? with
  | some (number, wording) => s!"[Errno {number}] {wording}: " ++ Text.quoted f.path.text
  | none => "embedded null byte"

namespace Disk

def empty (home : Location) : Disk :=
  { home, entries := [] }

def get? (d : Disk) (place : Location) : Option Entry :=
  if place.isPrefixOf d.home then some .folder
  else (d.entries.find? (·.1 == place)).map (·.2)

def putEntry (place : Location) (entry : Entry) : List (Location × Entry) → List (Location × Entry)
  | [] => [(place, entry)]
  | e :: entries =>
    if e.1 == place then (place, entry) :: entries else e :: putEntry place entry entries

def put (d : Disk) (place : Location) (entry : Entry) : Disk :=
  { d with entries := putEntry place entry d.entries }

private theorem find?_putEntry (place : Location) (entry : Entry)
    (entries : List (Location × Entry)) :
    (putEntry place entry entries).find? (·.1 == place) = some (place, entry) := by
  induction entries with
  | nil => simp [putEntry]
  | cons e entries ih =>
    by_cases h : e.1 == place
    · simp [putEntry, h]
    · simp [putEntry, h, ih]

private theorem find?_putEntry_of_ne {place other : Location} (hne : other ≠ place) (entry : Entry)
    (entries : List (Location × Entry)) :
    (putEntry place entry entries).find? (·.1 == other) = entries.find? (·.1 == other) := by
  have hplace : (place == other) = false := by simpa using fun h => hne h.symm
  induction entries with
  | nil => simp [putEntry, hplace]
  | cons e entries ih =>
    by_cases h : e.1 == place
    · have he : (e.1 == other) = false := by
        rw [eq_of_beq h]
        exact hplace
      simp [putEntry, h, hplace, he]
    · simp only [putEntry, h, Bool.false_eq_true, if_false, List.find?_cons, ih]

theorem get?_put {d : Disk} {place : Location} (h : place.isPrefixOf d.home = false)
    (entry : Entry) : (d.put place entry).get? place = some entry := by
  simp [get?, put, h, find?_putEntry]

theorem get?_put_of_ne (d : Disk) {place other : Location} (h : other ≠ place) (entry : Entry) :
    (d.put place entry).get? other = d.get? other := by
  simp [get?, put, find?_putEntry_of_ne h]

/-- The place that names lead to from a folder. All names but the last one have to be those of
folders. -/
def follow (d : Disk) (place : Location) : List String → Except Fault Location
  | [] => .ok place
  | name :: names =>
    if name = Path.above then d.follow place.dropLast names
    else if 255 < name.utf8ByteSize then .error .tooLong
    else if names = [] then .ok (place ++ [name])
    else
      match d.get? (place ++ [name]) with
      | some .folder => d.follow (place ++ [name]) names
      | some (.file _) => .error .notFolder
      | none => .error .missing

def start (d : Disk) : Root → Location
  | .working => d.home
  | _ => []

def locate (d : Disk) (p : Path) : Except Fault Location :=
  if p.text.toList.contains (Char.ofNat 0) then .error .zeroCharacter
  else if 4095 < p.text.utf8ByteSize then .error .tooLong
  else d.follow (d.start p.root) p.names

def isFolder (d : Disk) (p : Path) : Bool :=
  match d.locate p with
  | .ok place => d.get? place == some .folder
  | .error _ => false

def makeFolder (d : Disk) (p : Path) : Except Fault Disk := do
  let place ← d.locate p
  match d.get? place with
  | none => .ok (d.put place .folder)
  | some _ => .error .occupied

/-- A folder where there may be one already. -/
def ensureFolder (d : Disk) (p : Path) : Except Fault Disk :=
  match d.makeFolder p with
  | .ok d => .ok d
  | .error fault => if d.isFolder p then .ok d else .error fault

/-- A folder with all folders above it. -/
def ensureFolders (d : Disk) (p : Path) : Disk × Option Failure :=
  match d.ensureFolder p with
  | .ok d => (d, none)
  | .error fault =>
    if h : fault = .missing ∧ p.names ≠ [] then
      have := Path.length_parent_lt h.2
      match d.ensureFolders p.parent with
      | (d, some failure) => (d, some failure)
      | (d, none) =>
        match d.ensureFolder p with
        | .ok d => (d, none)
        | .error fault => (d, some ⟨fault, p⟩)
    else (d, some ⟨fault, p⟩)
termination_by p.names.length

/-- The names that are left when each step upwards takes back the step before it. -/
def straighten (place : Location) : List String → Location
  | [] => place
  | name :: names =>
    if name = Path.above then straighten place.dropLast names
    else straighten (place ++ [name]) names

/-- The same path from the top. -/
def absolute (d : Disk) (p : Path) : Path :=
  { root := if p.root = .working then .top else p.root
    names := straighten (d.start p.root) p.names }

/-- Opens a file for lengthening; it is made if there is none. -/
def openFile (d : Disk) (p : Path) : Except Fault (Disk × Location) := do
  let place ← d.locate p
  match d.get? place with
  | some .folder => .error .isFolder
  | some (.file _) => .ok (d, place)
  | none => .ok (d.put place (.file ""), place)

/-- A file that is made if there is none; folders stay as they are. -/
def append (d : Disk) (place : Location) (text : String) : Disk :=
  match d.get? place with
  | some .folder => d
  | some (.file before) => d.put place (.file (before ++ text))
  | none => d.put place (.file text)

/-- A file in the working folder with a text, in folders that are made if they are missing. -/
def write (d : Disk) (path text : String) : Disk :=
  let p := Path.ofText path
  let d := (d.ensureFolders p.parent).1
  match d.openFile p with
  | .ok (d, place) => d.put place (.file text)
  | .error _ => d

/-- The order of texts by their characters. -/
def precedes : List Char → List Char → Bool
  | [], _ => true
  | _ :: _, [] => false
  | x :: xs, y :: ys => x < y || (x == y && precedes xs ys)

/-- The files of the working folder, by their paths from there, in the order of the paths. -/
def files (d : Disk) : List (String × String) :=
  let found := d.entries.filterMap fun e =>
    match e.2 with
    | .file text =>
      if d.home.isPrefixOf e.1 then some ("/".intercalate (e.1.drop d.home.length), text) else none
    | .folder => none
  found.mergeSort fun a b => precedes a.1.toList b.1.toList

end Disk

end SendMeter.Storage
