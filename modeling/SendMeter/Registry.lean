import SendMeter.Fleet

namespace SendMeter

variable {α : Type} [Scalar α]

/-- The monitors, and the names under which some of them are registered. -/
structure Registry (α : Type) where
  fleet : Fleet α
  channels : List (String × Nat)

/-- Why a name cannot be registered, or cannot be found. -/
inductive RegistryError (α : Type) where
  | emptyName
  | taken (name : String)
  | unknown (name : String)
  | settings (error : SettingsError α)
  | history (error : HistoryError α)
deriving Repr

def RegistryError.message : RegistryError Float → String
  | .emptyName => "Channel name must not be empty"
  | .taken name => s!"Channel '{name}' is already registered"
  | .unknown name => s!"Channel '{name}' is not registered"
  | .settings error => error.message
  | .history error => error.message

/-- Where the settings of a channel come from. -/
abbrev SettingsSource (α : Type) := String → Except (SettingsError α) (Settings α)

namespace Registry

def empty : Registry α := ⟨.empty, []⟩

/-- The number of the monitor of a channel. -/
def find? (r : Registry α) (name : String) : Option Nat :=
  r.channels.lookup name

def contains (r : Registry α) (name : String) : Bool :=
  (r.find? name).isSome

def names (r : Registry α) : List String :=
  r.channels.map (·.1)

def size (r : Registry α) : Nat :=
  r.channels.length

protected def get (r : Registry α) (name : String) : Except (RegistryError α) Nat :=
  match r.find? name with
  | some monitor => .ok monitor
  | none => .error (.unknown name)

/-- Makes a monitor with the settings of a channel, without registering it, and gives out its
number. -/
def makeM (name : String) (s : Settings α) (now : α) : Work (Registry α) (HistoryError α) Nat := do
  let m ← ofExcept (Monitor.create name s now)
  let monitor := (← get).fleet.nextMonitor
  modify fun r => { r with fleet := r.fleet.add m }
  return monitor

/-- Registers a channel with a new monitor. -/
def registerM (source : SettingsSource α) (name : String) (now : α) :
    Work (Registry α) (RegistryError α) Nat := do
  if name.isEmpty then throw .emptyName
  else if (← get).contains name then throw (.taken name)
  else
    let s ← ofExcept ((source name).mapError .settings)
    let monitor ← (makeM name s now).mapError .history
    modify fun r => { r with channels := r.channels ++ [(name, monitor)] }
    return monitor

/-- Looks up the monitor of a channel. -/
def getM (name : String) : Work (Registry α) (RegistryError α) Nat := do
  ofExcept ((← get).get name)

/-- The monitor of a channel, which is registered if need be. A name that is refused is looked up
once more. -/
def getOrRegisterM (source : SettingsSource α) (name : String) (now : α) :
    Work (Registry α) (RegistryError α) Nat := do
  match (← get).find? name with
  | some monitor => return monitor
  | none =>
    tryCatch (registerM source name now) fun
      | .emptyName => getM name
      | .taken _ => getM name
      | e => throw e

/-- The registry after a registration, and the number of the new monitor. -/
def register (r : Registry α) (source : SettingsSource α) (name : String) (now : α) :
    Except (RegistryError α) (Registry α × Nat) :=
  (registerM source name now).result r

def getOrRegister (r : Registry α) (source : SettingsSource α) (name : String) (now : α) :
    Except (RegistryError α) (Registry α × Nat) :=
  (getOrRegisterM source name now).result r

/-- A monitor is made with the next number, or its histories cannot be created, and then the
registry is left as it was. -/
theorem makeM_eq (r : Registry α) (name : String) (s : Settings α) (now : α) : makeM name s now r =
    match Monitor.create name s now with
    | .error e => .error e r
    | .ok m => .ok r.fleet.nextMonitor { r with fleet := r.fleet.add m } := by
  simp only [makeM, Work.bind_apply, Work.get_apply, Work.modify_apply]
  cases Monitor.create name s now with
  | error e => rfl
  | ok m => rfl

/-- A registration that is refused leaves the registry as it was. -/
theorem registerM_eq (r : Registry α) (source : SettingsSource α) (name : String) (now : α) :
    registerM source name now r =
      if name.isEmpty then .error .emptyName r
      else if r.contains name then .error (.taken name) r
      else match source name with
        | .error e => .error (.settings e) r
        | .ok s =>
          match Monitor.create name s now with
          | .error e => .error (.history e) r
          | .ok m =>
            .ok r.fleet.nextMonitor
              ⟨r.fleet.add m, r.channels ++ [(name, r.fleet.nextMonitor)]⟩ := by
  unfold registerM
  split
  · rfl
  · simp only [Work.bind_apply, Work.get_apply]
    split
    · rfl
    · simp only [Work.bind_apply, Work.mapError, makeM_eq, Work.modify_apply]
      cases source name with
      | error e => rfl
      | ok s =>
        dsimp only [Except.mapError, Work.ofExcept_ok]
        cases Monitor.create name s now with
        | error e => rfl
        | ok m => rfl

theorem registerM_eq_error {r after : Registry α} {source : SettingsSource α} {name : String}
    {now : α} {e : RegistryError α} (h : registerM source name now r = .error e after) :
    after = r := by
  rw [registerM_eq] at h
  split at h
  · cases h
    rfl
  split at h
  · cases h
    rfl
  split at h
  · cases h
    rfl
  split at h
  · cases h
    rfl
  · cases h

/-- A name that cannot be registered is simply not there. -/
theorem getOrRegisterM_eq (r : Registry α) (source : SettingsSource α) (name : String) (now : α) :
    getOrRegisterM source name now r =
      match r.find? name with
      | some monitor => .ok monitor r
      | none =>
        match registerM source name now r with
        | .error .emptyName _ => .error (.unknown name) r
        | .error (.taken _) _ => .error (.unknown name) r
        | done => done := by
  simp only [getOrRegisterM, Work.bind_apply, Work.get_apply]
  cases hfind : r.find? name with
  | some monitor => rfl
  | none =>
    have hget : r.get name = .error (.unknown name) := by rw [Registry.get, hfind]
    dsimp only
    rw [Work.tryCatch_apply]
    cases hregister : registerM source name now r with
    | ok monitor after => rfl
    | error e after =>
      obtain rfl := registerM_eq_error hregister
      cases e with
      | emptyName => simp [getM, hget]
      | taken name => simp [getM, hget]
      | unknown name => rfl
      | settings e => rfl
      | history e => rfl

theorem getOrRegisterM_eq_error {r after : Registry α} {source : SettingsSource α} {name : String}
    {now : α} {e : RegistryError α} (h : getOrRegisterM source name now r = .error e after) :
    after = r := by
  rw [getOrRegisterM_eq] at h
  split at h
  · cases h
  split at h
  · cases h
    rfl
  · cases h
    rfl
  · exact registerM_eq_error h

/-- The registered monitors in order. -/
def registered (r : Registry α) : List (Monitor α) :=
  r.channels.filterMap fun channel => r.fleet.monitors[channel.2]?

/-- The registry without names. -/
def close (r : Registry α) : Registry α :=
  { r with channels := [] }

end Registry

end SendMeter
