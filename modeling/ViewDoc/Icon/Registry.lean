import ViewDoc.Icon.Provider
/-!
The registry of icon providers, some of which are loaded when they are first needed. Loads run
beside one another: a load is scheduled by a request, starts some time later, and finishes with a
provider or an error. A record that is registered again replaces the old one, which a running load
may still hold.
-/

set_option autoImplicit false

namespace ViewDoc

/-- How far a provider has come. -/
inductive IconStatus where
  | idle
  | loading
  | ready
  | error
  deriving DecidableEq, Repr, Inhabited

/-- A registered provider. Serial numbers tell records of one id apart. -/
structure IconRecord where
  serial : Nat
  id : String
  label : String
  status : IconStatus
  provider : Option IconProvider := none
  hasLoader : Bool := false
  error : Option String := none

/-- What observers see of a record. -/
structure IconState where
  id : String
  label : String
  status : IconStatus
  error : Option String := none
  deriving DecidableEq, Repr

/-- A load that has not ended, with the record that it holds. The record may be registered no
longer. -/
structure IconLoad where
  key : Nat
  record : IconRecord
  started : Bool := false

/-- The records by id in order of registration, the load in flight for each id, and all loads that
have not ended, in order of creation. A record that is registered and held is the same in both
places. -/
structure IconRegistry where
  records : List (String × IconRecord) := []
  inFlight : List (String × Nat) := []
  loads : List IconLoad := []
  next : Nat := 0

/-- How a load ends. -/
inductive LoadOutcome where
  | loaded (provider : IconProvider)
  | failed (reason : String)

/-- What a request for readiness finds. -/
inductive IconRequest where
  | unknown
  | ready
  | awaits (load : Nat)
  deriving DecidableEq, Repr

/-- What an icon reference amounts to at a moment. -/
structure IconResolution where
  status : Option IconStatus
  element : Option String := none
  importSource : Option String := none
  deriving DecidableEq, Repr

namespace IconStatus

/-- The word for a status. -/
def word : IconStatus -> String
  | .idle => "idle"
  | .loading => "loading"
  | .ready => "ready"
  | .error => "error"

/-- Whether a provider in this status may still become ready by itself. -/
def isPending : IconStatus -> Bool
  | .idle | .loading => true
  | _ => false

end IconStatus

/-- A state as an object. -/
def IconState.toValue (s : IconState) : Value :=
  .object [("id", .str s.id), ("label", .str s.label), ("status", .str s.status.word),
    ("error", .ofText? s.error)]

namespace IconRecord

/-- What observers see of a record. -/
def state (r : IconRecord) : IconState :=
  ⟨r.id, r.label, r.status, r.error⟩

/-- A record when a load of it starts. -/
def opened (r : IconRecord) : IconRecord :=
  { r with status := .loading, error := none }

/-- A record when a load of it has ended. -/
def closed (r : IconRecord) : LoadOutcome -> IconRecord
  | .failed reason => { r with status := .error, error := some reason }
  | .loaded provider =>
    { r with provider := some provider, status := .ready,
             label := (provider.label.filter (· ≠ "")).getD r.label }

end IconRecord

namespace IconResolution

/-- Whether the icon has to wait for its provider. -/
def isDeferred (r : IconResolution) : Bool :=
  match r.status with
  | some s => s.isPending
  | none => false

end IconResolution

namespace IconRegistry

/-- The record registered under a provider id, however it is written. -/
def record? (r : IconRegistry) (id : String) : Option IconRecord :=
  Entries.get? r.records (IconProvider.normalizeId id)

/-- What observers see of the provider registered under an id. -/
def state? (r : IconRegistry) (id : String) : Option IconState :=
  (r.record? id).map IconRecord.state

/-- What observers are told about the record under a key. -/
def seen (r : IconRegistry) (id : String) : List IconState :=
  (Entries.get? r.records id).toList.map IconRecord.state

/-- Registers a record with the next serial number, and tells observers. -/
def put (r : IconRegistry) (id : String) (make : Nat -> IconRecord) :
    IconRegistry × List IconState :=
  let r := { r with records := Entries.set r.records id (make r.next), next := r.next + 1 }
  (r, r.seen id)

/-- Registers a provider that is ready. A blank id registers nothing. -/
def register (r : IconRegistry) (id : String) (provider : IconProvider) :
    IconRegistry × List IconState :=
  let key := IconProvider.normalizeId id
  if key = "" then (r, [])
  else
    r.put key fun serial =>
      { serial, id := key, label := (provider.label.filter (· ≠ "")).getD (Text.trim id),
        status := .ready, provider := some provider }

/-- Registers a provider that is loaded when it is needed. A blank id registers nothing. -/
def registerLoader (r : IconRegistry) (id : String) (label : Option String) :
    IconRegistry × List IconState :=
  let key := IconProvider.normalizeId id
  if key = "" then (r, [])
  else
    r.put key fun serial =>
      { serial, id := key, label := (label.filter (· ≠ "")).getD (Text.trim id), status := .idle,
        hasLoader := true }

/-- Asks for a provider to become ready. Unless it is, the caller awaits the load in flight for its
id, and without one a new load is scheduled. -/
def request (r : IconRegistry) (id : String) : IconRegistry × IconRequest :=
  match r.record? id with
  | none => (r, .unknown)
  | some record =>
    if record.status = .ready then (r, .ready)
    else
      match Entries.get? r.inFlight record.id with
      | some load => (r, .awaits load)
      | none =>
        let load : IconLoad := ⟨r.next, record, false⟩
        ({ r with inFlight := Entries.set r.inFlight record.id load.key, loads := r.loads ++ [load],
                  next := r.next + 1 }, .awaits load.key)

/-- Changes the record with a serial number wherever it is registered or held. -/
def change (r : IconRegistry) (serial : Nat) (f : IconRecord -> IconRecord) : IconRegistry :=
  let g (record : IconRecord) : IconRecord := if record.serial = serial then f record else record
  { r with records := r.records.map fun e => (e.1, g e.2),
           loads := r.loads.map fun l => { l with record := g l.record } }

/-- The load with a key, while it has not ended. -/
def load? (r : IconRegistry) (key : Nat) : Option IconLoad :=
  r.loads.find? fun l => l.key == key

/-- Without the load with a key. -/
def drop (r : IconRegistry) (key : Nat) : IconRegistry :=
  { r with loads := r.loads.filter fun l => l.key ≠ key }

/-- Whether the load with a key cannot start, since its record has no loader. -/
def refuses (r : IconRegistry) (key : Nat) : Bool :=
  match r.load? key with
  | some load => !load.record.hasLoader
  | none => false

/-- Starts a scheduled load. One that cannot start ends at once, and stays the load in flight. -/
def start (r : IconRegistry) (key : Nat) : IconRegistry × List IconState :=
  match r.load? key with
  | none => (r, [])
  | some load =>
    if r.refuses key then (r.drop key, [])
    else
      let started (l : IconLoad) : IconLoad := if l.key = key then { l with started := true } else l
      let r := { r with loads := r.loads.map started }
      let r := r.change load.record.serial IconRecord.opened
      (r, r.seen load.record.id)

/-- Finishes a running load. -/
def finish (r : IconRegistry) (key : Nat) (outcome : LoadOutcome) :
    IconRegistry × List IconState :=
  match r.load? key with
  | none => (r, [])
  | some load =>
    let r := { r.drop key with inFlight := Entries.erase r.inFlight load.record.id }
    let r := r.change load.record.serial fun record => record.closed outcome
    (r, r.seen load.record.id)

/-- What a reference amounts to now; a provider that is not ready defers it. -/
def resolve (r : IconRegistry) (ref : IconRef) : IconResolution :=
  match r.record? ref.provider with
  | none => { status := none }
  | some record =>
    match record.status, record.provider with
    | .ready, some provider =>
      ⟨some .ready, provider.resolve ref.name ref.variant, provider.importSource⟩
    | status, _ => { status := some status }

/-- The states of all providers by label. -/
def states (r : IconRegistry) : List IconState :=
  (r.records.map fun e => e.2.state).mergeSort fun a b => Text.lower a.label ≤ Text.lower b.label

/-- The icons that a provider lists. -/
def icons (r : IconRegistry) (id : String) : List String :=
  (((r.record? id).bind IconRecord.provider).bind IconProvider.icons).getD []

/-- The registry of the Lucide icons. -/
def standard : IconRegistry :=
  (IconRegistry.register {} "lucide" .lucide).1

end IconRegistry

end ViewDoc
