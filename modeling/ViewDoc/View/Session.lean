import ViewDoc.Action.BuiltIn
import ViewDoc.Canonical.Build
import ViewDoc.Component.Link
import ViewDoc.Observers
import ViewDoc.View.Render
/-!
Live sessions: a stage with the view that was last rendered on it. A change of the stage makes the
session dirty and tells its listeners; the next rendering starts afresh. Handlers of the host are told
of actions, and tell the session what to do.
-/

set_option autoImplicit false

namespace ViewDoc

/-- What a handler is told about an action. -/
structure ActionCall where
  action : String
  nodeId : String
  trigger : String
  eventKey : String
  params : Value
  payload : Value
  state : Entries
  docParams : Entries
  deriving DecidableEq, Repr

/-- A call by its entries. -/
def ActionCall.entries (c : ActionCall) : Entries :=
  [("action", .str c.action), ("node_id", .str c.nodeId), ("trigger", .str c.trigger),
    ("event_key", .str c.eventKey), ("params", c.params), ("payload", c.payload),
    ("state", .object c.state), ("doc_params", .object c.docParams)]

/-- What a session lets its host know. -/
inductive Notice where
  /-- A listener is told that the view is out of date. -/
  | notified (listener : String)
  | selected (nodeId : String)
  | requested (e : Effect)
  /-- A handler is called; `overriding` tells that it stands in for a built-in action. -/
  | handled (overriding : Bool) (call : ActionCall)
  /-- A handler that came as a param is called. -/
  | called (name : String) (payload : Value)
  deriving DecidableEq, Repr

/-- A handler answers a call with updates of the state. -/
abbrev HostHandler := ActionCall -> Entries

/-- The handlers by action: those that go before the built-in actions, and the others. What the host
does besides, when it is told something, are further updates of the state, one after the other. -/
structure HostHandlers where
  overrides : List (String × HostHandler) := []
  actions : List (String × HostHandler) := []
  reacts : Notice -> List Entries := fun _ => []


/-- A live session. -/
structure Session where
  stage : Stage
  build : List Diagnostic := []
  handlers : HostHandlers := {}
  capabilities : List NodeCapability := NodeCapability.standard
  needsSelection : Bool := false
  dirty : Bool := true
  last : Option Rendering := none
  listeners : Observers := {}
  watchesIcons : Bool := true

namespace Session

/-- The state that a document declares. -/
def initialState (d : CanonicalDocument) : Entries :=
  (d.logic.getD {}).state.map fun s => (s.1, s.2.initial)

/-- The declared defaults of the params. -/
def defaultParams (d : CanonicalDocument) : Entries :=
  (d.logic.getD {}).props.filterMap fun p => p.2.default.map fun v => (p.1, v)

/-- The stage of a document with given params over the defaults. -/
def stageOf (d : CanonicalDocument) (given : Entries) : Stage :=
  { document := d, state := initialState d, params := Entries.merge (defaultParams d) given }

/-- A session on a document with the reports on its making. -/
def ofNormalized (source : Normalized) (given : Entries) : Session :=
  { stage := stageOf source.document given, build := source.diagnostics }

/-- Renders the view. A fault leaves the session as it was. -/
def render (s : Session) : Except Fault (Session × Rendering) :=
  (Rendering.ofStage s.build s.stage).map fun r => ({ s with last := some r, dirty := false }, r)

/-- The view that is current, rendered if there is none or the session is dirty. -/
def current (s : Session) : Except Fault (Session × Rendering) :=
  match s.last with
  | some r => if s.dirty then s.render else .ok (s, r)
  | none => s.render

/-- Makes the session dirty and tells its listeners. -/
def invalidate (s : Session) : Session × List Notice :=
  ({ s with dirty := true }, s.listeners.names.map .notified)

/-- The updates of state that make a difference: those of a key that is new or holds a value that is
not loosely equal. -/
def changes (state updates : Entries) : Entries :=
  updates.filter fun e => match Entries.get? state e.1 with
    | some v => !v.equal e.2
    | none => true

/-- Updates the state, and invalidates the session if that makes a difference. -/
def setState (s : Session) (updates : Entries) : Session × List Notice :=
  let changed := changes s.stage.state updates
  if changed.isEmpty then (s, [])
  else { s with stage.state := Entries.merge s.stage.state changed }.invalidate

/-- Updates the state several times, one after the other. -/
def setStates (s : Session) : List Entries -> Session × List Notice
  | [] => (s, [])
  | updates :: rest =>
    let (s, told) := s.setState updates
    let (s, told') := s.setStates rest
    (s, told ++ told')

/-- Lets the host know something, and carries out what it does then. -/
def inform (s : Session) (n : Notice) : Session × List Notice :=
  let (s, told) := s.setStates (s.handlers.reacts n)
  (s, n :: told)

/-- Goes to another path. -/
def setPath (s : Session) (path : String) : Session × List Notice :=
  { s with stage.path := path }.invalidate

/-- Whether a state of an icon provider changes what is rendered. -/
def isSettled (i : IconState) : Bool :=
  i.status == .ready || i.status == .error

/-- Invalidates the session once for every state of an icon provider that changes what is
rendered. -/
def invalidateFor (s : Session) (seen : List IconState) : Session × List Notice :=
  let settled := seen.filter isSettled
  if settled.isEmpty then (s, [])
  else ({ s with dirty := true }, settled.flatMap fun _ => s.listeners.names.map .notified)

/-- Takes over the icon registry after the given states came about in it. -/
def observeIcons (s : Session) (icons : IconRegistry) (seen : List IconState) :
    Session × List Notice :=
  let t := { s with stage.icons := icons }
  if s.watchesIcons && s.stage.registry.showsIcons then t.invalidateFor seen else (t, [])

/-- Subscribes a listener under a name. -/
def subscribe (s : Session) (name : String) : Session :=
  { s with listeners := s.listeners.subscribe name }

/-- Ends the latest subscription under a name. -/
def unsubscribe (s : Session) (name : String) : Session :=
  { s with listeners := s.listeners.unsubscribe name }

/-- Ends all subscriptions and the observation of the icon registry. -/
def close (s : Session) : Session :=
  { s with watchesIcons := false, listeners := s.listeners.clear }

end Session

end ViewDoc
