import ViewDoc.Action.BuiltIn
import ViewDoc.Action.Trigger
import ViewDoc.View.Session
/-!
Dispatching events. An event goes from the element it happens to up to the nearest element that has
bindings for its trigger, and runs their actions. A click selects the element as well, and where
events need a selection, it does nothing else to one that was not selected.
-/

set_option autoImplicit false

namespace ViewDoc

/-- What an event happens to: the first element of a node, the element at a position of the current
view, or an element outside of it. -/
inductive EventTarget where
  | node (id : String)
  | place (position : List Nat)
  | detached (v : View)
  deriving Repr

/-- What becomes of an action. -/
inductive ActionRoute where
  | override (h : HostHandler)
  | builtIn (b : BuiltIn)
  | handler (h : HostHandler)
  | param (name : String)
  | increment (key : Option String)
  | unknown

/-- What a dispatched event did. -/
structure DispatchReport where
  targetId : Option String := none
  selectedId : Option String := none
  selectionChanged : Bool := false
  handledBy : Option String := none
  actions : List String := []
  effects : List Effect := []
  preventDefault : Bool := false
  stateChanged : Bool := false
  deriving DecidableEq, Repr, Inhabited

/-- A dispatch on its way: the session, what was done so far, and the failure that ended it. -/
structure Turn where
  session : Session
  notices : List Notice := []
  actions : List String := []
  effects : List Effect := []
  stateChanged : Bool := false
  failure : Option Failure := none

/-- The end of a dispatch. -/
structure Dispatched where
  session : Session
  notices : List Notice := []
  outcome : Except Failure DispatchReport

namespace DispatchReport

/-- Whether an action was run. -/
def fired (r : DispatchReport) : Bool :=
  !r.actions.isEmpty

/-- A report as an object. -/
def toValue (r : DispatchReport) : Value :=
  .object [("target_id", .ofText? r.targetId), ("selected_id", .ofText? r.selectedId),
    ("selection_changed", .bool r.selectionChanged), ("handled_by", .ofText? r.handledBy),
    ("actions", .list (r.actions.map .str)), ("effects", .list (r.effects.map Effect.toValue)),
    ("prevent_default", .bool r.preventDefault), ("state_changed", .bool r.stateChanged),
    ("fired", .bool r.fired)]

end DispatchReport

namespace Session

/-- What becomes of an action in a session. -/
def route (s : Session) (action : String) : ActionRoute :=
  match Entries.get? s.handlers.overrides action with
  | some h => .override h
  | none =>
    match BuiltIn.ofName? action with
    | some b => .builtIn b
    | none =>
      match Entries.get? s.handlers.actions action with
      | some h => .handler h
      | none =>
        match Entries.get s.stage.params action with
        | .handler name => .param name
        | _ =>
          if action = Increment.action then .increment (Increment.target? s.stage.state)
          else .unknown

end Session

namespace Turn

/-- Updates the state. -/
def setState (t : Turn) (updates : Entries) : Turn :=
  let (session, told) := t.session.setState updates
  { t with session, notices := t.notices ++ told,
           stateChanged := t.stateChanged ||
             !(Session.changes t.session.stage.state updates).isEmpty }

/-- Lets the host know something. -/
def tell (t : Turn) (n : Notice) : Turn :=
  { t with notices := t.notices ++ [n] }

/-- Carries out what the host does when it is told something. -/
def react (t : Turn) (n : Notice) : Turn :=
  (t.session.handlers.reacts n).foldl setState t

/-- Ends the turn with a failure. -/
def fail (t : Turn) (f : Failure) : Turn :=
  { t with failure := some f }

/-- Asks for the effect of a built-in action. -/
def request (t : Turn) : Except Failure (Option Effect) -> Turn
  | .error f => t.fail f
  | .ok none => t
  | .ok (some e) =>
    ({ t with effects := t.effects ++ [e] }.tell (.requested e)).react (.requested e)

/-- Calls a handler and carries out its updates. -/
def call (t : Turn) (overriding : Bool) (h : HostHandler) (c : ActionCall) : Turn :=
  ((t.tell (.handled overriding c)).setState (h c)).react (.handled overriding c)

/-- Adds one to a state variable. -/
def increment (t : Turn) : Option String -> Turn
  | none => t
  | some key => t.setState [(key, Increment.next (Entries.get t.session.stage.state key))]

/-- Runs the action of an event that an element has under a key. -/
def run (t : Turn) (trigger nodeId : String) (payload : Value) (key action : String)
    (params : Value) : Turn :=
  let t := { t with actions := t.actions ++ [action] }
  match params.entries with
  | .error f => t.fail (.fault f)
  | .ok entries =>
    let c : ActionCall :=
      { action, nodeId, trigger, eventKey := key, params := .ofKeyed entries, payload,
        state := t.session.stage.state, docParams := t.session.stage.params }
    match t.session.route action with
    | .override h => t.call true h c
    | .builtIn b => t.request (b.effect? params nodeId trigger)
    | .handler h => t.call false h c
    | .param name => (t.tell (.called name payload)).react (.called name payload)
    | .increment target => t.increment target
    | .unknown => t

/-- Runs an event, unless a failure came before it or it has no action. -/
def runEvent (trigger nodeId : String) (payload : Value) (t : Turn) (e : String × ViewEvent) :
    Turn :=
  if t.failure.isSome then t
  else
    match e.2.action.filter (· ≠ "") with
    | some action => t.run trigger nodeId payload e.1 action e.2.params
    | none => t

/-- Runs events in order. -/
def runAll (t : Turn) (trigger nodeId : String) (payload : Value)
    (events : List (String × ViewEvent)) : Turn :=
  events.foldl (runEvent trigger nodeId payload) t

end Turn

namespace ViewFields

/-- The events of an element for a trigger. -/
def matching (f : ViewFields) (trigger : String) : List (String × ViewEvent) :=
  f.events.filter fun e => Trigger.sameEvent e.2.trigger trigger

end ViewFields

namespace Session

/-- The elements from a target up to the root that stand for nodes. -/
def chainOf (s : Session) : EventTarget -> Except Fault (Session × List ViewFields)
  | .detached v => .ok (s, [v.value].filter fun f => f.nodeId.isSome)
  | .node id => do
    let (s, r) ← s.current
    match (r.view.positionsOf id).head? with
    | some place => return (s, (r.view.ancestry place).filter fun f => f.nodeId.isSome)
    | none => return (s, [])
  | .place position => do
    let (s, r) ← s.current
    return (s, (r.view.ancestry position).filter fun f => f.nodeId.isSome)

/-- Whether a trigger is a click. -/
def isClick (trigger : String) : Bool :=
  Trigger.handler trigger == "onClick"

/-- Selects a node; the view shows the selection where elements can be selected. -/
def select (s : Session) (id : String) : Session × List Notice :=
  let (t, told) := { s with stage.selected := some id }.inform (.selected id)
  if s.stage.settings.selectable then
    let (t, told') := t.invalidate
    (t, told ++ told')
  else (t, told)

/-- Whether the host is to keep an element from following its own link. -/
def prevents (s : Session) (id : String) : Bool :=
  s.stage.settings.selectable &&
    (NodeCapability.link? s.capabilities ((s.stage.document.node? id).map Tree.value)).isSome

/-- Runs the bindings of the nearest element of a chain that has some for the trigger. -/
def answer (s : Session) (trigger : String) (payload : Value) (chain : List ViewFields) :
    Option String × Turn :=
  match chain.find? fun f => !(f.matching trigger).isEmpty with
  | none => (none, { session := s })
  | some f =>
    (f.nodeId, Turn.runAll { session := s } trigger (f.nodeId.getD "") payload (f.matching trigger))

/-- Ends a dispatch whose report is known up to the actions. -/
def finish (s : Session) (trigger : String) (payload : Value) (chain : List ViewFields)
    (told : List Notice) (report : DispatchReport) : Dispatched :=
  let (handledBy, t) := s.answer trigger payload chain
  { session := t.session, notices := told ++ t.notices,
    outcome := match t.failure with
      | some f => .error f
      | none => .ok { report with
          handledBy, actions := t.actions, effects := t.effects, stateChanged := t.stateChanged } }

/-- Dispatches an event along a chain of elements. -/
def dispatchAlong (s : Session) (trigger : String) (payload : Value) (chain : List ViewFields) :
    Dispatched :=
  match chain with
  | [] => ⟨s, [], .ok {}⟩
  | f :: _ =>
    let id := f.nodeId.getD ""
    if !isClick trigger then s.finish trigger payload chain [] { targetId := some id }
    else
      let wasSelected := s.stage.selected == some id
      let report : DispatchReport :=
        { targetId := some id, selectedId := some id, selectionChanged := !wasSelected,
          preventDefault := s.prevents id }
      let (t, told) := if wasSelected then (s, []) else s.select id
      if s.needsSelection && !wasSelected then ⟨t, told, .ok report⟩
      else t.finish trigger payload chain told report

/-- Dispatches an event at a target. -/
def dispatch (s : Session) (trigger : String) (target : EventTarget) (payload : Value) :
    Dispatched :=
  match s.chainOf target with
  | .error f => ⟨s, [], .error (.fault f)⟩
  | .ok (s, chain) => s.dispatchAlong trigger payload chain

end Session

end ViewDoc
