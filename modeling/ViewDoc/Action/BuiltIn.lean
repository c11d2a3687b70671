import ViewDoc.Failure
import ViewDoc.Json.Reader
import ViewDoc.Text.Blank
import ViewDoc.Value.Entries
/-!
Built-in actions: navigation, and the execution of graphs. An action asks for an effect, which the
host carries out. The increment action counts in the state variable `count` if that holds a number,
and else in the first variable that does.
-/

set_option autoImplicit false

namespace ViewDoc.Increment

/-- The action that adds one to a state variable. -/
def action : String := "increment"

/-- The state variable that the action counts in. -/
def target? (state : Entries) : Option String :=
  if (Entries.get state "count").isNumber then some "count"
  else (state.find? fun e => e.2.isNumber).map (·.1)

/-- A number with one added to it. -/
def next : Value -> Value
  | .int i => .int (i + 1)
  | .float x => .float (x.add (.ofInt 1))
  | v => v

end ViewDoc.Increment

namespace ViewDoc

/-- The actions that need no handler. -/
inductive BuiltIn where
  | navigate
  | executeGraph
  deriving DecidableEq, Repr

/-- What an effect does. -/
inductive EffectKind where
  | openWindow
  | locationAssign
  | locationReplace
  | historyPush
  | historyReplace
  | broadcast
  deriving DecidableEq, Repr

/-- An effect that an action asks the host for. -/
structure Effect where
  kind : EffectKind
  nodeId : String
  trigger : String
  url : Option String := none
  state : Value := .null
  eventName : Option String := none
  detail : Entries := []
  needsConsent : Bool := false
  deriving DecidableEq, Repr

/-- Where a link leads. -/
inductive LinkKind where
  | external
  | internal
  deriving DecidableEq, Repr

/-- The window in which a link opens. -/
inductive LinkTarget where
  | here
  | blank
  deriving DecidableEq, Repr

namespace BuiltIn

/-- The built-in action of a name. -/
def ofName? : String -> Option BuiltIn
  | "navigate" => some .navigate
  | "executeGraph" => some .executeGraph
  | _ => none

/-- The params that an editor starts an action with. -/
def defaultParams (action : String) : Entries :=
  if ofName? action = some .executeGraph then
    [("graphMode", .str "new"), ("graphName", .str ""), ("graphId", .str "")]
  else
    [("to", .str ""), ("target", .str "_blank"), ("replace", .bool false), ("state", .str "")]

end BuiltIn

namespace EffectKind

/-- The word for a kind of effect. -/
def word : EffectKind -> String
  | .openWindow => "open-window"
  | .locationAssign => "location-assign"
  | .locationReplace => "location-replace"
  | .historyPush => "history-push"
  | .historyReplace => "history-replace"
  | .broadcast => "broadcast"

end EffectKind

namespace LinkKind

/-- The kind of link to a destination: to the web, to a path of the application, or none. -/
def of? (destination : String) : Option LinkKind :=
  if "https://".toList.isPrefixOf destination.toList then some .external
  else if destination.toList.head? == some '/' then some .internal
  else none

/-- The word for a kind of link. -/
def word : LinkKind -> String
  | .external => "external"
  | .internal => "internal"

end LinkKind

namespace LinkTarget

/-- The target that a value names; anything but the own window is a new one. -/
def ofValue (v : Value) : LinkTarget :=
  if v = .str "_self" then .here else .blank

/-- The target that a link opens in, which may have to be a new window for safety. -/
def effective (t : LinkTarget) (forceBlank : Bool) : LinkTarget :=
  if forceBlank then .blank else t

/-- Whether safety overrules the configured target. -/
def isOverruled (t : LinkTarget) (forceBlank : Bool) : Bool :=
  forceBlank && t == .here

/-- The word for a target. -/
def word : LinkTarget -> String
  | .here => "_self"
  | .blank => "_blank"

end LinkTarget

namespace Effect

/-- An effect as an object. -/
def toValue (e : Effect) : Value :=
  .object [("kind", .str e.kind.word), ("node_id", .str e.nodeId), ("trigger", .str e.trigger),
    ("url", .ofText? e.url), ("state", e.state), ("event_name", .ofText? e.eventName),
    ("detail", .object e.detail), ("requires_confirmation", .bool e.needsConsent)]

end Effect

namespace Navigation

/-- The history state that a param gives: nothing for an empty one, the value of a JSON text, and
any other value itself. -/
def state : Value -> Except Fault Value
  | .str s =>
    if s = "" then .ok .null
    else
      match Json.read s with
      | .ok v => .ok v
      | .error .malformed => .ok (.str s)
      | .error .longNumeral => .error (.numeral s)
  | v => .ok v

/-- The trimmed destination. -/
def destination (params : Entries) : String :=
  Text.trim (((Entries.get params "to").asText?).getD "")

/-- The kind of effect that opens an external link. -/
def externalKind (params : Entries) : EffectKind :=
  if LinkTarget.ofValue (Entries.get params "target") = .blank then .openWindow
  else if (Entries.get params "replace").isTruthy then .locationReplace
  else .locationAssign

/-- The kind of effect that follows an internal link. -/
def internalKind (params : Entries) : EffectKind :=
  if (Entries.get params "replace").isTruthy then .historyReplace else .historyPush

/-- The effect of navigation, unless the destination is no link. -/
def effect? (params : Entries) (nodeId trigger : String) : Except Fault (Option Effect) := do
  let url := destination params
  if url = "" then return none
  let state ← state (Entries.get params "state")
  match LinkKind.of? url with
  | some .external =>
    return some { kind := externalKind params, nodeId, trigger, url := some url, needsConsent := true }
  | some .internal =>
    return some { kind := internalKind params, nodeId, trigger, url := some url, state }
  | none => return none

end Navigation

namespace BuiltIn

/-- The event that asks for the execution of a graph. -/
def graphEvent : String := "mdr:execute-graph"

/-- The params of an action as entries; what does not hold counts as none. -/
def paramEntries (params : Value) : Except Fault (List (Key × Value)) :=
  if params.isTruthy then params.entries else .ok []

/-- The effect that a built-in action asks for, if any. The detail of an event has text keys. -/
def effect? (b : BuiltIn) (params : Value) (nodeId trigger : String) :
    Except Failure (Option Effect) := do
  let params ← Failure.ofFault (paramEntries params)
  match b with
  | .executeGraph =>
    let detail ← Failure.ofDecoded ((Decode.textKeys params).under (.key "detail"))
    return some { kind := .broadcast, nodeId, trigger, eventName := some graphEvent, detail }
  | .navigate => Failure.ofFault (Navigation.effect? (Keyed.named params) nodeId trigger)

end BuiltIn

end ViewDoc
