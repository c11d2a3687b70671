import ViewDoc.Decode
import ViewDoc.Text.Split
import ViewDoc.Tree
/-!
Views: trees of rendered elements. An element that stands for no node, such as the copy of a list's
template for one item, has no node id.
-/

set_option autoImplicit false

namespace ViewDoc

/-- An event of an element. -/
structure ViewEvent where
  trigger : String
  action : Option String := none
  params : Value := .object []
  deriving DecidableEq, Repr, Inhabited

/-- An element, besides its children. `mounts` names the outlet whose views are the children. -/
structure ViewFields where
  element : String
  nodeId : Option String := none
  nodeType : Option String := none
  key : Value := .null
  props : Entries := []
  style : Value := .object []
  text : Value := .null
  events : List (String × ViewEvent) := []
  mounts : Option String := none
  deriving DecidableEq, Repr, Inhabited

/-- A rendered element with its descendants. -/
abbrev View := Tree ViewFields

namespace ViewEvent

/-- An event as an object, without what is null. -/
def toValue (e : ViewEvent) : Value :=
  .object (("trigger", .str e.trigger) ::
    [("action", Value.ofText? e.action), ("params", e.params)].filter fun p => !p.2.isNull)

end ViewEvent

namespace View

/-- The element around the copies of a template. -/
def fragmentElement : String := "Fragment"

/-- The handlers among the props are for the host alone. -/
private def plainProps (props : Entries) : Entries :=
  props.filter fun p => match p.2 with
    | .handler _ => false
    | _ => true

private def part (name : String) (shown : Bool) (v : Value) : Entries :=
  if shown then [(name, v)] else []

/-- The entries of an element around the given children; what is empty is left out. -/
def fieldEntries (f : ViewFields) (children : List Value) : Entries :=
  [("element", .str f.element)] ++
    part "nodeId" f.nodeId.isSome (.ofText? f.nodeId) ++ part "key" (!f.key.isNull) f.key ++
    part "props" (!f.props.isEmpty) (.object (plainProps f.props)) ++
    part "style" f.style.isTruthy f.style ++ part "text" (!f.text.isNull) f.text ++
    part "events" (!f.events.isEmpty) (.object (f.events.map fun e => (e.1, e.2.toValue))) ++
    part "children" (!children.isEmpty) (.list children)

mutual

/-- A view as an object. -/
def toValue : View -> Value
  | .node f cs => .object (fieldEntries f (toValues cs))

/-- Views as objects. -/
def toValues : List View -> List Value
  | [] => []
  | v :: rest => toValue v :: toValues rest

end

/-- An event that the host describes by an object. -/
def eventOf : Value -> Decoded ViewEvent
  | .object es =>
    (fun trigger action params => { trigger, action, params := .object params }) <$>
      Decode.required es ["trigger"] Decode.text <*>
      Decode.field es ["action"] (.value none) (Decode.optional Decode.text) <*>
      Decode.field es ["params"] (.value []) Decode.object
  | _ => .fail .modelType

/-- Events that the host describes, up to the first that is none. -/
def eventsOf : Entries -> Decoded (List (String × ViewEvent))
  | [] => .value []
  | (key, v) :: rest =>
    (eventOf v).andThen fun e => (eventsOf rest).map fun events => (key, e) :: events

/-- The fields of an element that the host describes by an object. -/
def fieldsOf (es : Entries) : Decoded ViewFields :=
  let text (name : String) : Option String := (Entries.get es name).asText?
  let object (name : String) : Entries := ((Entries.get es name).asObject?).getD []
  (eventsOf (object "events")).map fun events =>
    { element := (text "element").getD "", nodeId := text "nodeId", nodeType := text "nodeType",
      key := Entries.get es "key", props := object "props", style := .object (object "style"),
      text := Entries.get es "text", events }

mutual

/-- A view that the host describes by an object. -/
def ofValue : Value -> Decoded View
  | .object es =>
    (fieldsOf es).andThen fun f => (childrenOf es).map fun children => .node f children
  | _ => (fieldsOf []).map fun f => .node f []

/-- The views below a described one. -/
def childrenOf : List (String × Value) -> Decoded (List View)
  | [] => .value []
  | (key, v) :: rest => if key = "children" then ofItems v else childrenOf rest

/-- Views that a list describes. -/
def ofItems : Value -> Decoded (List View)
  | .list items => ofValues items
  | _ => .value []

/-- Views that items describe, up to the first that is none. -/
def ofValues : List Value -> Decoded (List View)
  | [] => .value []
  | v :: rest =>
    (ofValue v).andThen fun view => (ofValues rest).map fun views => view :: views

end

private def ownText (f : ViewFields) : String :=
  if f.text.isNull then "" else f.text.display

mutual

/-- The text of a view with that of its descendants. -/
def textContent : View -> String
  | .node f cs => ownText f ++ textContents cs

/-- The texts of views, one after the other. -/
def textContents : List View -> String
  | [] => ""
  | v :: rest => textContent v ++ textContents rest

end

/-- The views of a node in document order. -/
def findAll (v : View) (nodeId : String) : List View :=
  v.walk.filter fun w => w.value.nodeId == some nodeId

/-- The positions of the elements of a node in document order. -/
def positionsOf (v : View) (nodeId : String) : List (List Nat) :=
  (v.positions.filter fun p => p.2.nodeId == some nodeId).map (·.1)

/-- The last position at which the views of an outlet are mounted. -/
def lastMount? (v : View) (outlet : String) : Option (List Nat) :=
  ((v.positions.filter fun p => p.2.mounts == some outlet).getLast?).map (·.1)

/-- The part of a position that leads to a mounted outlet, with the outlet, if it leads into one. -/
def mountOn? (v : View) (place : List Nat) : Option (Nat × String) :=
  (List.range place.length).findSome? fun n =>
    ((v.at? (place.take n)).bind fun w => w.value.mounts).map fun outlet => (n, outlet)

/-- A mounted view is one and the same wherever it is mounted, and has its place where it is mounted
last. This is the position that an element has for that reason. -/
def properPlace (v : View) (place : List Nat) : List Nat :=
  match mountOn? v place with
  | some (n, outlet) => ((lastMount? v outlet).getD (place.take n)) ++ place.drop n
  | none => place

/-- The elements from a position up to the root. -/
def ancestry (v : View) (place : List Nat) : List ViewFields :=
  (v.along (v.properPlace place)).reverse

end View

end ViewDoc
