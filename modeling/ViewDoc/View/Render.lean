import ViewDoc.Component.Registry
import ViewDoc.Noted
import ViewDoc.Route.Select
import ViewDoc.Scope.ListPlan
import ViewDoc.Text.Entity
import ViewDoc.View.Basic
/-!
Rendering: the view of a document with every reference resolved. A view depends on nothing but the
stage it is rendered on.
-/

set_option autoImplicit false

namespace ViewDoc

/-- How views are rendered. In strict mode elements of unknown types are marked. -/
structure ViewSettings where
  strict : Bool := false
  selectable : Bool := false
  preview : Bool := false
  maxDepth : Int := Value.defaultDepth
  deriving DecidableEq, Repr, Inhabited

/-- All that a view depends on. -/
structure Stage where
  document : CanonicalDocument
  registry : ComponentRegistry := .standard
  icons : IconRegistry := .standard
  settings : ViewSettings := {}
  outlets : List (String × List View) := []
  params : Entries := []
  state : Entries := []
  path : String := "/"
  selected : Option String := none

/-- A note on a rendered node. -/
inductive ViewNote where
  | report (d : Diagnostic)
  /-- The node waits for an icon provider. -/
  | pendingIcon (id : String)
  /-- The node carries along what describes a stylesheet. -/
  | stylesheet (sheet : Value)
  deriving DecidableEq, Repr, Inhabited

/-- What a node inherits from those above it: the context of references, and what an outer route
left of the path. -/
structure Frame where
  context : Context
  routePath : Option String := none
  deriving Repr, Inhabited

namespace Stage

open Noted (note ofExcept)

/-- The type of the nodes that choose one of their children by the path. -/
def routeType : String := "MdrRoute"

/-- The prop under which a node carries stylesheets along. -/
def stylesheetProp : String := "mountedCss"

/-- Resolves the references in a value. -/
def resolve (s : Stage) (frame : Frame) (v : Value) : Noted ViewNote Value :=
  ofExcept (v.resolve frame.context s.settings.maxDepth)

/-- Notes the stylesheets in a list. -/
def noteStylesheets : Value -> Noted ViewNote Unit
  | .list items => (items.filter Value.isObject).forM fun v => note (.stylesheet v)
  | _ => return ()

/-- The resolved props, without those that the element does not take. -/
def propsOf (s : Stage) (frame : Frame) (omitted : List String) : Entries -> Noted ViewNote Entries
  | [] => return []
  | (key, v) :: rest =>
    if omitted.contains key then propsOf s frame omitted rest
    else do
      let shown ← s.resolve frame v
      if key = stylesheetProp then
        noteStylesheets shown
        propsOf s frame omitted rest
      else
        return (key, shown) :: (← propsOf s frame omitted rest)

/-- The props that mark an element: one of an unknown type in strict mode, one that can be selected,
and the selected one. -/
def marks (s : Stage) (n : CanonicalFields) (fallback : Bool) : Entries :=
  (if s.settings.strict && fallback then
    [("data-mir-missing", .str "true"), ("data-mir-type", .str n.type)] else []) ++
  (if s.settings.selectable then
    ("data-mir-id", .str n.id) ::
      (if s.selected = some n.id then [("data-mir-selected", .str "true")] else [])
    else [])

/-- The resolved events. -/
def eventsOf (s : Stage) (frame : Frame) :
    List (String × EventBinding) -> Noted ViewNote (List (String × ViewEvent))
  | [] => return []
  | (key, e) :: rest => do
    let params ← s.resolve frame (.object e.params)
    return (key, ⟨e.trigger, e.action, params⟩) :: (← eventsOf s frame rest)

/-- The text of an element: a text has its character references decoded. -/
def shownText : Value -> Value
  | .str s => .str (Text.decodeEntities s)
  | v => v

/-- The element of a node without its text and its children. -/
def elementOf (s : Stage) (frame : Frame) (n : CanonicalFields) (r : Resolution) :
    Noted ViewNote ViewFields := do
  let props ← s.propsOf frame r.omitProps n.props
  let style ← s.resolve frame (.object n.style)
  let events ← s.eventsOf frame n.events
  return { element := r.element, nodeId := some n.id, nodeType := some n.type, style, events,
           props := Entries.merge props (s.marks n r.fallback) }

/-- The icon provider that a node waits for, where icons are shown. -/
def pendingIcon? (s : Stage) (n : CanonicalFields) : Option String :=
  if s.registry.showsIcons then (Adapter.pendingProvider? s.icons n).filter (· ≠ "") else none

/-- The resolution of a node, with its reports and the icon provider that it waits for. -/
def resolutionOf (s : Stage) (n : CanonicalFields) : Noted ViewNote Resolution := do
  let r := s.registry.resolve s.icons n
  r.diagnostics.forM fun d => note (.report d)
  (s.pendingIcon? n).toList.forM fun id => note (.pendingIcon id)
  return r

/-- The path that a route node goes by: its own, else what an outer route left, else that of the
stage. -/
def routePathOf (s : Stage) (frame : Frame) (n : CanonicalFields) : Except Fault String := do
  match ← (Entries.get n.props "currentPath").resolveOne frame.context with
  | .str explicit =>
    return if Text.isBlankText explicit then frame.routePath.getD s.path else explicit
  | _ => return frame.routePath.getD s.path

/-- What a child of a route node tells about the paths it is for. -/
def candidateOf (frame : Frame) (c : CanonicalNode) : Except Fault RouteCandidate := do
  let props := c.value.props
  let path ← (Entries.get props "data-route-path").resolveOne frame.context
  return { path := path.asText?, index := Entries.get props "data-route-index" = .bool true,
           fallback := Entries.get props "data-route-fallback" = .bool true }

/-- The element that shows the text of a route node without a child for the path. -/
def emptyRoute (text : Value) : View :=
  .node { element := "div", props := [("className", .str "MdrRouteEmpty")], text } []

section

variable (s : Stage) (draw : Frame -> CanonicalNode -> Noted ViewNote View)

/-- The views below a route node, given how nodes are rendered. -/
def routeViews (frame : Frame) (n : CanonicalFields) (children : List CanonicalNode) :
    Noted ViewNote (List View) := do
  let path ← ofExcept (s.routePathOf frame n)
  let candidates ← ofExcept (children.mapM (candidateOf frame))
  let selection := RouteSelection.select candidates path
  match selection.position.bind fun i => children[i]? with
  | some child => return [← draw ⟨frame.context, some selection.remainder⟩ child]
  | none =>
    let text ← ofExcept ((Entries.get n.props "emptyText").resolveOne frame.context)
    return if text.isTruthy then [emptyRoute text] else []

/-- The views below a list node, given how nodes are rendered: a fragment for every entry, or the
node for the empty list. -/
def listViews (frame : Frame) (l : ListDecl) (children : List CanonicalNode) :
    Noted ViewNote (List View) := do
  let plan ← ofExcept (l.plan frame.context.data frame.context)
  if plan.isEmpty then
    match plan.emptyNodeId.bind s.document.node? with
    | some n => return [← draw frame n]
    | none => return []
  else
    let template := children.filter fun c => plan.emptyNodeId != some c.value.id
    plan.entries.mapM fun e => do
      let copies ← template.mapM (draw ⟨e.context, frame.routePath⟩)
      return .node { element := View.fragmentElement, key := e.key } copies

/-- The views below a node that shows its children by itself. -/
def childViews (frame : Frame) (n : CanonicalFields) (children : List CanonicalNode) :
    Noted ViewNote (List View) :=
  if n.type = routeType then s.routeViews draw frame n children
  else
    match n.list with
    | some l => s.listViews draw frame l children
    | none => children.mapM (draw frame)

end

/-- The view of a node, down to a nesting budget. -/
def viewOf (s : Stage) : Nat -> Frame -> CanonicalNode -> Noted ViewNote View
  | 0, _, _ => ofExcept (.error .tooDeep)
  | budget + 1, outer, t => do
    let n := t.value
    let scope ← ofExcept
      (dataScope n.data outer.context s.settings.preview s.settings.maxDepth)
    let frame := { outer with context := outer.context.withData scope }
    let r ← s.resolutionOf n
    let fields ← s.elementOf frame n r
    if voidElements.contains (Text.lower r.element) then return .node fields []
    else
      let text ← ofExcept (n.text.resolveOne frame.context)
      let fields := { fields with text := shownText text }
      match Entries.get? s.outlets n.id with
      | some views => return .node { fields with mounts := some n.id } views
      | none => return .node fields (← s.childViews (s.viewOf budget) frame n t.children)

/-- The nesting that rendering goes along with. -/
def nestingBudget : Nat := 1000

/-- The view of the document with its notes. -/
def view (s : Stage) : Noted ViewNote View :=
  s.viewOf nestingBudget { context := { params := s.params, state := s.state } } s.document.root

end Stage

/-- A rendered view with what was noted. -/
structure Rendering where
  view : View
  diagnostics : List Diagnostic := []
  pendingIcons : List String := []
  stylesheets : List Value := []
  deriving Repr, Inhabited

namespace Rendering

private def sameSpot (a b : Diagnostic) : Bool :=
  a.code == b.code && a.path == b.path

/-- Reports on the making of the document: of two with one code at one path the later one stands,
in the place of the earlier. -/
def settle (reports : List Diagnostic) : List Diagnostic :=
  reports.foldl (fun acc d =>
    if acc.any (sameSpot d) then acc.map fun e => if sameSpot d e then d else e else acc ++ [d]) []

/-- Adds reports that do not repeat a code at its path. -/
def addReports (known reports : List Diagnostic) : List Diagnostic :=
  reports.foldl (fun acc d => if acc.any (sameSpot d) then acc else acc ++ [d]) known

/-- A rendering from a view and its notes, after the reports on the making of the document. -/
def ofNotes (build : List Diagnostic) (view : View) (notes : List ViewNote) : Rendering :=
  let reports := notes.filterMap fun n => match n with
    | .report d => some d
    | _ => none
  let pending := notes.filterMap fun n => match n with
    | .pendingIcon id => some id
    | _ => none
  let sheets := notes.filterMap fun n => match n with
    | .stylesheet v => some v
    | _ => none
  { view, diagnostics := addReports (settle build) reports, pendingIcons := pending.eraseDups,
    stylesheets := sheets }

/-- Renders a stage. -/
def ofStage (build : List Diagnostic) (s : Stage) : Except Fault Rendering :=
  s.view.map fun r => ofNotes build r.1 r.2

/-- A rendering as an object. -/
def toValue (r : Rendering) : Value :=
  .object [("tree", r.view.toValue), ("diagnostics", .list (r.diagnostics.map Diagnostic.toValue)),
    ("pending_icon_providers", .list (r.pendingIcons.map .str)),
    ("mounted_css", .list r.stylesheets)]

end Rendering

end ViewDoc
