import ViewDoc.Route.Manifest
/-!
Matching a path against a manifest: siblings are tried by rank, and a branch that fails further down
gives way to the next one.
-/

set_option autoImplicit false

namespace ViewDoc

/-- The named segments of a match. -/
abbrev RouteParams := List (String × String)

/-- What a pattern takes from the front of a path. -/
structure Taken where
  count : Nat
  /-- Whether a wildcard took all that was left. -/
  all : Bool
  params : RouteParams
  deriving DecidableEq, Repr

namespace RoutePart

/-- Matches parts at the front of segments. -/
def take : List RoutePart -> List String -> RouteParams -> Option Taken
  | [], _, params => some ⟨0, false, params⟩
  | .wildcard :: _, segments, params =>
    some ⟨segments.length, true, Entries.set params "*" ("/".intercalate segments)⟩
  | .dynamic name :: parts, s :: segments, params =>
    (take parts segments (Entries.set params name s)).map fun t => { t with count := t.count + 1 }
  | .literal segment :: parts, s :: segments, params =>
    if segment = s then
      (take parts segments params).map fun t => { t with count := t.count + 1 }
    else none
  | _ :: _, [], _ => none

end RoutePart

/-- The routes from a matched child down, the number of segments that they take, and the params. -/
structure RouteTrail where
  routes : List RouteFields
  count : Nat
  params : RouteParams
  deriving DecidableEq, Repr

/-- A match: the routes from the root down, and how the path divides. -/
structure RouteMatch where
  chain : List RouteFields
  params : RouteParams := []
  matched : List String := []
  remainder : List String := []
  deriving DecidableEq, Repr

namespace RouteFields

/-- The rank of a route among its siblings: index routes, then routes with parts, then the others. -/
def rank (r : RouteFields) : Nat × List Nat :=
  if r.index then (0, [])
  else if r.parts.isEmpty then (2, [])
  else (1, r.parts.map RoutePart.rank)

end RouteFields

/-- Lexicographic comparison of part ranks; a list goes before its extensions. -/
def partRanksLe : List Nat -> List Nat -> Bool
  | [], _ => true
  | _ :: _, [] => false
  | a :: as, b :: bs => decide (a < b) || (a == b && partRanksLe as bs)

/-- Comparison of ranks. -/
def rankLe (a b : Nat × List Nat) : Bool :=
  decide (a.1 < b.1) || (a.1 == b.1 && partRanksLe a.2 b.2)

namespace RouteNode

/-- Siblings by rank, in declared order where ranks are equal. -/
def rankSiblings (rs : List RouteNode) : List RouteNode :=
  rs.mergeSort fun a b => rankLe a.value.rank b.value.rank

mutual

/-- The tree with the children of every route by rank. -/
def ranked : RouteNode -> RouteNode
  | .node r cs => .node r (rankSiblings (rankedAll cs))

/-- The trees with the children of every route by rank. -/
def rankedAll : List RouteNode -> List RouteNode
  | [] => []
  | r :: rest => ranked r :: rankedAll rest

end

mutual

/-- Matches a ranked route at the front of segments. A loose match may leave a remainder. -/
def matchNode (loose : Bool) (segments : List String) (params : RouteParams) :
    RouteNode -> Option RouteTrail
  | .node r cs =>
    if r.index then if segments.isEmpty then some ⟨[r], 0, params⟩ else none
    else
      match RoutePart.take r.parts segments params with
      | none => none
      | some taken =>
        let remaining := segments.drop taken.count
        let here : RouteTrail := ⟨[r], taken.count, taken.params⟩
        if taken.all || cs.isEmpty then
          if remaining.isEmpty || loose then some here else none
        else
          match matchChildren loose none remaining taken.params cs with
          | some below => some ⟨r :: below.routes, taken.count + below.count, below.params⟩
          | none => if remaining.isEmpty || loose then some here else none

/-- Matches the first of ranked siblings that takes everything; when a loose match is wanted, the
first sibling that takes something stands in. -/
def matchChildren (loose : Bool) (partialTrail : Option RouteTrail) (segments : List String)
    (params : RouteParams) : List RouteNode -> Option RouteTrail
  | [] => partialTrail
  | r :: rest =>
    match matchNode false segments params r with
    | some trail => some trail
    | none =>
      if loose && partialTrail.isNone then
        let candidate := (matchNode true segments params r).filter fun t => 0 < t.count
        matchChildren loose candidate segments params rest
      else matchChildren loose partialTrail segments params rest

end

/-- Matches a path against the routes below a root. With `loose`, a prefix of the path is enough. -/
def matchPath (root : RouteNode) (path : String) (loose : Bool) : Option RouteMatch :=
  let segments := RoutePath.split path
  match matchChildren loose none segments [] root.ranked.children with
  | some t =>
    some ⟨root.value :: t.routes, t.params, segments.take t.count, segments.drop t.count⟩
  | none =>
    if !segments.isEmpty && !loose then none
    else some { chain := [root.value], remainder := segments }

end RouteNode

namespace RouteMatch

/-- The page of the innermost route that has one. -/
def pageDocId (m : RouteMatch) : Option String :=
  m.chain.reverse.findSome? fun r => r.pageDocId.filter (· ≠ "")

/-- The layouts of the matched routes with their outlets, outermost first. -/
def layouts (m : RouteMatch) : List (String × Option String) :=
  m.chain.filterMap fun r =>
    (r.layoutDocId.filter (· ≠ "")).map fun layout => (layout, r.outletNodeId)

/-- The part of the path that was matched. -/
def matchedPath (m : RouteMatch) : String :=
  RoutePath.join m.matched

/-- The part of the path that is left. -/
def remainderPath (m : RouteMatch) : String :=
  RoutePath.join m.remainder

/-- The innermost matched route. -/
def route? (m : RouteMatch) : Option RouteFields :=
  m.chain.getLast?

/-- A match as an object; routes are given by their ids. -/
def toValue (m : RouteMatch) : Value :=
  .object [("chain", .list (m.chain.map fun r => .str r.id)),
    ("route", .ofText? (m.route?.map fun r => r.id)),
    ("params", .object (m.params.map fun p => (p.1, .str p.2))),
    ("matched_segments", .list (m.matched.map .str)), ("matched_path", .str m.matchedPath),
    ("remainder", .list (m.remainder.map .str)), ("remainder_path", .str m.remainderPath),
    ("page_doc_id", .ofText? m.pageDocId),
    ("layouts", .list (m.layouts.map fun l => .list [.str l.1, .ofText? l.2]))]

end RouteMatch

end ViewDoc
