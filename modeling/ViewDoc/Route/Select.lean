import ViewDoc.Route.Path
import ViewDoc.Value.Basic
/-!
Selecting the child of a route node for a path. Children with a path compete by score; an index
child stands for the empty path, and a fallback child for everything else.
-/

set_option autoImplicit false

namespace ViewDoc

/-- A scored match of a route path: the number of segments up to its end, and the path so far. -/
structure ScoredMatch where
  score : Int
  consumedUntil : Nat
  matchedPath : String
  deriving DecidableEq, Repr

/-- The route-related part of one child. -/
structure RouteCandidate where
  path : Option String := none
  index : Bool := false
  fallback : Bool := false
  deriving DecidableEq, Repr

/-- Why a child was selected. -/
inductive SelectionKind where
  | path
  | index
  | fallback
  | none
  deriving DecidableEq, Repr

/-- A selected position with the remainder of the path that nested routes go on with. -/
structure RouteSelection where
  position : Option Nat
  remainder : String := "/"
  matchedPath : String := "/"
  kind : SelectionKind := .none
  deriving DecidableEq, Repr

namespace SelectionKind

/-- The word for a kind. -/
def word : SelectionKind -> String
  | .path => "path"
  | .index => "index"
  | .fallback => "fallback"
  | .none => "none"

end SelectionKind

/-- A scored match as an object. -/
def ScoredMatch.toValue (m : ScoredMatch) : Value :=
  .object [("score", .int m.score), ("consumed_until", .int m.consumedUntil),
    ("matched_path", .str m.matchedPath)]

/-- A selection as an object. -/
def RouteSelection.toValue (s : RouteSelection) : Value :=
  .object [("position", .ofOption (s.position.map fun i => .int i)),
    ("remainder", .str s.remainder), ("matched_path", .str s.matchedPath),
    ("kind", .str s.kind.word)]

namespace RouteScore

/-- What parts gather as they match: fixed and named segments, whether a wildcard took the rest, and
the number of segments taken. -/
structure Tally where
  fixed : Nat := 0
  named : Nat := 0
  wildcard : Bool := false
  taken : Nat := 0
  deriving DecidableEq, Repr

/-- Matches parts at the front of segments. -/
def tally : List RoutePart -> List String -> Option Tally
  | [], _ => some {}
  | .wildcard :: _, segments => some { wildcard := true, taken := segments.length }
  | .dynamic _ :: parts, _ :: segments =>
    (tally parts segments).map fun t => { t with named := t.named + 1, taken := t.taken + 1 }
  | .literal segment :: parts, s :: segments =>
    if segment = s then
      (tally parts segments).map fun t => { t with fixed := t.fixed + 1, taken := t.taken + 1 }
    else none
  | _ :: _, [] => none

/-- The score of a match that starts at a segment and may reach the end of the path. -/
def score (t : Tally) (start : Nat) (exact absolute : Bool) : Int :=
  (if exact then 10000 else 0) + 220 * t.fixed + 120 * t.named + 10 * t.taken +
    (if t.wildcard then -120 else 0) + (if absolute then 0 else 30 * start)

/-- The match of parts that starts at a segment of the path. -/
def matchAt (parts : List RoutePart) (current : List String) (absolute : Bool) (start : Nat) :
    Option ScoredMatch :=
  (tally parts (current.drop start)).map fun t =>
    let stop := start + t.taken
    ⟨score t start (stop == current.length) absolute, stop, RoutePath.join (current.take stop)⟩

/-- The first of the matches with the highest score. -/
def best : Option ScoredMatch -> List ScoredMatch -> Option ScoredMatch
  | acc, [] => acc
  | none, m :: rest => best (some m) rest
  | some b, m :: rest => best (some (if b.score < m.score then m else b)) rest

/-- The segments of a relative route path; two dots take back the segment before them. -/
def relativeSegments (route : String) : List String :=
  (Text.split '/' route).foldl (fun acc part =>
    let segment := Text.trim part
    if segment = "" || segment = "." then acc
    else if segment = ".." then acc.dropLast
    else acc ++ [segment]) []

/-- Matches a route path against the current path: from the start when it is absolute, else from any
segment, where later starts score higher. -/
def matchPath (route current : String) : Option ScoredMatch :=
  let trimmed := Text.trim route
  if trimmed = "" then none
  else
    let segments := RoutePath.split current
    if trimmed.toList.head? == some '/' then
      matchAt ((RoutePath.split trimmed).map RoutePart.ofText) segments true 0
    else
      let parts := (relativeSegments trimmed).map RoutePart.ofText
      if parts.isEmpty then none
      else
        best none ((List.range (segments.length + 1)).filterMap (matchAt parts segments false))

end RouteScore

namespace RouteSelection

/-- The match of a candidate that competes by its path. -/
def candidateMatch (current : String) (c : RouteCandidate) : Option ScoredMatch :=
  if c.fallback || c.index then none
  else (c.path.filter (· ≠ "")).bind fun path => RouteScore.matchPath path current

/-- The first candidate with the highest score, numbered from `i`; `acc` is the best one before. -/
def bestCandidate (current : String) :
    Nat -> Option (Nat × ScoredMatch) -> List RouteCandidate -> Option (Nat × ScoredMatch)
  | _, acc, [] => acc
  | i, acc, c :: rest =>
    let acc := match candidateMatch current c, acc with
      | none, acc => acc
      | some m, none => some (i, m)
      | some m, some (j, b) => if b.score < m.score then some (i, m) else some (j, b)
    bestCandidate current (i + 1) acc rest

/-- Selects the child that shows for a path. -/
def select (candidates : List RouteCandidate) (current : String) : RouteSelection :=
  let segments := RoutePath.split current
  match bestCandidate current 0 none candidates with
  | some (i, m) =>
    ⟨some i, RoutePath.join (segments.drop m.consumedUntil), m.matchedPath, .path⟩
  | none =>
    let index := if segments.isEmpty then candidates.findIdx? fun c => c.index && !c.fallback
      else none
    match index, candidates.findIdx? fun c => c.fallback with
    | some i, _ => ⟨some i, "/", "/", .index⟩
    | none, some i => ⟨some i, RoutePath.join segments, "/", .fallback⟩
    | none, none => ⟨none, RoutePath.join segments, "/", .none⟩

end RouteSelection

end ViewDoc
