import ViewDoc.Proofs.Canonical.Place
import ViewDoc.Proofs.Route.Chosen
import ViewDoc.Proofs.Route.FirstMatch
/-!
Two ways to choose among routes that match a whole path. A selection takes the first route whose
parts weigh most together, and a manifest the one that is tried first, by the kinds of its parts
from left to right; the parts are the segments that stand between slashes. The main statement is
that both choose the same route just when one that weighs most is tried before all others.
-/

set_option autoImplicit false

namespace ViewDoc

namespace RouteScore

/-- A route path at one position outweighs one at another, or weighs the same and stands before it. -/
def WeighsBefore (route : String) (i : Nat) (other : String) (j : Nat) : Prop :=
  weight (partsOf other) < weight (partsOf route) ∨
    weight (partsOf other) = weight (partsOf route) ∧ i < j

end RouteScore

namespace RouteSelection

/-- The candidates with the given paths. -/
def ofPaths (paths : List String) : List RouteCandidate :=
  paths.map fun path => { path := some path }

end RouteSelection

namespace RouteNode

/-- The route with a path, numbered by its position. -/
def leaf (i : Nat) (path : String) : RouteFields :=
  { id := Text.ofNat i, segment := some path }

/-- A root with one route below it for every path, in the same order. -/
def ofPaths (paths : List String) : RouteNode :=
  .node { id := RouteFields.rootId } (paths.mapIdx fun i path => .node (leaf i path) [])

end RouteNode

/-- A route path that starts with a slash matches all of a path, whether a child is selected by it or
a manifest holds it. -/
structure MatchesWhole (route current : String) : Prop where
  absolute : (Text.trim route).toList.head? = some '/'
  selected : (RouteScore.matchPath route current).map (fun m => m.consumedUntil) =
    some (RoutePath.split current).length
  listed : RoutePart.Covers ((Text.pieces '/' (Text.trim route)).map RoutePart.ofText)
    (RoutePath.split current)

/-- For a route path without query and fragment, matching all of a path is the same for both. -/
theorem matchesWhole_of_plain {route current : String}
    (absolute : (Text.trim route).toList.head? = some '/')
    (no_query : '?' ∉ (Text.trim route).toList) (no_fragment : '#' ∉ (Text.trim route).toList)
    (selected : (RouteScore.matchPath route current).map (fun m => m.consumedUntil) =
      some (RoutePath.split current).length) :
    MatchesWhole route current := by
  have again : Text.trim (Text.trim route) = Text.trim route := by
    refine Text.trim_of_trimmed (Text.trimmed_trim ?_)
    rw [Bool.eq_false_iff]
    intro blank
    rw [(Text.trim_eq_empty_iff route).mpr blank] at absolute
    cases absolute
  refine ⟨absolute, selected, ?_⟩
  obtain ⟨m, found, whole⟩ := Option.map_eq_some_iff.mp selected
  have covers := (RouteScore.score_of_whole absolute found whole).2
  have cut : RoutePath.split (Text.trim route) = Text.pieces '/' (Text.trim (Text.trim route)) :=
    RoutePath.split_of_plain (again.symm ▸ no_query) (again.symm ▸ no_fragment)
  rw [RouteScore.partsOf, cut, again] at covers
  exact covers

theorem RouteSelection.select_of_matchesWhole {paths : List String} {current : String}
    (some_path : paths ≠ []) (whole : ∀ path ∈ paths, MatchesWhole path current) :
    ∃ i path, paths[i]? = some path ∧ (select (ofPaths paths) current).position = some i ∧
      ∀ j other, paths[j]? = some other -> j ≠ i -> RouteScore.WeighsBefore path i other j := by
  have matched (path : String) (mem : path ∈ paths) :
      ∃ m, candidateMatch current { path := some path } = some m ∧
        m.score = 10000 + 10 * (RoutePath.split current).length +
          RouteScore.weight (RouteScore.partsOf path) := by
    obtain ⟨absolute, selected, -⟩ := whole path mem
    obtain ⟨m, found, all⟩ := Option.map_eq_some_iff.mp selected
    have written : path ≠ "" := by
      rintro rfl
      cases absolute
    refine ⟨m, ?_, (RouteScore.score_of_whole absolute found all).1⟩
    simpa [candidateMatch, Option.filter, written] using found
  have best : BestOf current (ofPaths paths) (bestCandidate current 0 none (ofPaths paths)) :=
    bestCandidate_eq_iff.mp rfl
  rw [select]
  cases best_eq : bestCandidate current 0 none (ofPaths paths) with
  | none =>
    rw [best_eq] at best
    cases best with
    | nothing fails =>
      obtain ⟨path, mem⟩ := List.exists_mem_of_ne_nil paths some_path
      obtain ⟨m, found, -⟩ := matched path mem
      rw [fails _ (List.mem_map_of_mem mem)] at found
      cases found
  | some found =>
    rw [best_eq] at best
    cases best with
    | @first i c m at_i found most =>
      rw [ofPaths, List.getElem?_map, Option.map_eq_some_iff] at at_i
      obtain ⟨path, at_i, rfl⟩ := at_i
      obtain ⟨m', found', score⟩ := matched path (List.mem_of_getElem? at_i)
      obtain rfl := Option.some.inj (found.symm.trans found')
      refine ⟨i, path, at_i, rfl, fun j other at_j different => ?_⟩
      obtain ⟨n, there, score'⟩ := matched other (List.mem_of_getElem? at_j)
      have compared := most j _ n (by rw [ofPaths, List.getElem?_map, at_j]; rfl) there different
      dsimp only [RouteScore.WeighsBefore]
      omega

namespace RouteNode

theorem acceptsAt_leaf_iff (i : Nat) (path : String) (segments : List String) (place : List Nat) :
    AcceptsAt (.node (leaf i path) []) segments place ↔
      place = [] ∧
        RoutePart.Covers ((Text.pieces '/' (Text.trim path)).map RoutePart.ofText) segments := by
  cases place with
  | nil =>
    rw [acceptsAt_nil_iff]
    simp [leaf, RouteFields.ownParts, RouteFields.parts, RouteFields.pattern]
  | cons j place => simp [acceptsAt_cons_iff]

theorem children_ofPaths (paths : List String) (i : Nat) :
    (ofPaths paths).children[i]? = paths[i]?.map fun path => .node (leaf i path) [] := by
  simp [ofPaths, Tree.children]

theorem matchPath_of_matchesWhole {paths : List String} {current : String}
    (some_path : paths ≠ []) (whole : ∀ path ∈ paths, MatchesWhole path current) :
    ∃ i path, paths[i]? = some path ∧
      ((ofPaths paths).matchPath current false).map (fun m => m.chain) =
        some [(ofPaths paths).value, leaf i path] ∧
      ∀ j other, paths[j]? = some other -> j ≠ i -> (leaf i path).TriedBefore i (leaf j other) j := by
  have accepts {j : Nat} {path : String} (at_j : paths[j]? = some path) :
      (ofPaths paths).AcceptsBelow (RoutePath.split current) [j] := by
    refine (acceptsBelow_cons_iff _ _ j []).mpr ⟨.node (leaf j path) [], ?_, ?_⟩
    · rw [children_ofPaths, at_j, Option.map_some]
    · exact (acceptsAt_leaf_iff ..).mpr ⟨rfl, (whole path (List.mem_of_getElem? at_j)).listed⟩
  rcases matchChildren_root_cases (ofPaths paths) (RoutePath.split current) with
    ⟨-, none_accepts⟩ | ⟨place, first, found⟩
  · obtain ⟨path, mem⟩ := List.exists_mem_of_ne_nil paths some_path
    obtain ⟨j, at_j⟩ := List.mem_iff_getElem?.mp mem
    exact absurd (accepts at_j) (none_accepts [j])
  · cases place with
    | nil => exact absurd rfl first.accepts.below
    | cons i place =>
      obtain ⟨c, at_i, there⟩ := (acceptsBelow_cons_iff _ _ i place).mp first.accepts
      rw [children_ofPaths, Option.map_eq_some_iff] at at_i
      obtain ⟨path, at_i, rfl⟩ := at_i
      obtain ⟨rfl, -⟩ := (acceptsAt_leaf_iff ..).mp there
      have child (j : Nat) (other : String) (at_j : paths[j]? = some other) :
          (ofPaths paths).children[j]? = some (.node (leaf j other) []) := by
        rw [children_ofPaths, at_j, Option.map_some]
      refine ⟨i, path, at_i, ?_, fun j other at_j different => ?_⟩
      · rw [matchPath, found]
        simp [trailOf, Tree.along, child i path at_i, Tree.value]
      · have before := first.first [j] (accepts at_j) (by simpa using different)
        cases before with
        | within => exact absurd rfl different
        | sibling at_i' at_j' _ tried =>
          obtain rfl := Option.some.inj ((child i path at_i).symm.trans at_i')
          obtain rfl := Option.some.inj ((child j other at_j).symm.trans at_j')
          exact tried

theorem eq_of_leaf_eq {i j : Nat} {path other : String} (same : leaf i path = leaf j other) :
    i = j :=
  Text.ofNat_injective (congrArg RouteFields.id same)

end RouteNode

/-- Where every one of some routes matches all of a path, the one that is selected outweighs the
others, and a manifest with these routes matches it just when it is tried before the others. -/
theorem RouteSelection.select_matchPath_iff {paths : List String} {current : String}
    (some_path : paths ≠ []) (whole : ∀ path ∈ paths, MatchesWhole path current) :
    ∃ i path, paths[i]? = some path ∧ (select (ofPaths paths) current).position = some i ∧
      (∀ j other, paths[j]? = some other -> j ≠ i -> RouteScore.WeighsBefore path i other j) ∧
      (((RouteNode.ofPaths paths).matchPath current false).map (fun m => m.chain) =
          some [(RouteNode.ofPaths paths).value, RouteNode.leaf i path] ↔
        ∀ j other, paths[j]? = some other -> j ≠ i ->
          (RouteNode.leaf i path).TriedBefore i (RouteNode.leaf j other) j) := by
  obtain ⟨i, path, at_i, selected, heaviest⟩ := select_of_matchesWhole some_path whole
  obtain ⟨j, other, at_j, matched, first⟩ := RouteNode.matchPath_of_matchesWhole some_path whole
  refine ⟨i, path, at_i, selected, heaviest, fun same => ?_, fun tried => ?_⟩
  · rw [matched] at same
    obtain rfl : j = i := RouteNode.eq_of_leaf_eq (by simpa using same)
    obtain rfl := Option.some.inj (at_i.symm.trans at_j)
    exact first
  · have same : j = i := by
      by_contra different
      exact (tried j other at_j different).asymm (first i path at_i (Ne.symm different))
    subst same
    obtain rfl := Option.some.inj (at_i.symm.trans at_j)
    exact matched

theorem forall_matchesWhole_of_plain {paths : List String} {current : String}
    (plain : ∀ path ∈ paths, (Text.trim path).toList.head? = some '/' ∧
      '?' ∉ (Text.trim path).toList ∧ '#' ∉ (Text.trim path).toList ∧
      (RouteScore.matchPath path current).map (fun m => m.consumedUntil) =
        some (RoutePath.split current).length) :
    ∀ path ∈ paths, MatchesWhole path current := by
  intro path mem
  obtain ⟨absolute, no_query, no_fragment, selected⟩ := plain path mem
  exact matchesWhole_of_plain absolute no_query no_fragment selected

/-- Paths of users, a fixed one among them. -/
def userPaths : List String := ["/users/:id", "/users/me", "/*"]

theorem userPaths_select_matchPath :
    (RouteSelection.select (RouteSelection.ofPaths userPaths) "/users/me").position = some 1 ∧
      ((RouteNode.ofPaths userPaths).matchPath "/users/me" false).map (fun m => m.chain) =
        some [(RouteNode.ofPaths userPaths).value, RouteNode.leaf 1 "/users/me"] := by
  have whole : ∀ path ∈ userPaths, MatchesWhole path "/users/me" :=
    forall_matchesWhole_of_plain (by decide +kernel)
  have position : (RouteSelection.select (RouteSelection.ofPaths userPaths)
      "/users/me").position = some 1 := by decide +kernel
  obtain ⟨i, path, at_i, selected, -, agrees⟩ :=
    RouteSelection.select_matchPath_iff (by decide) whole
  obtain rfl : i = 1 := Option.some.inj (selected.symm.trans position)
  obtain rfl : "/users/me" = path := Option.some.inj at_i
  refine ⟨position, agrees.mpr fun j other at_j different => .inl ?_⟩
  have after : rankLe (RouteNode.leaf j other).rank (RouteNode.leaf 1 "/users/me").rank = false := by
    rcases j with _ | _ | _ | j
    · obtain rfl := Option.some.inj at_j
      decide +kernel
    · exact absurd rfl different
    · obtain rfl := Option.some.inj at_j
      decide +kernel
    · cases at_j
  by_contra fails
  rw [(RouteFields.rankLe_iff _ _).mpr fails] at after
  cases after

/-- Two paths, the first of which starts with a fixed segment while the second has more of them. -/
def crossedPaths : List String := ["/a/:x/:y", "/:x/b/c"]

/-- A selection and a manifest need not agree: here the second route weighs more, and the first one is
tried before it. -/
theorem crossedPaths_apart :
    (∀ path ∈ crossedPaths, MatchesWhole path "/a/b/c") ∧
      (RouteSelection.select (RouteSelection.ofPaths crossedPaths) "/a/b/c").position = some 1 ∧
      ((RouteNode.ofPaths crossedPaths).matchPath "/a/b/c" false).map (fun m => m.chain) =
        some [(RouteNode.ofPaths crossedPaths).value, RouteNode.leaf 0 "/a/:x/:y"] := by
  have ranked : (RouteNode.ofPaths crossedPaths).ranked = RouteNode.ofPaths crossedPaths := by
    simp only [RouteNode.ofPaths, crossedPaths, List.mapIdx_cons, List.mapIdx_nil,
      RouteNode.ranked, RouteNode.rankedAll,
      RouteNode.rankSiblings_of_pairwise List.Pairwise.nil]
    rw [RouteNode.rankSiblings_of_pairwise (by decide +kernel)]
  refine ⟨forall_matchesWhole_of_plain (by decide +kernel), by decide +kernel, ?_⟩
  rw [RouteNode.matchPath, ranked]
  decide +kernel

end ViewDoc
