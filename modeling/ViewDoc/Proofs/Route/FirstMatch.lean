import ViewDoc.Proofs.Route.Accepting
import ViewDoc.Proofs.Route.Siblings
/-!
Matching a path against a route tree agrees with an exhaustive search: among all chains that accept
the path, the first one in depth-first order is the match. Siblings are searched in the order in
which they are tried, and what is below a route is searched before the route itself.
-/

set_option autoImplicit false

namespace ViewDoc

namespace RouteNode

open RouteFields (ownParts)

/-- A place below a route is searched before another one. -/
inductive SearchedBefore : RouteNode -> List Nat -> List Nat -> Prop where
  | descendant {t : RouteNode} {i : Nat} {place : List Nat} : SearchedBefore t (i :: place) []
  | within {t c : RouteNode} {i : Nat} {place other : List Nat} : t.children[i]? = some c ->
      SearchedBefore c place other -> SearchedBefore t (i :: place) (i :: other)
  | sibling {t c d : RouteNode} {i j : Nat} {place other : List Nat} :
      t.children[i]? = some c -> t.children[j]? = some d -> i ≠ j ->
      c.value.TriedBefore i d.value j -> SearchedBefore t (i :: place) (j :: other)

/-- The first place from a route down whose chain accepts segments. -/
structure FirstAt (t : RouteNode) (segments : List String) (place : List Nat) : Prop where
  accepts : t.AcceptsAt segments place
  first : ∀ other, t.AcceptsAt segments other -> other ≠ place -> t.SearchedBefore place other

/-- The trail of a chain that accepts all segments. -/
def trailOf (chain : List RouteFields) (segments : List String) (params : RouteParams) :
    RouteTrail :=
  ⟨chain, segments.length,
    Entries.merge params (RoutePart.captures (chain.flatMap ownParts) segments)⟩

/-- What a search from a route down has to find. -/
inductive Finds (t : RouteNode) (segments : List String) (params : RouteParams) :
    Option RouteTrail -> Prop where
  | nothing : (∀ place, ¬ t.AcceptsAt segments place) -> Finds t segments params none
  | first {place : List Nat} : t.FirstAt segments place ->
      Finds t segments params (some (trailOf (t.along place) segments params))

/-- What a search through siblings has to find. -/
inductive FindsAmong (cs : List RouteNode) (segments : List String) (params : RouteParams) :
    Option RouteTrail -> Prop where
  | nothing : (∀ c ∈ cs, ∀ place, ¬ AcceptsAt c segments place) ->
      FindsAmong cs segments params none
  | first {i : Nat} {c : RouteNode} {place : List Nat} : cs[i]? = some c ->
      c.FirstAt segments place ->
      (∀ (j : Nat) (d : RouteNode) (other : List Nat), cs[j]? = some d ->
        d.AcceptsAt segments other -> j ≠ i -> c.value.TriedBefore i d.value j) ->
      FindsAmong cs segments params (some (trailOf (c.along place) segments params))

theorem value_ranked (t : RouteNode) : (ranked t).value = t.value := by
  cases t
  simp [ranked, Tree.value]

theorem rankedAll_eq_map (cs : List RouteNode) : rankedAll cs = cs.map ranked := by
  induction cs with
  | nil => simp [rankedAll]
  | cons c cs ih => simp [rankedAll, ih]

theorem rankSiblings_rankedAll (cs : List RouteNode) :
    rankSiblings (rankedAll cs) = (rankSiblings cs).map ranked := by
  rw [rankedAll_eq_map, rankSiblings, rankSiblings]
  exact (List.map_mergeSort fun a _ b _ => by simp [value_ranked]).symm

theorem matchChildren_strict (segments : List String) (params : RouteParams)
    (rs : List RouteNode) :
    matchChildren false none segments params rs =
      rs.findSome? (matchNode false segments params) := by
  induction rs with
  | nil => simp [matchChildren]
  | cons r rs ih =>
    rw [matchChildren, List.findSome?_cons]
    cases matchNode false segments params r with
    | none => simpa using ih
    | some trail => rfl

/-- A search through siblings finds what it has to when the search from each of them does. -/
theorem findsAmong_of_finds {cs : List RouteNode} {segments : List String} {params : RouteParams}
    (finds : ∀ c ∈ cs, c.Finds segments params (matchNode false segments params (ranked c))) :
    FindsAmong cs segments params
      (matchChildren false none segments params (rankSiblings (rankedAll cs))) := by
  rw [matchChildren_strict, rankSiblings_rankedAll, List.findSome?_map]
  cases found : (rankSiblings cs).findSome? (matchNode false segments params ∘ ranked) with
  | none =>
    refine .nothing ?_
    intro c mem
    have fails := (findSome?_rankSiblings_eq_none_iff _ cs).mp found c mem
    have here := finds c mem
    rw [Function.comp_apply] at fails
    rw [fails] at here
    cases here with
    | nothing none_accepts => exact none_accepts
  | some trail =>
    obtain ⟨i, c, at_i, hit, others⟩ := exists_of_findSome?_rankSiblings found
    have here := finds c (List.mem_of_getElem? at_i)
    rw [Function.comp_apply] at hit
    rw [hit] at here
    cases here with
    | first first =>
      refine .first at_i first ?_
      intro j d other at_j accepts different
      refine others j d at_j ?_ different
      intro fails
      have there := finds d (List.mem_of_getElem? at_j)
      rw [Function.comp_apply] at fails
      rw [fails] at there
      cases there with
      | nothing none_accepts => exact none_accepts other accepts

theorem not_acceptsAt_cons {r : RouteFields} (closed : ¬ r.Opens) (cs : List RouteNode)
    (segments : List String) (i : Nat) (place : List Nat) :
    ¬ AcceptsAt (.node r cs) segments (i :: place) := by
  intro accepts
  exact closed ((acceptsAt_cons_iff r cs segments i place).mp accepts).1

/-- Where a chain cannot go on below a route, the route itself is the first to accept. -/
theorem firstAt_nil {r : RouteFields} (closed : ¬ r.Opens) (cs : List RouteNode)
    {segments : List String} (covers : RoutePart.Covers r.ownParts segments) :
    FirstAt (.node r cs) segments [] := by
  refine ⟨(acceptsAt_nil_iff r cs segments).mpr covers, ?_⟩
  intro other accepts different
  cases other with
  | nil => exact absurd rfl different
  | cons i place => exact absurd accepts (not_acceptsAt_cons closed cs segments i place)

theorem finds_of_index {r : RouteFields} (index : r.index = true) (cs rs : List RouteNode)
    (segments : List String) (params : RouteParams) :
    Finds (.node r cs) segments params (matchNode false segments params (.node r rs)) := by
  have closed : ¬ r.Opens := fun opens => by simp [opens.1] at index
  have own : r.ownParts = [] := by simp [ownParts, index]
  rw [matchNode, if_pos index]
  cases segments with
  | nil =>
    have trail : trailOf (Tree.along (.node r cs) []) [] params = ⟨[r], 0, params⟩ := by
      simp [trailOf, Tree.along, Tree.value, own, RoutePart.captures, Entries.merge]
    have covers : RoutePart.Covers r.ownParts [] := by simp [own]
    exact trail ▸ .first (firstAt_nil closed cs covers)
  | cons s segments =>
    refine .nothing ?_
    intro place accepts
    cases place with
    | nil => simpa [own] using (acceptsAt_nil_iff r cs _).mp accepts
    | cons i place => exact not_acceptsAt_cons closed cs _ i place accepts

/-- A route whose parts take everything is a match by itself. -/
theorem matchNode_of_all {r : RouteFields} (plain : r.index = false) {segments : List String}
    {params below : RouteParams}
    (taken : RoutePart.take r.parts segments params = some ⟨segments.length, true, below⟩)
    (rs : List RouteNode) :
    matchNode false segments params (.node r rs) = some ⟨[r], segments.length, below⟩ := by
  rw [matchNode, if_neg (by simp [plain]), taken]
  simp

theorem matchNode_of_take_eq_none {r : RouteFields} (plain : r.index = false)
    {segments : List String} {params : RouteParams}
    (fails : RoutePart.take r.parts segments params = none) (rs : List RouteNode) :
    matchNode false segments params (.node r rs) = none := by
  rw [matchNode, if_neg (by simp [plain]), fails]

theorem finds_of_wildcard {r : RouteFields} (plain : r.index = false)
    (wild : RoutePart.wildcard ∈ r.parts) (cs rs : List RouteNode) (segments : List String)
    (params : RouteParams) :
    Finds (.node r cs) segments params (matchNode false segments params (.node r rs)) := by
  have closed : ¬ r.Opens := fun opens => opens.2 wild
  have own : r.ownParts = r.parts := by simp [ownParts, plain]
  rcases RoutePart.take_of_wildcard_mem wild segments params with
    ⟨covers, taken⟩ | ⟨fails, taken⟩
  · have trail : trailOf (Tree.along (.node r cs) []) segments params =
        ⟨[r], segments.length, Entries.merge params (RoutePart.captures r.parts segments)⟩ := by
      simp [trailOf, Tree.along, Tree.value, own]
    rw [matchNode_of_all plain taken, ← trail]
    exact .first (firstAt_nil closed cs (own ▸ covers))
  · rw [matchNode_of_take_eq_none plain taken]
    refine .nothing ?_
    intro place accepts
    cases place with
    | nil => exact fails (own ▸ (acceptsAt_nil_iff r cs _).mp accepts)
    | cons i place => exact not_acceptsAt_cons closed cs _ i place accepts

/-- A route without a wildcard leaves what it does not take to the routes below, and is a match by
itself when these fail and it leaves nothing. -/
theorem matchNode_of_opens {r : RouteFields} (opens : r.Opens) {segments : List String}
    {params below : RouteParams} {n : Nat}
    (taken : RoutePart.take r.parts segments params = some ⟨n, false, below⟩)
    (rs : List RouteNode) :
    matchNode false segments params (.node r rs) =
      match matchChildren false none (segments.drop n) below rs with
      | some trail => some ⟨r :: trail.routes, n + trail.count, trail.params⟩
      | none => if (segments.drop n).isEmpty then some ⟨[r], n, below⟩ else none := by
  rw [matchNode, if_neg (by simp [opens.1]), taken]
  cases rs with
  | nil => simp [matchChildren]
  | cons c rs =>
    cases below : matchChildren false none (segments.drop n) _ (c :: rs) <;> simp [below]

/-- Below a route that leaves segments, a chain accepts when its rest accepts what is left. -/
theorem acceptsAt_cons_of_covers {r : RouteFields} (opens : r.Opens) {segments left : List String}
    (covers : ∀ more, RoutePart.Covers (r.parts ++ more) segments ↔ RoutePart.Covers more left)
    (cs : List RouteNode) (i : Nat) (place : List Nat) :
    AcceptsAt (.node r cs) segments (i :: place) ↔
      ∃ c, cs[i]? = some c ∧ AcceptsAt c left place := by
  rw [acceptsAt_cons_iff]
  constructor
  · rintro ⟨-, c, at_i, present, later, rest⟩
    exact ⟨c, at_i, present, later, (covers _).mp rest⟩
  · rintro ⟨c, at_i, present, later, rest⟩
    exact ⟨opens, c, at_i, present, later, (covers _).mpr rest⟩

/-- The first place below the child that is tried first is searched before all that accept. -/
theorem searchedBefore_of_first {t c d : RouteNode} {segments : List String} {i j : Nat}
    {place other : List Nat} (at_i : t.children[i]? = some c) (first : c.FirstAt segments place)
    (tried : ∀ (j : Nat) (d : RouteNode) (other : List Nat), t.children[j]? = some d ->
      d.AcceptsAt segments other -> j ≠ i -> c.value.TriedBefore i d.value j)
    (at_j : t.children[j]? = some d) (accepts : d.AcceptsAt segments other)
    (different : j :: other ≠ i :: place) : t.SearchedBefore (i :: place) (j :: other) := by
  by_cases same : j = i
  · subst same
    obtain rfl : c = d := Option.some.inj (at_i.symm.trans at_j)
    exact .within at_i (first.first other accepts fun h => different (h ▸ rfl))
  · exact .sibling at_i at_j (Ne.symm same) (tried j d other at_j accepts same)

/-- The first child to accept what a route leaves goes before the route and its other children. -/
theorem firstAt_cons_of_covers {r : RouteFields} (opens : r.Opens) {segments left : List String}
    (covers : ∀ more, RoutePart.Covers (r.parts ++ more) segments ↔ RoutePart.Covers more left)
    {cs : List RouteNode} {i : Nat} {c : RouteNode} {place : List Nat} (at_i : cs[i]? = some c)
    (first : c.FirstAt left place)
    (tried : ∀ (j : Nat) (d : RouteNode) (other : List Nat), cs[j]? = some d ->
      d.AcceptsAt left other -> j ≠ i -> c.value.TriedBefore i d.value j) :
    FirstAt (.node r cs) segments (i :: place) := by
  refine ⟨(acceptsAt_cons_of_covers opens covers cs i place).mpr ⟨c, at_i, first.accepts⟩, ?_⟩
  intro other accepts different
  cases other with
  | nil => exact .descendant
  | cons j place' =>
    obtain ⟨d, at_j, rest⟩ := (acceptsAt_cons_of_covers opens covers cs j place').mp accepts
    exact searchedBefore_of_first at_i first tried at_j rest different

/-- Where nothing below a route accepts what it leaves, the route accepts just when it leaves
nothing. -/
theorem finds_of_nothing_below {r : RouteFields} (opens : r.Opens) {cs : List RouteNode}
    {segments : List String} (params : RouteParams) (short : r.parts.length ≤ segments.length)
    (covers : ∀ more, RoutePart.Covers (r.parts ++ more) segments ↔
      RoutePart.Covers more (segments.drop r.parts.length))
    (below : ∀ c ∈ cs, ∀ place, ¬ c.AcceptsAt (segments.drop r.parts.length) place) :
    Finds (.node r cs) segments params
      (if (segments.drop r.parts.length).isEmpty then
        some ⟨[r], r.parts.length, Entries.merge params (RoutePart.captures r.parts segments)⟩
      else none) := by
  have own : r.ownParts = r.parts := by simp [ownParts, opens.1]
  have here : AcceptsAt (.node r cs) segments [] ↔ segments.drop r.parts.length = [] := by
    rw [acceptsAt_nil_iff, own]
    simpa using covers []
  have only_here (i : Nat) (place : List Nat) : ¬ AcceptsAt (.node r cs) segments (i :: place) := by
    intro accepts
    obtain ⟨c, at_i, rest⟩ := (acceptsAt_cons_of_covers opens covers cs i place).mp accepts
    exact below c (List.mem_of_getElem? at_i) place rest
  by_cases done : segments.drop r.parts.length = []
  · have full : segments.length = r.parts.length :=
      Nat.le_antisymm (List.drop_eq_nil_iff.mp done) short
    have trail : trailOf (Tree.along (.node r cs) []) segments params =
        ⟨[r], r.parts.length, Entries.merge params (RoutePart.captures r.parts segments)⟩ := by
      simp [trailOf, Tree.along, Tree.value, own, full]
    simp only [done, List.isEmpty_nil, if_true]
    rw [← trail]
    refine .first ⟨here.mpr done, ?_⟩
    intro other accepts different
    cases other with
    | nil => exact absurd rfl different
    | cons i place => exact absurd accepts (only_here i place)
  · simp only [List.isEmpty_iff, done, if_false]
    refine .nothing ?_
    intro place accepts
    cases place with
    | nil => exact done (here.mp accepts)
    | cons i place => exact only_here i place accepts

/-- The trail of a chain that goes on below a route. -/
theorem trailOf_cons {r : RouteFields} (opens : r.Opens) {cs : List RouteNode} {i : Nat}
    {c : RouteNode} (at_i : cs[i]? = some c) (place : List Nat) {segments : List String}
    (params : RouteParams) (short : r.parts.length ≤ segments.length)
    (captured : ∀ more, RoutePart.captures (r.parts ++ more) segments =
      RoutePart.captures r.parts segments ++
        RoutePart.captures more (segments.drop r.parts.length)) :
    trailOf (Tree.along (.node r cs) (i :: place)) segments params =
      ⟨r :: c.along place, r.parts.length + (segments.drop r.parts.length).length,
        (trailOf (c.along place) (segments.drop r.parts.length)
          (Entries.merge params (RoutePart.captures r.parts segments))).params⟩ := by
  have own : r.ownParts = r.parts := by simp [ownParts, opens.1]
  have chain : Tree.along (.node r cs) (i :: place) = r :: c.along place := by
    simp [Tree.along, Tree.value, Tree.children, at_i]
  rw [chain]
  simp only [trailOf, List.flatMap_cons, own, captured, Entries.merge, List.foldl_append,
    List.length_drop, Nat.add_sub_cancel' short]

/-- A route whose parts take too much or something else accepts nothing. -/
theorem finds_of_fails {r : RouteFields} (opens : r.Opens) (cs : List RouteNode)
    {segments : List String} (params : RouteParams)
    (fails : ∀ more, ¬ RoutePart.Covers (r.parts ++ more) segments) :
    Finds (.node r cs) segments params none := by
  refine .nothing ?_
  intro place accepts
  cases place with
  | nil =>
    have covers := (acceptsAt_nil_iff r cs _).mp accepts
    exact fails [] (by simpa [ownParts, opens.1] using covers)
  | cons i place =>
    obtain ⟨-, c, -, -, -, covers⟩ := (acceptsAt_cons_iff r cs _ i place).mp accepts
    exact fails _ covers

theorem finds_of_opens {r : RouteFields} (opens : r.Opens) (cs : List RouteNode)
    (segments : List String) (params : RouteParams)
    (below : ∀ segments params, FindsAmong cs segments params
      (matchChildren false none segments params (rankSiblings (rankedAll cs)))) :
    Finds (.node r cs) segments params
      (matchNode false segments params (.node r (rankSiblings (rankedAll cs)))) := by
  rcases RoutePart.take_of_wildcard_not_mem opens.2 segments params with
    ⟨short, covers, captured, taken⟩ | ⟨fails, taken⟩
  · have search := below (segments.drop r.parts.length)
      (Entries.merge params (RoutePart.captures r.parts segments))
    rw [matchNode_of_opens opens taken]
    cases found : matchChildren false none (segments.drop r.parts.length)
        (Entries.merge params (RoutePart.captures r.parts segments))
        (rankSiblings (rankedAll cs)) with
    | none =>
      rw [found] at search
      cases search with
      | nothing none_accepts => exact finds_of_nothing_below opens params short covers none_accepts
    | some trail =>
      rw [found] at search
      cases search with
      | @first i c place at_i first tried =>
        have trail := trailOf_cons opens at_i place params short captured
        dsimp only [trailOf] at trail ⊢
        rw [← trail]
        exact .first (firstAt_cons_of_covers opens covers at_i first tried)
  · rw [matchNode_of_take_eq_none opens.1 taken]
    exact finds_of_fails opens cs params fails

/-- The search from a route down, through ranked siblings, finds the first chain that accepts. -/
theorem matchNode_finds (t : RouteNode) (segments : List String) (params : RouteParams) :
    t.Finds segments params (matchNode false segments params (ranked t)) := by
  induction t using Tree.induct generalizing segments params with
  | node r cs ih =>
    rw [ranked]
    by_cases index : r.index = true
    · exact finds_of_index index cs _ segments params
    · have plain : r.index = false := by simpa using index
      by_cases wild : RoutePart.wildcard ∈ r.parts
      · exact finds_of_wildcard plain wild cs _ segments params
      · exact finds_of_opens ⟨plain, wild⟩ cs segments params fun segments params =>
          findsAmong_of_finds fun c mem => ih c mem segments params

/-- No two places are each searched before the other. -/
theorem SearchedBefore.asymm {t : RouteNode} {place other : List Nat}
    (before : t.SearchedBefore place other) : ¬ t.SearchedBefore other place := by
  induction before with
  | descendant => rintro ⟨⟩
  | within at_i _ ih =>
    intro after
    cases after with
    | within at_i' below =>
      obtain rfl := Option.some.inj (at_i.symm.trans at_i')
      exact ih below
    | sibling _ _ different => exact different rfl
  | sibling at_i at_j different tried =>
    intro after
    cases after with
    | within => exact different rfl
    | sibling at_j' at_i' _ tried' =>
      obtain rfl := Option.some.inj (at_i.symm.trans at_i')
      obtain rfl := Option.some.inj (at_j.symm.trans at_j')
      exact RouteFields.TriedBefore.asymm tried tried'

/-- The chain below a root, from a child of it down to a place, accepts segments. -/
structure AcceptsBelow (root : RouteNode) (segments : List String) (place : List Nat) : Prop where
  below : place ≠ []
  present : (root.at? place).isSome
  accepts : RouteFields.Accepts (root.along place).tail segments

/-- The first place below a root whose chain accepts segments. -/
structure FirstBelow (root : RouteNode) (segments : List String) (place : List Nat) : Prop where
  accepts : root.AcceptsBelow segments place
  first : ∀ other, root.AcceptsBelow segments other -> other ≠ place ->
    root.SearchedBefore place other

theorem acceptsBelow_cons_iff (root : RouteNode) (segments : List String) (i : Nat)
    (place : List Nat) :
    root.AcceptsBelow segments (i :: place) ↔
      ∃ c, root.children[i]? = some c ∧ AcceptsAt c segments place := by
  cases at_i : root.children[i]? with
  | none =>
    refine iff_of_false ?_ (by simp)
    rintro ⟨-, present, -⟩
    simp [Tree.at?, at_i] at present
  | some c =>
    constructor
    · rintro ⟨-, present, accepts⟩
      exact ⟨c, rfl, by simpa [Tree.at?, at_i] using present,
        by simpa [Tree.along, at_i] using accepts⟩
    · rintro ⟨d, same, present, accepts⟩
      obtain rfl := Option.some.inj same
      exact ⟨by simp, by simpa [Tree.at?, at_i] using present,
        by simpa [Tree.along, at_i] using accepts⟩

theorem FirstBelow.unique {root : RouteNode} {segments : List String} {place other : List Nat}
    (first : root.FirstBelow segments place) (first' : root.FirstBelow segments other) :
    place = other := by
  by_contra different
  exact (first.first other first'.accepts (Ne.symm different)).asymm
    (first'.first place first.accepts different)

/-- The search below a root finds the first chain that accepts, if any does. -/
theorem matchChildren_root_cases (root : RouteNode) (segments : List String) :
    (matchChildren false none segments [] root.ranked.children = none ∧
        ∀ place, ¬ root.AcceptsBelow segments place) ∨
      ∃ place, root.FirstBelow segments place ∧
        matchChildren false none segments [] root.ranked.children =
          some (trailOf (root.along place).tail segments []) := by
  obtain ⟨r, cs⟩ := root
  have search : FindsAmong cs segments []
      (matchChildren false none segments [] (rankSiblings (rankedAll cs))) :=
    findsAmong_of_finds fun c _ => matchNode_finds c segments []
  have children : (ranked (.node r cs)).children = rankSiblings (rankedAll cs) := by
    simp [ranked, Tree.children]
  rw [children]
  generalize matchChildren false none segments [] (rankSiblings (rankedAll cs)) = result at search ⊢
  cases search with
  | nothing none_accepts =>
    refine .inl ⟨rfl, ?_⟩
    intro place accepts
    cases place with
    | nil => exact accepts.below rfl
    | cons i place =>
      obtain ⟨c, at_i, there⟩ := (acceptsBelow_cons_iff _ segments i place).mp accepts
      exact none_accepts c (List.mem_of_getElem? at_i) place there
  | @first i c place at_i first tried =>
    refine .inr ⟨i :: place, ⟨?_, ?_⟩, by simp [Tree.along, Tree.children, at_i]⟩
    · exact (acceptsBelow_cons_iff _ segments i place).mpr ⟨c, at_i, first.accepts⟩
    · intro other accepts different
      cases other with
      | nil => exact .descendant
      | cons j place' =>
        obtain ⟨d, at_j, there⟩ := (acceptsBelow_cons_iff _ segments j place').mp accepts
        exact searchedBefore_of_first at_i first tried at_j there different

/-- Strict matching agrees with exhaustive search. It fails just when there are segments that no
chain accepts; when chains accept the segments, the first one in depth-first order is the match; and
without segments and such a chain, the root is the match by itself. -/
theorem matchPath_strict_eq_first (root : RouteNode) (path : String) :
    (root.matchPath path false = none ↔
        RoutePath.split path ≠ [] ∧ ∀ place, ¬ root.AcceptsBelow (RoutePath.split path) place) ∧
      ((∃ place, root.AcceptsBelow (RoutePath.split path) place) ->
        ∃ place, root.FirstBelow (RoutePath.split path) place) ∧
      (∀ place, root.FirstBelow (RoutePath.split path) place ->
        root.matchPath path false = some
          { chain := root.along place,
            params := Entries.merge [] (RoutePart.captures
              ((root.along place).tail.flatMap ownParts) (RoutePath.split path)),
            matched := RoutePath.split path, remainder := [] }) ∧
      (RoutePath.split path = [] -> (∀ place, ¬ root.AcceptsBelow [] place) ->
        root.matchPath path false = some { chain := [root.value] }) := by
  rcases matchChildren_root_cases root (RoutePath.split path) with
    ⟨fails, none_accepts⟩ | ⟨place, first, found⟩
  · refine ⟨?_, ?_, ?_, ?_⟩
    · simp [matchPath, fails, none_accepts]
    · rintro ⟨place, accepts⟩
      exact absurd accepts (none_accepts place)
    · intro place first
      exact absurd first.accepts (none_accepts place)
    · intro empty _
      rw [empty] at fails
      simp [matchPath, fails, empty]
  · refine ⟨?_, fun _ => ⟨place, first⟩, ?_, ?_⟩
    · refine iff_of_false (by simp [matchPath, found]) ?_
      rintro ⟨-, none_accepts⟩
      exact none_accepts place first.accepts
    · intro other first'
      obtain rfl := first.unique first'
      have whole : root.along place = root.value :: (root.along place).tail := by
        cases place <;> rfl
      rw [matchPath, found]
      simp [trailOf, ← whole]
    · intro empty none_accepts
      exact absurd (empty ▸ first.accepts) (none_accepts place)

end RouteNode

end ViewDoc
