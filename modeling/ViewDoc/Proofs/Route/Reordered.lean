import Mathlib.Data.List.Forall2
import Mathlib.Data.List.Pairwise
import ViewDoc.Proofs.Route.FirstMatch
import ViewDoc.Proofs.Tree.Positions
/-!
Route trees with their siblings in another order. Ranks decide between most siblings, and two of one
rank exclude each other where they have different fixed segments at one position. The main statement
is that the order of siblings does not matter in a tree all of whose siblings are told apart in one of
these ways.
-/

set_option autoImplicit false

namespace ViewDoc

/-- A tree with the children of its nodes in another order. -/
inductive Tree.Reordered {α : Type} : Tree α -> Tree α -> Prop where
  | node {a : α} {cs es ds : List (Tree α)} : cs.Perm es -> List.Forall₂ Reordered es ds ->
      Reordered (.node a cs) (.node a ds)

theorem Tree.Reordered.value_eq {α : Type} {t u : Tree α} (same : t.Reordered u) :
    t.value = u.value := by
  cases same
  rfl

namespace RoutePart

/-- At one position, before any wildcard, there are two different fixed segments. -/
inductive Excludes : List RoutePart -> List RoutePart -> Prop where
  | here {segment other : String} {ps qs : List RoutePart} : segment ≠ other ->
      Excludes (.literal segment :: ps) (.literal other :: qs)
  | later {p q : RoutePart} {ps qs : List RoutePart} : p ≠ .wildcard -> q ≠ .wildcard ->
      Excludes ps qs -> Excludes (p :: ps) (q :: qs)

variable {p : RoutePart} {ps qs : List RoutePart} {segments : List String}
  {params params' : RouteParams} {taken taken' : Taken}

theorem Excludes.symm (excludes : Excludes ps qs) : Excludes qs ps := by
  induction excludes with
  | here different => exact .here different.symm
  | later tame tame' _ ih => exact .later tame' tame ih

theorem Excludes.ne (excludes : Excludes ps qs) : ps ≠ qs := by
  induction excludes with
  | here different => exact fun same => different (RoutePart.literal.inj (List.cons.inj same).1)
  | later _ _ _ ih => exact fun same => ih (List.cons.inj same).2

/-- A part that is no wildcard takes one segment, and the parts after it take from the others. -/
theorem exists_take_of_cons (tame : p ≠ .wildcard)
    (done : take (p :: ps) segments params = some taken) :
    ∃ s rest params' taken', segments = s :: rest ∧ take ps rest params' = some taken' := by
  cases segments with
  | nil =>
    cases p with
    | wildcard => exact absurd rfl tame
    | dynamic name => cases done
    | literal segment => cases done
  | cons s rest =>
    cases p with
    | wildcard => exact absurd rfl tame
    | dynamic name =>
      obtain ⟨taken', below, -⟩ := Option.map_eq_some_iff.mp done
      exact ⟨s, rest, _, taken', rfl, below⟩
    | literal segment =>
      rw [take] at done
      split at done
      · obtain ⟨taken', below, -⟩ := Option.map_eq_some_iff.mp done
        exact ⟨s, rest, _, taken', rfl, below⟩
      · cases done

theorem eq_of_take_literal {segment s : String} {rest : List String}
    (done : take (.literal segment :: ps) (s :: rest) params = some taken) : segment = s := by
  rw [take] at done
  split at done
  · assumption
  · cases done

/-- Parts that exclude each other do not both take from the same segments. -/
theorem Excludes.not_both (excludes : Excludes ps qs)
    (first : take ps segments params = some taken)
    (second : take qs segments params' = some taken') : False := by
  induction excludes generalizing segments params params' taken taken' with
  | here different =>
    obtain ⟨s, rest, -, -, rfl, -⟩ := exists_take_of_cons (by simp) first
    exact different ((eq_of_take_literal first).trans (eq_of_take_literal second).symm)
  | later tame tame' _ ih =>
    obtain ⟨s, rest, _, _, rfl, below⟩ := exists_take_of_cons tame first
    obtain ⟨_, _, _, _, same, below'⟩ := exists_take_of_cons tame' second
    obtain ⟨-, rfl⟩ := List.cons.inj same
    exact ih below below'

/-- Lists of parts of which neither goes before the other have parts of the same kinds. -/
theorem map_rank_eq {as bs : List RoutePart} (forth : ¬ KindsBefore as bs)
    (back : ¬ KindsBefore bs as) : as.map rank = bs.map rank := by
  induction as generalizing bs with
  | nil =>
    cases bs with
    | nil => rfl
    | cons b bs => exact absurd .nil forth
  | cons a as ih =>
    cases bs with
    | nil => exact absurd .nil back
    | cons b bs =>
      have same : a.rank = b.rank :=
        Nat.le_antisymm (Nat.not_lt.mp fun lower => back (.head lower))
          (Nat.not_lt.mp fun lower => forth (.head lower))
      rw [List.map_cons, List.map_cons, same,
        ih (fun later => forth (.tail same later)) fun later => back (.tail same.symm later)]

end RoutePart

namespace RouteFields

/-- A route that takes nothing from a path and is no index route. -/
def Pathless (r : RouteFields) : Prop :=
  r.index = false ∧ r.parts = []

/-- Siblings are told apart: at most one is an index route and at most one pathless, and if they have
parts of the same kinds, then these exclude each other. -/
structure ToldApart (r q : RouteFields) : Prop where
  index : ¬ (r.index = true ∧ q.index = true)
  pathless : ¬ (r.Pathless ∧ q.Pathless)
  parts : r.index = false -> q.index = false -> r.parts ≠ [] -> q.parts ≠ [] ->
    r.parts.map RoutePart.rank = q.parts.map RoutePart.rank -> RoutePart.Excludes r.parts q.parts

instance : Std.Symm ToldApart where
  symm _ _ apart :=
    { index := fun both => apart.index both.symm
      pathless := fun both => apart.pathless both.symm
      parts := fun plain plain' some some' same =>
        (apart.parts plain' plain some' some same.symm).symm }

/-- Of siblings that are told apart one goes before the other, or they exclude each other. -/
theorem ToldApart.cases {r q : RouteFields} (apart : r.ToldApart q) :
    r.Precedes q ∨ q.Precedes r ∨
      (r.index = false ∧ q.index = false ∧ RoutePart.Excludes r.parts q.parts) := by
  rcases rank_cases r with ⟨ri, -⟩ | ⟨ri, rp, -⟩ | ⟨ri, rp, -⟩ <;>
    rcases rank_cases q with ⟨qi, -⟩ | ⟨qi, qp, -⟩ | ⟨qi, qp, -⟩
  · exact absurd ⟨ri, qi⟩ apart.index
  · exact .inl (.index ri qi)
  · exact .inl (.index ri qi)
  · exact .inr (.inl (.index qi ri))
  · by_cases forth : KindsBefore r.parts q.parts
    · exact .inl (.kinds ri qi rp qp forth)
    · by_cases back : KindsBefore q.parts r.parts
      · exact .inr (.inl (.kinds qi ri qp rp back))
      · exact .inr (.inr ⟨ri, qi, apart.parts ri qi rp qp (RoutePart.map_rank_eq forth back)⟩)
  · exact .inl (.pathless ri qi rp qp)
  · exact .inr (.inl (.index qi ri))
  · exact .inr (.inl (.pathless qi ri qp rp))
  · exact absurd ⟨⟨ri, rp⟩, qi, qp⟩ apart.pathless

/-- No route is told apart from itself. -/
theorem not_toldApart_self (r : RouteFields) : ¬ r.ToldApart r := by
  intro apart
  rcases apart.cases with before | before | ⟨-, -, excludes⟩
  · exact before.asymm before
  · exact before.asymm before
  · exact excludes.ne rfl

/-- Routes of different ranks are told apart. -/
theorem toldApart_of_rank_ne {r q : RouteFields} (different : r.rank ≠ q.rank) :
    r.ToldApart q where
  index both := different (by simp [rank, both.1, both.2])
  pathless both := different (by simp [rank, both.1.1, both.1.2, both.2.1, both.2.2])
  parts plain plain' some some' same :=
    absurd (by simp [rank, plain, plain', some, some', same]) different

/-- Routes whose parts exclude each other are told apart. -/
theorem toldApart_of_excludes {r q : RouteFields} (plain : r.index = false)
    (excludes : RoutePart.Excludes r.parts q.parts) : r.ToldApart q where
  index both := Bool.noConfusion (plain.symm.trans both.1)
  pathless both := excludes.ne (both.1.2.trans both.2.2.symm)
  parts _ _ _ _ _ := excludes

end RouteFields

namespace RouteNode

/-- The children of every route are told apart from each other. -/
def RanksDecide (root : RouteNode) : Prop :=
  ∀ t ∈ root.walk, t.children.Pairwise fun c d => c.value.ToldApart d.value

section Decided

variable {r : RouteFields} {cs : List RouteNode}

theorem RanksDecide.here (decided : RanksDecide (.node r cs)) :
    cs.Pairwise fun c d => c.value.ToldApart d.value :=
  decided _ (Tree.mem_walk_self _)

theorem RanksDecide.below (decided : RanksDecide (.node r cs)) {c : RouteNode} (child : c ∈ cs) :
    c.RanksDecide :=
  fun t mem => decided t (Tree.walk_subset_of_mem_children child mem)

theorem value_eq_of_along_eq {t u : RouteNode} {place other : List Nat}
    (same : t.along place = u.along other) : t.value = u.value := by
  cases place <;> cases other <;> exact (List.cons.inj same).1

/-- Children that are told apart have different fields. -/
theorem eq_of_getElem?_of_value_eq (apart : cs.Pairwise fun c d => c.value.ToldApart d.value)
    {i j : Nat} {c d : RouteNode} (at_i : cs[i]? = some c) (at_j : cs[j]? = some d)
    (same : c.value = d.value) : i = j := by
  have ordered {i j : Nat} {c d : RouteNode} (at_i : cs[i]? = some c) (at_j : cs[j]? = some d)
      (same : c.value = d.value) : ¬ i < j := by
    intro below
    obtain ⟨short, rfl⟩ := List.getElem?_eq_some_iff.mp at_i
    obtain ⟨short', rfl⟩ := List.getElem?_eq_some_iff.mp at_j
    have told := List.pairwise_iff_getElem.mp apart i j short short' below
    exact RouteFields.not_toldApart_self _ (same ▸ told)
  have forth := ordered at_i at_j same
  have back := ordered at_j at_i same.symm
  omega

/-- Where all siblings are told apart, a chain of routes belongs to one place, so that the chain of a
match stands for one node. -/
theorem RanksDecide.eq_of_along_eq {root : RouteNode} (decided : root.RanksDecide)
    {place other : List Nat} (present : (root.at? place).isSome)
    (present' : (root.at? other).isSome) (same : root.along place = root.along other) :
    place = other := by
  induction place generalizing root other with
  | nil =>
    cases other with
    | nil => rfl
    | cons j other =>
      cases at_j : root.children[j]? with
      | none => simp [Tree.at?, at_j] at present'
      | some d => simp [Tree.along, at_j, along_ne_nil] at same
  | cons i place ih =>
    cases at_i : root.children[i]? with
    | none => simp [Tree.at?, at_i] at present
    | some c =>
      cases other with
      | nil => simp [Tree.along, at_i, along_ne_nil] at same
      | cons j other =>
        cases at_j : root.children[j]? with
        | none => simp [Tree.at?, at_j] at present'
        | some d =>
          obtain ⟨r, cs⟩ := root
          simp only [Tree.at?, at_i, at_j] at present present'
          simp only [Tree.along, at_i, at_j, List.cons.injEq, true_and] at same
          obtain rfl := eq_of_getElem?_of_value_eq decided.here at_i at_j (value_eq_of_along_eq same)
          obtain rfl := Option.some.inj (at_i.symm.trans at_j)
          rw [ih (decided.below (List.mem_of_getElem? at_i)) present present' same]

end Decided

section Search

variable {β : Type}

/-- What a search finds on a route, with the rank of the route. -/
def hit (f : RouteNode -> Option β) (c : RouteNode) : Option ((Nat × List Nat) × β) :=
  (f c).map fun b => (c.value.rank, b)

theorem findSome?_eq_head?_hits (f : RouteNode -> Option β) (cs : List RouteNode) :
    cs.findSome? f = ((cs.filterMap (hit f)).map (·.2)).head? := by
  have forgets : (fun c => (hit f c).map (·.2)) = f := by
    funext c
    cases found : f c <;> simp [hit, found]
  rw [List.map_filterMap, forgets, List.head?_filterMap]

/-- A search through ranked siblings depends on what it finds on them and on their ranks alone, if
ranks tell apart those on which it finds something. -/
theorem findSome?_rankSiblings_eq {f g : RouteNode -> Option β} {cs ds : List RouteNode}
    (same : (cs.filterMap (hit f)).Perm (ds.filterMap (hit g)))
    (decided : ∀ a ∈ cs.filterMap (hit f), ∀ b ∈ cs.filterMap (hit f),
      rankLe a.1 b.1 = true -> rankLe b.1 a.1 = true -> a = b) :
    (rankSiblings cs).findSome? f = (rankSiblings ds).findSome? g := by
  have sorted (f : RouteNode -> Option β) (cs : List RouteNode) :
      ((rankSiblings cs).filterMap (hit f)).Pairwise fun a b => rankLe a.1 b.1 = true := by
    have ranked : (rankSiblings cs).Pairwise
        fun c d => rankLe c.value.rank d.value.rank = true :=
      List.pairwise_mergeSort
        (fun a b c => rankLe_trans a.value.rank b.value.rank c.value.rank)
        (fun a b => rankLe_total a.value.rank b.value.rank) cs
    refine ranked.filterMap _ fun c d below a found b found' => ?_
    obtain ⟨_, -, rfl⟩ := Option.map_eq_some_iff.mp found
    obtain ⟨_, -, rfl⟩ := Option.map_eq_some_iff.mp found'
    exact below
  have members (f : RouteNode -> Option β) (cs : List RouteNode) :
      ((rankSiblings cs).filterMap (hit f)).Perm (cs.filterMap (hit f)) :=
    (List.mergeSort_perm cs _).filterMap _
  have whole : (rankSiblings cs).filterMap (hit f) = (rankSiblings ds).filterMap (hit g) := by
    refine List.Perm.eq_of_pairwise (fun a b mem mem' => ?_) (sorted f cs) (sorted g ds)
      ((members f cs).trans (same.trans (members g ds).symm))
    exact decided a ((members f cs).mem_iff.mp mem) b
      (same.mem_iff.mpr ((members g ds).mem_iff.mp mem'))
  rw [findSome?_eq_head?_hits, findSome?_eq_head?_hits, whole]

end Search

section Reordered

variable {r : RouteFields} {cs es ds : List RouteNode} {c d : RouteNode}
  {segments : List String} {params : RouteParams}

/-- What is found from a route down depends on what is found among its children. -/
theorem matchNode_congr (sizes : cs.length = ds.length)
    (below : ∀ segments params,
      matchChildren false none segments params cs = matchChildren false none segments params ds) :
    matchNode false segments params (.node r cs) = matchNode false segments params (.node r ds) := by
  have empty : cs.isEmpty = ds.isEmpty := by
    rw [Bool.eq_iff_iff, List.isEmpty_iff_length_eq_zero, List.isEmpty_iff_length_eq_zero, sizes]
  rw [matchNode, matchNode]
  simp only [below, empty]

/-- A route that is found takes its own parts from the front of the segments. -/
theorem take_ne_none (plain : c.value.index = false)
    (found : matchNode false segments params (ranked c) ≠ none) :
    RoutePart.take c.value.parts segments params ≠ none := by
  obtain ⟨r, cs⟩ := c
  intro fails
  rw [ranked] at found
  exact found (matchNode_of_take_eq_none plain fails _)

/-- Two siblings on which a search succeeds have different ranks if they are told apart. -/
theorem not_alike_of_toldApart (apart : c.value.ToldApart d.value)
    (found : matchNode false segments params (ranked c) ≠ none)
    (found' : matchNode false segments params (ranked d) ≠ none)
    (forth : rankLe c.value.rank d.value.rank = true) :
    ¬ rankLe d.value.rank c.value.rank = true := by
  intro back
  rcases apart.cases with before | before | ⟨plain, plain', excludes⟩
  · exact (RouteFields.rankLe_iff _ _).mp back before
  · exact (RouteFields.rankLe_iff _ _).mp forth before
  · obtain ⟨_, first⟩ := Option.ne_none_iff_exists'.mp (take_ne_none plain found)
    obtain ⟨_, second⟩ := Option.ne_none_iff_exists'.mp (take_ne_none plain' found')
    exact excludes.not_both first second

/-- The search among children that are told apart finds the same in every order of them. -/
theorem matchChildren_reordered (apart : cs.Pairwise fun c d => c.value.ToldApart d.value)
    (perm : cs.Perm es) (same : List.Forall₂ Tree.Reordered es ds)
    (below : ∀ c ∈ cs, ∀ d, Tree.Reordered c d ->
      matchNode false segments params (ranked c) = matchNode false segments params (ranked d)) :
    matchChildren false none segments params (rankSiblings (rankedAll cs)) =
      matchChildren false none segments params (rankSiblings (rankedAll ds)) := by
  rw [matchChildren_strict, matchChildren_strict, rankSiblings_rankedAll, rankSiblings_rankedAll,
    List.findSome?_map, List.findSome?_map]
  let f : RouteNode -> Option RouteTrail := matchNode false segments params ∘ ranked
  have hits : es.filterMap (hit f) = ds.filterMap (hit f) := by
    have known : ∀ e ∈ es, e ∈ cs := fun e mem => perm.mem_iff.mpr mem
    clear perm
    induction same with
    | nil => rfl
    | @cons e d es ds same _ ih =>
      obtain ⟨first, later⟩ := List.forall_mem_cons.mp known
      have found : hit f e = hit f d := by
        rw [hit, hit, same.value_eq]
        exact congrArg (Option.map _) (below e first d same)
      rw [List.filterMap_cons, List.filterMap_cons, found, ih later]
  refine findSome?_rankSiblings_eq ((perm.filterMap _).trans (.of_eq hits)) ?_
  intro a memA b memB forth back
  obtain ⟨c, child, foundC⟩ := List.mem_filterMap.mp memA
  obtain ⟨d, child', foundD⟩ := List.mem_filterMap.mp memB
  obtain ⟨_, hitC, rfl⟩ := Option.map_eq_some_iff.mp foundC
  obtain ⟨_, hitD, rfl⟩ := Option.map_eq_some_iff.mp foundD
  by_cases one : c = d
  · subst one
    rw [Option.some.inj (hitC.symm.trans hitD)]
  · have symm : Std.Symm fun c d : RouteNode => c.value.ToldApart d.value :=
      ⟨fun _ _ apart => Std.Symm.symm _ _ apart⟩
    exact absurd back (not_alike_of_toldApart (apart.forall child child' one)
      (Option.ne_none_iff_exists'.mpr ⟨_, hitC⟩) (Option.ne_none_iff_exists'.mpr ⟨_, hitD⟩) forth)

/-- From a route down the same is found in every order of siblings that are told apart. -/
theorem matchNode_reordered (t : RouteNode) {u : RouteNode} (same : Tree.Reordered t u)
    (decided : t.RanksDecide) (segments : List String) (params : RouteParams) :
    matchNode false segments params (ranked t) = matchNode false segments params (ranked u) := by
  induction t using Tree.induct generalizing u segments params with
  | node r cs ih =>
    cases same with
    | node perm same =>
      rw [ranked, ranked]
      refine matchNode_congr ?_ fun segments params => ?_
      · simp [rankSiblings, rankedAll_eq_map, perm.length_eq, same.length_eq]
      · exact matchChildren_reordered decided.here perm same fun c child d same =>
          ih c child same (decided.below child) segments params

end Reordered

/-- The order of siblings does not matter where ranks decide: a strict match of a path is the same, or
there is none, in every tree in which the siblings stand in another order. -/
theorem matchPath_reordered {root other : RouteNode} (same : root.Reordered other)
    (decided : root.RanksDecide) (path : String) :
    root.matchPath path false = other.matchPath path false := by
  cases same with
  | @node r cs es ds perm same =>
    have found : matchChildren false none (RoutePath.split path) [] (rankSiblings (rankedAll cs)) =
        matchChildren false none (RoutePath.split path) [] (rankSiblings (rankedAll ds)) :=
      matchChildren_reordered decided.here perm same fun c child d same =>
        matchNode_reordered c same (decided.below child) _ _
    rw [matchPath, matchPath, ranked, ranked, Tree.children, Tree.children, found]
    rfl

/-- The route of a book in a library. -/
def book : RouteFields := { id := "book", segment := some "books/:id" }

/-- The route of an author in a library, which has parts of the same kinds. -/
def author : RouteFields := { id := "author", segment := some "authors/:id" }

/-- The editor of a book. -/
def edit : RouteFields := { id := "edit", segment := some "edit" }

/-- What else there is below a book. -/
def others : RouteFields := { id := "others", segment := some "*" }

/-- The start page of a library. -/
def home : RouteFields := { id := "home", index := true }

/-- A library with its books and authors. -/
def library : RouteNode :=
  .node { id := RouteFields.rootId } [
    .node home [], .node book [.node edit [], .node others []], .node author []]

/-- The same library with its routes in another order, below the books too. -/
def shuffledLibrary : RouteNode :=
  .node { id := RouteFields.rootId } [
    .node author [], .node book [.node others [], .node edit []], .node home []]

theorem library_reordered : library.Reordered shuffledLibrary := by
  have leaf (r : RouteFields) : Tree.Reordered (.node r []) (.node r []) := .node .rfl .nil
  have below : Tree.Reordered (.node book [.node edit [], .node others []])
      (.node book [.node others [], .node edit []]) :=
    .node (.swap _ _ []) (.cons (leaf others) (.cons (leaf edit) .nil))
  exact .node (List.reverse_perm [_, _, _]).symm
    (.cons (leaf author) (.cons below (.cons (leaf home) .nil)))

theorem library_ranksDecide : library.RanksDecide := by
  have books : book.parts = [.literal "books", .dynamic "id"] := by decide
  have authors : author.parts = [.literal "authors", .dynamic "id"] := by decide
  have excludes : book.ToldApart author := by
    refine RouteFields.toldApart_of_excludes rfl ?_
    rw [books, authors]
    exact .here (by decide)
  have first : home.ToldApart book := RouteFields.toldApart_of_rank_ne (by decide)
  have first' : home.ToldApart author := RouteFields.toldApart_of_rank_ne (by decide)
  have last : edit.ToldApart others := RouteFields.toldApart_of_rank_ne (by decide)
  simp [RanksDecide, library, Tree.walk, Tree.walkAll, Tree.children, Tree.value, first, first',
    excludes, last]

theorem matchPath_library : library.matchPath "/books/7/edit" false = some
    { chain := [{ id := RouteFields.rootId }, book, edit], params := [("id", "7")],
      matched := ["books", "7", "edit"] } := by
  have ranked : library.ranked = library := by
    simp only [library, ranked, rankedAll, rankSiblings_of_pairwise List.Pairwise.nil]
    rw [rankSiblings_of_pairwise (by decide +kernel), rankSiblings_of_pairwise (by decide +kernel)]
  rw [matchPath, ranked]
  decide +kernel

theorem library_shuffled :
    library.Reordered shuffledLibrary ∧ library.RanksDecide ∧
      shuffledLibrary.matchPath "/books/7/edit" false = some
        { chain := [{ id := RouteFields.rootId }, book, edit], params := [("id", "7")],
          matched := ["books", "7", "edit"] } :=
  ⟨library_reordered, library_ranksDecide,
    (matchPath_reordered library_reordered library_ranksDecide "/books/7/edit").symm.trans
      matchPath_library⟩

end RouteNode

end ViewDoc
