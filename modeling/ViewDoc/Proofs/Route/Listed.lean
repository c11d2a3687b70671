import ViewDoc.Proofs.Route.FirstMatch
import ViewDoc.Proofs.Route.Normal
import ViewDoc.Proofs.Tree.Positions
/-!
The paths under which routes are listed, against those under which they are matched. A listing starts
anew at a pattern with a slash in front and counts the pattern of the root, while a chain takes the
segments of all patterns below the root. The main statement is for which listed routes the listed
path leads to a route of this path.
-/

set_option autoImplicit false

namespace ViewDoc

namespace RoutePart

theorem covers_map_literal_iff (texts segments : List String) :
    Covers (texts.map .literal) segments ↔ texts = segments := by
  induction texts generalizing segments with
  | nil => exact (covers_nil_iff segments).trans eq_comm
  | cons s texts ih =>
    cases segments with
    | nil => simp
    | cons s' segments => rw [List.map_cons, covers_literal_cons_iff, ih, List.cons.injEq]

/-- A fixed part without signs for queries and fragments. -/
def isFixed : RoutePart -> Bool
  | .literal s => !s.toList.contains '?' && !s.toList.contains '#'
  | _ => false

theorem isFixed_iff (part : RoutePart) :
    part.isFixed = true ↔ ∃ s, part = .literal s ∧ '?' ∉ s.toList ∧ '#' ∉ s.toList := by
  cases part with
  | literal s => simp [isFixed]
  | dynamic name => simp [isFixed]
  | wildcard => simp [isFixed]

end RoutePart

namespace RouteFields

/-- The segments that a route stands for by itself. -/
def ownSegments (r : RouteFields) : List String :=
  if r.index then [] else Text.pieces '/' r.pattern

/-- The segments under which a route is listed below others. -/
def listedBelow (above : List String) (r : RouteFields) : List String :=
  if r.index = false ∧ r.pattern.toList.head? = some '/' then r.ownSegments
  else above ++ r.ownSegments

theorem listedBelow_of_pathless {r : RouteFields} (pathless : r.index = true ∨ r.pattern = "")
    (above : List String) : r.listedBelow above = above := by
  have nothing : r.ownSegments = [] := by
    rw [ownSegments]
    split
    · rfl
    · rename_i plain
      rw [pathless.resolve_left plain]
      decide
  rw [listedBelow, nothing, List.append_nil, if_neg]
  rintro ⟨plain, slash⟩
  rcases pathless with index | empty
  · exact Bool.false_ne_true (plain.symm.trans index)
  · rw [empty] at slash
    cases slash

theorem ownSegments_of_plain {r : RouteFields} (plain : r.index = false) :
    r.ownSegments = Text.pieces '/' r.pattern := by
  rw [ownSegments, plain]
  rfl

theorem listedBelow_of_slash {r : RouteFields} (plain : r.index = false)
    (slash : r.pattern.toList.head? = some '/') (above : List String) :
    r.listedBelow above = Text.pieces '/' r.pattern := by
  rw [listedBelow, if_pos ⟨plain, slash⟩, ownSegments_of_plain plain]

theorem listedBelow_of_no_slash {r : RouteFields} (plain : r.index = false)
    (other : r.pattern.toList.head? ≠ some '/') (above : List String) :
    r.listedBelow above = above ++ Text.pieces '/' r.pattern := by
  rw [listedBelow, if_neg fun both => other both.2, ownSegments_of_plain plain]

/-- A route of fixed parts. -/
def Fixed (r : RouteFields) : Prop :=
  ∀ part ∈ r.parts, part.isFixed = true

instance (r : RouteFields) : Decidable r.Fixed :=
  inferInstanceAs (Decidable (∀ part ∈ r.parts, part.isFixed = true))

section Fixed

variable {r : RouteFields}

theorem Fixed.wildcard_not_mem (fixed : r.Fixed) : RoutePart.wildcard ∉ r.parts :=
  fun wild => Bool.false_ne_true (fixed _ wild)

theorem Fixed.ofText_eq (fixed : r.Fixed) {piece : String}
    (mem : piece ∈ Text.pieces '/' r.pattern) :
    RoutePart.ofText piece = .literal piece ∧ '?' ∉ piece.toList ∧ '#' ∉ piece.toList := by
  obtain ⟨s, read, bare⟩ := (RoutePart.isFixed_iff _).mp (fixed _ (List.mem_map_of_mem mem))
  obtain rfl := RoutePart.eq_of_ofText read
  exact ⟨read, bare⟩

theorem Fixed.ownParts_eq (fixed : r.Fixed) : r.ownParts = r.ownSegments.map .literal := by
  rw [ownParts, ownSegments]
  split
  · rfl
  · exact List.map_congr_left fun piece mem => (fixed.ofText_eq mem).1

theorem Fixed.not_mem_pattern (fixed : r.Fixed) :
    '?' ∉ r.pattern.toList ∧ '#' ∉ r.pattern.toList := by
  have query : '?' ≠ '/' := by decide
  have fragment : '#' ≠ '/' := by decide
  rw [Text.mem_iff_exists_mem_pieces query, Text.mem_iff_exists_mem_pieces fragment]
  exact ⟨fun ⟨_, mem, inside⟩ => (fixed.ofText_eq mem).2.1 inside,
    fun ⟨_, mem, inside⟩ => (fixed.ofText_eq mem).2.2 inside⟩

end Fixed

end RouteFields

namespace RouteNode

/-- The ways in which a route is listed below a parent path. -/
inductive ListsBelow (parent : String) (r : RouteFields) : String -> Prop where
  | pathless : r.index = true ∨ r.pattern = "" -> parent ≠ "" -> ListsBelow parent r parent
  | root : r.index = true ∨ r.pattern = "" -> parent = "" -> ListsBelow parent r "/"
  | anew : r.index = false -> r.pattern.toList.head? = some '/' -> ListsBelow parent r r.pattern
  | first : r.index = false -> r.pattern ≠ "" -> r.pattern.toList.head? ≠ some '/' ->
      parent = "" ∨ parent = "/" -> ListsBelow parent r ("/" ++ r.pattern)
  | further : r.index = false -> r.pattern ≠ "" -> r.pattern.toList.head? ≠ some '/' ->
      parent ≠ "" -> ListsBelow parent r (parent ++ "/" ++ r.pattern)

theorem trimmed_pattern {r : RouteFields} (written : r.pattern ≠ "") : Text.Trimmed r.pattern := by
  rw [RouteFields.pattern] at written ⊢
  exact Text.trimmed_trim (Bool.eq_false_iff.mpr fun blank => written
    ((Text.trim_eq_empty_iff _).mpr blank))

theorem listsBelow_pathBelow (parent : String) (r : RouteFields) :
    ListsBelow parent r (pathBelow parent r) := by
  rw [pathBelow]
  by_cases pathless : r.index = true ∨ r.pattern = ""
  · simp only [Bool.or_eq_true, decide_eq_true_eq, pathless, if_true]
    split
    · rename_i nothing
      exact .root pathless nothing
    · rename_i something
      exact .pathless pathless something
  · have named : r.index = false ∧ r.pattern ≠ "" := by simpa using pathless
    have rooted_pattern : RoutePath.rootedRoute r.pattern =
        .ofList (RoutePath.rooted r.pattern.toList) := by
      rw [RoutePath.rootedRoute, Text.trim_of_trimmed (trimmed_pattern named.2), if_neg named.2]
    simp only [Bool.or_eq_true, decide_eq_true_eq, pathless, if_false]
    rw [rooted_pattern, RoutePath.rooted]
    by_cases slash : r.pattern.toList.head? = some '/'
    · simp only [slash, beq_self_eq_true, true_or, if_true, String.ofList_toList]
      exact .anew named.1 slash
    · have other : (r.pattern.toList.head? == some '/') = false := by simpa using slash
      have front : String.ofList ('/' :: r.pattern.toList) = "/" ++ r.pattern := by
        rw [← String.toList_inj]
        simp
      simp only [other, Bool.false_eq_true, false_or, if_false, front]
      split
      · rename_i top
        exact .first named.1 named.2 slash top
      · rename_i below
        exact .further named.1 named.2 slash fun nothing => below (.inl nothing)

/-- A path as it is listed: nothing, or a rooted path without a blank at its end. -/
structure ListedPath (path : String) : Prop where
  rooted : path = "" ∨ path.toList.head? = some '/'
  back : ∀ c ∈ path.toList.getLast?, Text.isBlank c = false
  no_query : '?' ∉ path.toList
  no_fragment : '#' ∉ path.toList

theorem ListedPath.split_eq {path : String} (listed : ListedPath path) :
    RoutePath.split path = Text.pieces '/' path := by
  have trimmed : Text.trim path = path := by
    rcases listed.rooted with rfl | slash
    · decide
    · refine Text.trim_of_trimmed ⟨?_, fun c first => ?_, listed.back⟩
      · rintro rfl
        cases slash
      · obtain rfl : '/' = c := Option.some.inj (slash.symm.trans first)
        decide
  rw [RoutePath.split_of_plain, trimmed]
  · exact trimmed.symm ▸ listed.no_query
  · exact trimmed.symm ▸ listed.no_fragment

theorem listedPath_append {front : String} {r : RouteFields}
    (fixed : r.Fixed) (written : r.pattern ≠ "")
    (rooted : (front ++ r.pattern).toList.head? = some '/')
    (no_query : '?' ∉ front.toList) (no_fragment : '#' ∉ front.toList) :
    ListedPath (front ++ r.pattern) := by
  obtain ⟨nonempty, -, back⟩ := trimmed_pattern written
  obtain ⟨no_query', no_fragment'⟩ := fixed.not_mem_pattern
  refine ⟨.inr rooted, fun c last => back c ?_, ?_, ?_⟩
  · have chars : r.pattern.toList ≠ [] := by simpa using nonempty
    rwa [String.toList_append, List.getLast?_append_of_ne_nil _ chars] at last
  · rw [String.toList_append, List.mem_append]
    exact not_or.mpr ⟨no_query, no_query'⟩
  · rw [String.toList_append, List.mem_append]
    exact not_or.mpr ⟨no_fragment, no_fragment'⟩

/-- What a listing does to the segments of the path of the parent. -/
theorem listedPath_pathBelow {parent : String} {r : RouteFields} (fixed : r.Fixed)
    (listed : ListedPath parent) :
    ListedPath (pathBelow parent r) ∧
      Text.pieces '/' (pathBelow parent r) = r.listedBelow (Text.pieces '/' parent) := by
  have below := listsBelow_pathBelow parent r
  generalize pathBelow parent r = path at below
  cases below with
  | pathless pathless _ =>
    exact ⟨listed, (RouteFields.listedBelow_of_pathless pathless _).symm⟩
  | root pathless nothing =>
    subst nothing
    rw [RouteFields.listedBelow_of_pathless pathless]
    refine ⟨⟨.inr rfl, fun c last => ?_, by decide, by decide⟩, by decide⟩
    obtain rfl : '/' = c := Option.some.inj last
    decide
  | anew plain slash =>
    have written : r.pattern ≠ "" := by
      intro empty
      rw [empty] at slash
      cases slash
    refine ⟨?_, (RouteFields.listedBelow_of_slash plain slash _).symm⟩
    rw [← String.empty_append (s := r.pattern)]
    exact listedPath_append fixed written (by simpa using slash) List.not_mem_nil List.not_mem_nil
  | first plain written other top =>
    have nothing : Text.pieces '/' parent = [] := by
      rcases top with rfl | rfl
      · decide
      · decide
    have cut := Text.pieces_cons '/' r.pattern.toList
    rw [String.ofList_toList] at cut
    rw [RouteFields.listedBelow_of_no_slash plain other, nothing, List.nil_append, ← cut]
    refine ⟨listedPath_append fixed written ?_ (by decide) (by decide), congrArg _ ?_⟩
    · simp
    · rw [← String.toList_inj]
      simp
  | further plain written other below =>
    have slash := listed.rooted.resolve_left below
    have text : parent ++ "/" ++ r.pattern = .ofList (parent.toList ++ '/' :: r.pattern.toList) := by
      rw [← String.toList_inj]
      simp
    rw [RouteFields.listedBelow_of_no_slash plain other]
    refine ⟨listedPath_append fixed written ?_ ?_ ?_, ?_⟩
    · simp [slash]
    · simpa using listed.no_query
    · simpa using listed.no_fragment
    · rw [text, Text.pieces_append_cons, String.ofList_toList, String.ofList_toList]

/-- The segments of a listed path, from the patterns of the routes on the way. -/
theorem listedPath_foldl (chain : List RouteFields) {parent : String}
    (fixed : ∀ r ∈ chain, r.Fixed) (listed : ListedPath parent) :
    ListedPath (chain.foldl pathBelow parent) ∧
      Text.pieces '/' (chain.foldl pathBelow parent) =
        chain.foldl RouteFields.listedBelow (Text.pieces '/' parent) := by
  induction chain generalizing parent with
  | nil => exact ⟨listed, rfl⟩
  | cons r rest ih =>
    obtain ⟨first, more⟩ := List.forall_mem_cons.mp fixed
    obtain ⟨listed', segments⟩ := listedPath_pathBelow first listed
    rw [List.foldl_cons, List.foldl_cons, ← segments]
    exact ih more listed'

theorem itemsOf_eq_flatMap (parent : String) (depth : Nat) (rs : List RouteNode) :
    itemsOf parent depth rs = rs.flatMap (items parent depth) := by
  induction rs with
  | nil => rfl
  | cons r rest ih => rw [itemsOf, ih, List.flatMap_cons]

/-- What is listed stands at a place, with the path that the routes on the way there give. -/
theorem mem_items_iff {parent : String} {depth : Nat} {t : RouteNode} {i : RouteItem} :
    i ∈ items parent depth t ↔ ∃ place n, t.at? place = some n ∧
      i ∈ item ((t.along place).foldl pathBelow parent) (depth + place.length) n.value := by
  induction t using Tree.induct generalizing parent depth with
  | node r cs ih =>
    rw [items, itemsOf_eq_flatMap, List.mem_append, List.mem_flatMap]
    constructor
    · rintro (here | ⟨c, child, below⟩)
      · exact ⟨[], .node r cs, rfl, here⟩
      · obtain ⟨place, n, found, listed⟩ := (ih c child).mp below
        obtain ⟨j, taken⟩ := List.mem_iff_getElem?.mp child
        refine ⟨j :: place, n, ?_, ?_⟩
        · rw [Tree.at?, Tree.children, taken]
          exact found
        · rw [Tree.along_cons_of_at? taken, List.foldl_cons, List.length_cons, Nat.add_comm _ 1,
            ← Nat.add_assoc]
          exact listed
    · rintro ⟨place, n, found, listed⟩
      cases place with
      | nil =>
        obtain rfl := Option.some.inj found
        exact .inl listed
      | cons j place =>
        rw [Tree.at?] at found
        split at found
        · rename_i c taken
          rw [Tree.along_cons_of_at? taken, List.foldl_cons, List.length_cons, Nat.add_comm _ 1,
            ← Nat.add_assoc] at listed
          have child := List.mem_of_getElem? taken
          exact .inr ⟨c, child, (ih c child).mpr ⟨place, n, found, listed⟩⟩
        · cases found

/-- The segments under which the route at a place is listed. -/
def listedAt (root : RouteNode) (place : List Nat) : List String :=
  (root.along place).foldl RouteFields.listedBelow []

/-- The segments that the chain from below the root down to a place takes. -/
def takenAt (root : RouteNode) (place : List Nat) : List String :=
  (root.along place).tail.flatMap RouteFields.ownSegments

/-- A tree of fixed routes under a root, with distinct ids and nothing below index routes. -/
structure FixedRoutes (root : RouteNode) : Prop where
  rootId : root.value.id = RouteFields.rootId
  distinct : (root.walk.map fun n => n.value.id).Nodup
  fixed : ∀ n ∈ root.walk, n.value.Fixed
  leaves : ∀ n ∈ root.walk, n.value.index = true -> n.children = []

/-- The path of a listed route is matched, and nothing is left of it, by a chain that ends with a
route which is listed with the same path. -/
def MatchedAsListed (root : RouteNode) (i : RouteItem) : Prop :=
  ∃ m last other, root.matchPath i.path false = some m ∧ m.remainder = [] ∧
    m.route? = some last ∧ other ∈ root.items "" 0 ∧ other.id = last.id ∧
      RoutePath.normalize other.path = RoutePath.normalize i.path

theorem exists_mem_item_iff {path listed id : String} {depth : Nat} {r : RouteFields} :
    (∃ i ∈ item path depth r, i.id = id ∧ i.path = listed) ↔
      r.id ≠ RouteFields.rootId ∧ r.id = id ∧ path = listed := by
  rw [item]
  split
  · rename_i isRoot
    simp [isRoot]
  · rename_i other
    simp [other]

/-- Every route but the root is listed, with the path that the routes on the way to it give. -/
theorem exists_mem_items_iff {root : RouteNode} {id listed : String} :
    (∃ i ∈ root.items "" 0, i.id = id ∧ i.path = listed) ↔
      ∃ place n, root.at? place = some n ∧ n.value.id ≠ RouteFields.rootId ∧ n.value.id = id ∧
        (root.along place).foldl pathBelow "" = listed := by
  constructor
  · rintro ⟨i, mem, names⟩
    obtain ⟨place, n, found, listed⟩ := mem_items_iff.mp mem
    exact ⟨place, n, found, exists_mem_item_iff.mp ⟨i, listed, names⟩⟩
  · rintro ⟨place, n, found, names⟩
    obtain ⟨i, listed, names⟩ := exists_mem_item_iff.mpr names
    exact ⟨i, mem_items_iff.mpr ⟨place, n, found, listed⟩, names⟩

theorem matchPath_of_firstBelow {root : RouteNode} {path : String} {place : List Nat}
    (first : root.FirstBelow (RoutePath.split path) place) :
    ∃ m, root.matchPath path false = some m ∧ m.chain = root.along place ∧ m.remainder = [] := by
  rcases matchChildren_root_cases root (RoutePath.split path) with
    ⟨-, none_accepts⟩ | ⟨other, first', found⟩
  · exact absurd first.accepts (none_accepts place)
  · obtain rfl := first.unique first'
    have whole : root.along place = root.value :: (root.along place).tail := by
      cases place <;> rfl
    rw [matchPath, found]
    exact ⟨_, rfl, whole.symm, by simp [trailOf]⟩

/-- A match without a chain that accepts is the root. -/
theorem chain_eq_of_not_accepts {root : RouteNode} {path : String} {m : RouteMatch}
    (none_accepts : ∀ place, ¬ root.FirstBelow (RoutePath.split path) place)
    (found : root.matchPath path false = some m) : m.chain = [root.value] := by
  rcases matchChildren_root_cases root (RoutePath.split path) with
    ⟨fails, -⟩ | ⟨place, first, -⟩
  · rw [matchPath, fails] at found
    dsimp only at found
    split at found
    · cases found
    · obtain rfl := Option.some.inj found
      rfl
  · exact absurd first (none_accepts place)

section FixedRoutes

variable {root n : RouteNode} {place : List Nat} {i : RouteItem}

theorem FixedRoutes.along_fixed (routes : root.FixedRoutes) (found : root.at? place = some n) :
    ∀ r ∈ root.along place, r.Fixed := by
  intro r mem
  obtain ⟨m, met, rfl⟩ := (Tree.exists_mem_walk_of_mem_along found).1 r mem
  exact routes.fixed m met

theorem FixedRoutes.split_listed (routes : root.FixedRoutes) (found : root.at? place = some n) :
    RoutePath.split ((root.along place).foldl pathBelow "") = root.listedAt place := by
  have nothing : ListedPath "" := ⟨.inl rfl, nofun, List.not_mem_nil, List.not_mem_nil⟩
  obtain ⟨listed, segments⟩ := listedPath_foldl _ (routes.along_fixed found) nothing
  have empty : Text.pieces '/' "" = [] := by decide
  rw [listed.split_eq, segments, empty, listedAt]

/-- A chain of fixed routes accepts just the segments that it takes. -/
theorem FixedRoutes.acceptsBelow_iff (routes : root.FixedRoutes) (segments : List String) :
    root.AcceptsBelow segments place ↔
      place ≠ [] ∧ (root.at? place).isSome ∧ root.takenAt place = segments := by
  by_cases present : (root.at? place).isSome
  · obtain ⟨n, found⟩ := Option.isSome_iff_exists.mp present
    have parts : (root.along place).tail.flatMap RouteFields.ownParts =
        (root.takenAt place).map .literal := by
      rw [takenAt, List.map_flatMap]
      exact List.flatMap_congr fun r mem =>
        (routes.along_fixed found r (List.mem_of_mem_tail mem)).ownParts_eq
    have opens : ∀ r ∈ (root.along place).tail.dropLast, r.Opens := by
      intro r mem
      rw [← List.tail_dropLast] at mem
      obtain ⟨m, met, rfl, parent⟩ :=
        (Tree.exists_mem_walk_of_mem_along found).2 r (List.mem_of_mem_tail mem)
      refine ⟨Bool.eq_false_iff.mpr fun index => parent (routes.leaves m met index), ?_⟩
      exact (routes.fixed m met).wildcard_not_mem
    constructor
    · rintro ⟨below, -, accepts⟩
      exact ⟨below, present, (RoutePart.covers_map_literal_iff _ _).mp (parts ▸ accepts.covers)⟩
    · rintro ⟨below, -, takes⟩
      exact ⟨below, present, opens, parts ▸ (RoutePart.covers_map_literal_iff _ _).mpr takes⟩
  · exact iff_of_false (fun accepts => present accepts.present) fun accepts => present accepts.2.1

theorem FixedRoutes.id_ne_rootId (routes : root.FixedRoutes) (below : place ≠ [])
    (found : root.at? place = some n) : n.value.id ≠ RouteFields.rootId := by
  intro isRoot
  have top : root.at? [] = some root := rfl
  exact below (Tree.eq_of_at?_of_key_eq routes.distinct found top (isRoot.trans routes.rootId.symm))

theorem FixedRoutes.matchedAsListed_of_firstBelow (routes : root.FixedRoutes)
    (first : root.FirstBelow (RoutePath.split i.path) place)
    (same : root.listedAt place = root.takenAt place) : root.MatchedAsListed i := by
  obtain ⟨below, present, takes⟩ := (routes.acceptsBelow_iff _).mp first.accepts
  obtain ⟨n, here⟩ := Option.isSome_iff_exists.mp present
  obtain ⟨m, found, chain, nothing_left⟩ := matchPath_of_firstBelow first
  obtain ⟨other, mem, named, path⟩ := exists_mem_items_iff.mpr
    ⟨place, n, here, routes.id_ne_rootId below here, rfl, rfl⟩
  refine ⟨m, n.value, other, found, nothing_left, ?_, mem, named, ?_⟩
  · rw [RouteMatch.route?, chain, Tree.getLast?_along here]
  · rw [RoutePath.normalize_eq_iff, path, routes.split_listed here, same, takes]

theorem FixedRoutes.exists_firstBelow (routes : root.FixedRoutes) (below : place ≠ [])
    (found : root.at? place = some n) : ∃ q, root.FirstBelow (root.takenAt place) q := by
  have accepts : root.AcceptsBelow (root.takenAt place) place :=
    (routes.acceptsBelow_iff _).mpr ⟨below, by rw [found]; rfl, rfl⟩
  rcases matchChildren_root_cases root (root.takenAt place) with ⟨-, none_accepts⟩ | ⟨q, first, -⟩
  · exact absurd accepts (none_accepts place)
  · exact ⟨q, first⟩

/-- A listed route is matched as it is listed just when the first chain that takes its path is listed
with what it takes. This is so for every listed route, with or without children, where every place is
listed with what its chain takes. -/
theorem matchedAsListed_iff (routes : root.FixedRoutes) (listed : i ∈ root.items "" 0) :
    (root.MatchedAsListed i ↔ ∃ place, root.FirstBelow (RoutePath.split i.path) place ∧
        root.listedAt place = root.takenAt place) ∧
      ((∀ p ∈ root.positions, root.listedAt p.1 = root.takenAt p.1) -> root.MatchedAsListed i) := by
  refine ⟨⟨?_, fun ⟨_, first, same⟩ => routes.matchedAsListed_of_firstBelow first same⟩, ?_⟩
  · rintro ⟨m, last, other, found, -, isLast, mem, sameId, samePath⟩
    obtain ⟨place, n, there, not_root, named, path⟩ :=
      exists_mem_items_iff.mp ⟨other, mem, rfl, rfl⟩
    by_cases accepted : ∃ place, root.FirstBelow (RoutePath.split i.path) place
    · obtain ⟨q, first⟩ := accepted
      obtain ⟨m', found', chain, -⟩ := matchPath_of_firstBelow first
      obtain rfl := Option.some.inj (found.symm.trans found')
      obtain ⟨-, present, takes⟩ := (routes.acceptsBelow_iff _).mp first.accepts
      obtain ⟨n', here⟩ := Option.isSome_iff_exists.mp present
      rw [RouteMatch.route?, chain, Tree.getLast?_along here] at isLast
      obtain rfl := Option.some.inj isLast
      obtain rfl := Tree.eq_of_at?_of_key_eq routes.distinct there here (named.trans sameId)
      refine ⟨place, first, ?_⟩
      rw [takes, ← routes.split_listed there, path, RoutePath.normalize_eq_iff.mp samePath]
    · have chain := chain_eq_of_not_accepts (not_exists.mp accepted) found
      rw [RouteMatch.route?, chain] at isLast
      obtain rfl := Option.some.inj isLast
      exact absurd (named.trans (sameId.trans routes.rootId)) not_root
  · intro every
    obtain ⟨place, n, found, not_root, -, path⟩ := exists_mem_items_iff.mp ⟨i, listed, rfl, rfl⟩
    have below : place ≠ [] := by
      rintro rfl
      obtain rfl := Option.some.inj found
      exact not_root routes.rootId
    have same : root.takenAt place = RoutePath.split i.path := by
      rw [← every (place, n.value) (Tree.mem_positions_iff.mpr ⟨n, found, rfl⟩),
        ← routes.split_listed found, path]
    obtain ⟨q, first⟩ := routes.exists_firstBelow below found
    obtain ⟨n', here⟩ := Option.isSome_iff_exists.mp first.accepts.present
    rw [same] at first
    exact routes.matchedAsListed_of_firstBelow first
      (every (q, n'.value) (Tree.mem_positions_iff.mpr ⟨n', here, rfl⟩))

/-- Patterns without a slash in front are listed one after the other. -/
theorem foldl_listedBelow {chain : List RouteFields}
    (plain : ∀ r ∈ chain, r.pattern.toList.head? ≠ some '/') (above : List String) :
    chain.foldl RouteFields.listedBelow above = above ++ chain.flatMap RouteFields.ownSegments := by
  induction chain generalizing above with
  | nil => exact (List.append_nil above).symm
  | cons r rest ih =>
    obtain ⟨first, more⟩ := List.forall_mem_cons.mp plain
    rw [List.foldl_cons, ih more, List.flatMap_cons, RouteFields.listedBelow,
      if_neg fun both => first both.2, List.append_assoc]

/-- Where the root has no segments and no pattern has a slash in front, what is listed is what is
taken. -/
theorem listedAt_eq_takenAt (bare : root.value.ownSegments = [])
    (plain : ∀ m ∈ root.walk, m.value.pattern.toList.head? ≠ some '/')
    (found : root.at? place = some n) : root.listedAt place = root.takenAt place := by
  have whole : root.along place = root.value :: (root.along place).tail := by
    cases place <;> rfl
  have every : ∀ r ∈ root.along place, r.pattern.toList.head? ≠ some '/' := by
    intro r mem
    obtain ⟨m, met, rfl⟩ := (Tree.exists_mem_walk_of_mem_along found).1 r mem
    exact plain m met
  rw [listedAt, foldl_listedBelow every, List.nil_append, takenAt, whole, List.flatMap_cons, bare,
    List.nil_append, List.tail_cons]

end FixedRoutes

/-- The pages of a team, some of them in a frame without a path. -/
def teamPages : RouteNode :=
  .node { id := RouteFields.rootId } [
    .node { id := "team", segment := some "team//" } [
      .node { id := "overview", index := true } [],
      .node { id := "frame" } [
        .node { id := "billing", segment := some "settings/billing" } []]]]

theorem billing_matchedAsListed :
    teamPages.MatchedAsListed ⟨"billing", "/team///settings/billing", 3, "settings/billing"⟩ := by
  have routes : teamPages.FixedRoutes :=
    ⟨rfl, by decide, by decide, by decide⟩
  refine (matchedAsListed_iff routes (by decide)).2 fun p mem => ?_
  obtain ⟨n, found, -⟩ := Tree.mem_positions_iff.mp mem
  exact listedAt_eq_takenAt (by decide) (by decide) found

/-- A page for settings below users, with a slash in front of its pattern. -/
def userSettings : RouteNode :=
  .node { id := RouteFields.rootId } [
    .node { id := "users", segment := some "users" } [
      .node { id := "settings", segment := some "/settings" } []]]

/-- The page is listed under a path that no route matches; it is matched under another one. -/
theorem userSettings_unmatched :
    userSettings.FixedRoutes ∧
      (⟨"settings", "/settings", 2, "/settings"⟩ : RouteItem) ∈ userSettings.items "" 0 ∧
      userSettings.matchPath "/settings" false = none ∧
      (userSettings.matchPath "/users/settings" false).isSome ∧
      ¬ userSettings.MatchedAsListed ⟨"settings", "/settings", 2, "/settings"⟩ := by
  have ranked : userSettings.ranked = userSettings := by
    simp only [userSettings, ranked, rankedAll, rankSiblings_of_pairwise List.Pairwise.nil]
    rw [rankSiblings_of_pairwise (by decide), rankSiblings_of_pairwise (by decide)]
  have unmatched : userSettings.matchPath "/settings" false = none := by
    rw [matchPath, ranked]
    decide
  refine ⟨⟨rfl, by decide, by decide, by decide⟩, by decide,
    unmatched, ?_, ?_⟩
  · rw [matchPath, ranked]
    decide
  · rintro ⟨m, -, -, found, -⟩
    cases unmatched.symm.trans found

end RouteNode

end ViewDoc
