import ViewDoc.Proofs.Route.FirstMatch
import ViewDoc.Proofs.Route.Written
/-!
Which prefix of a path a loose match takes. Where no chain accepts the whole path, the search goes
down at every level the sibling that is tried first among those with a chain that takes something.
The main statements are that a chain which takes more than the match turns off from it to a sibling
that is tried later, and that a loose match always exists and is the strict match if there is one.
-/

set_option autoImplicit false

namespace ViewDoc

namespace RoutePart

variable {parts more : List RoutePart} {segments : List String}

/-- Parts that cover a front of segments cover all of them with a wildcard behind. -/
theorem Covers.extended (covers : Covers parts segments) (rest : List String) :
    Covers (parts ++ [.wildcard]) (segments ++ rest) := by
  induction covers with
  | nil => exact .wildcard
  | literal _ ih => exact .literal ih
  | dynamic _ ih => exact .dynamic ih
  | wildcard => exact .wildcard

theorem Covers.of_wildcard_mem (covers : Covers parts segments)
    (wild : RoutePart.wildcard ∈ parts) (rest : List String) :
    Covers parts (segments ++ rest) := by
  induction covers with
  | nil => cases wild
  | literal _ ih => exact .literal (ih (by simpa using wild))
  | dynamic _ ih => exact .dynamic (ih (by simpa using wild))
  | wildcard => exact .wildcard

/-- Behind parts that take `m` segments, the rest covers what follows these. -/
theorem covers_append_take_iff (tame : RoutePart.wildcard ∉ parts) {m n : Nat}
    (front : Covers parts (segments.take m)) (below : m ≤ segments.length)
    (short : n ≤ segments.length) :
    Covers (parts ++ more) (segments.take n) ↔
      m ≤ n ∧ Covers more ((segments.drop m).take (n - m)) := by
  have size : parts.length = m := by
    rw [front.length_eq tame, List.length_take_of_le below]
  constructor
  · intro covers
    rcases take_of_wildcard_not_mem tame (segments.take n) [] with
      ⟨fits, splits, -, -⟩ | ⟨fails, -⟩
    · rw [size, List.length_take_of_le short] at fits
      refine ⟨fits, ?_⟩
      rw [← List.drop_take, ← size]
      exact (splits more).mp covers
    · exact absurd covers (fails more)
  · rintro ⟨fits, later⟩
    have whole : segments.take n = segments.take m ++ (segments.drop m).take (n - m) := by
      rw [← List.take_add, Nat.add_sub_cancel' fits]
    rw [whole]
    exact covers_append front tame later

end RoutePart

namespace RouteNode

open RouteFields (ownParts)

/-- The chain from a route down to a place takes a number of segments from the front: it accepts
these, and there is no index route in it. -/
structure TakesAt (t : RouteNode) (segments : List String) (place : List Nat) (n : Nat) : Prop where
  short : n ≤ segments.length
  plain : ∀ r ∈ t.along place, r.index = false
  accepts : t.AcceptsAt (segments.take n) place

/-- The chain below a root, from a child of it down to a place, takes a number of segments. -/
structure TakesBelow (root : RouteNode) (segments : List String) (place : List Nat) (n : Nat) :
    Prop where
  short : n ≤ segments.length
  plain : ∀ r ∈ (root.along place).tail, r.index = false
  accepts : root.AcceptsBelow (segments.take n) place

/-- On the way to the first place, the way to the second turns off to a sibling tried later. -/
inductive TurnsOffLater : RouteNode -> List Nat -> List Nat -> Prop where
  | sibling {t c d : RouteNode} {i j : Nat} {place other : List Nat} :
      t.children[i]? = some c -> t.children[j]? = some d -> i ≠ j ->
      c.value.TriedBefore i d.value j -> TurnsOffLater t (i :: place) (j :: other)
  | within {t c : RouteNode} {i : Nat} {place other : List Nat} : t.children[i]? = some c ->
      TurnsOffLater c place other -> TurnsOffLater t (i :: place) (i :: other)

section Takes

variable {r : RouteFields} {cs : List RouteNode} {segments : List String} {m n : Nat}

theorem along_cons {i : Nat} {c : RouteNode} (at_i : cs[i]? = some c) (place : List Nat) :
    Tree.along (.node r cs) (i :: place) = r :: c.along place := by
  simp [Tree.along, Tree.value, Tree.children, at_i]

theorem takesAt_nil_iff :
    TakesAt (.node r cs) segments [] n ↔
      n ≤ segments.length ∧ r.index = false ∧ RoutePart.Covers r.parts (segments.take n) := by
  constructor
  · rintro ⟨short, plain, accepts⟩
    have own : r.index = false := plain r List.mem_cons_self
    have covers := (acceptsAt_nil_iff r cs _).mp accepts
    rw [ownParts, if_neg (by simp [own])] at covers
    exact ⟨short, own, covers⟩
  · rintro ⟨short, own, covers⟩
    refine ⟨short, List.forall_mem_singleton.mpr own, (acceptsAt_nil_iff r cs _).mpr ?_⟩
    rwa [ownParts, if_neg (by simp [own])]

/-- Below a route that takes `m` segments a chain takes what its rest takes of those that follow. -/
theorem takesAt_cons_iff (opens : r.Opens) (below : m ≤ segments.length)
    (front : RoutePart.Covers r.parts (segments.take m)) (i : Nat) (place : List Nat) :
    TakesAt (.node r cs) segments (i :: place) n ↔
      ∃ c k, cs[i]? = some c ∧ n = m + k ∧ c.TakesAt (segments.drop m) place k := by
  constructor
  · rintro ⟨short, plain, accepts⟩
    obtain ⟨-, c, at_i, present, later, covers⟩ := (acceptsAt_cons_iff r cs _ i place).mp accepts
    rw [along_cons at_i] at plain
    obtain ⟨fits, rest⟩ := (RoutePart.covers_append_take_iff opens.2 front below short).mp covers
    refine ⟨c, n - m, at_i, by omega, ⟨?_, ?_, present, later, rest⟩⟩
    · rw [List.length_drop]
      omega
    · exact fun q mem => plain q (List.mem_cons_of_mem r mem)
  · rintro ⟨c, k, at_i, rfl, short, plain, present, later, covers⟩
    rw [List.length_drop] at short
    have whole : m + k ≤ segments.length := by omega
    refine ⟨whole, ?_, ?_⟩
    · rw [along_cons at_i]
      exact List.forall_mem_cons.mpr ⟨opens.1, plain⟩
    · refine (acceptsAt_cons_iff r cs _ i place).mpr ⟨opens, c, at_i, present, later, ?_⟩
      refine (RoutePart.covers_append_take_iff opens.2 front below whole).mpr ⟨by omega, ?_⟩
      rwa [Nat.add_sub_cancel_left]

theorem eq_of_takesAt_nil (opens : r.Opens) (below : m ≤ segments.length)
    (front : RoutePart.Covers r.parts (segments.take m))
    (takes : TakesAt (.node r cs) segments [] n) : n = m := by
  obtain ⟨short, -, covers⟩ := takesAt_nil_iff.mp takes
  have size : r.parts.length = n := by
    rw [covers.length_eq opens.2, List.length_take_of_le short]
  rw [← size, front.length_eq opens.2, List.length_take_of_le below]

/-- A route whose parts take nothing from the front has no chain that does. -/
theorem not_takesAt_of_fails {params : RouteParams}
    (fails : RoutePart.take r.parts segments params = none) (place : List Nat) :
    ¬ TakesAt (.node r cs) segments place n := by
  intro takes
  have whole : segments.take n ++ segments.drop n = segments := List.take_append_drop n segments
  -- with a wildcard behind its parts, the chain would cover all segments
  by_cases wild : RoutePart.wildcard ∈ r.parts
  · have uncovered : ¬ RoutePart.Covers r.parts segments := by
      rcases RoutePart.take_of_wildcard_mem wild segments params with ⟨-, done⟩ | ⟨uncovered, -⟩
      · rw [fails] at done
        cases done
      · exact uncovered
    cases place with
    | nil =>
      have covers := (takesAt_nil_iff.mp takes).2.2.of_wildcard_mem wild (segments.drop n)
      rw [whole] at covers
      exact uncovered covers
    | cons i place =>
      exact not_acceptsAt_cons (fun opens => opens.2 wild) cs _ i place takes.accepts
  · have uncovered : ∀ more, ¬ RoutePart.Covers (r.parts ++ more) segments := by
      rcases RoutePart.take_of_wildcard_not_mem wild segments params with
        ⟨-, -, -, done⟩ | ⟨uncovered, -⟩
      · rw [fails] at done
        cases done
      · exact uncovered
    cases place with
    | nil =>
      have covers := (takesAt_nil_iff.mp takes).2.2.extended (segments.drop n)
      rw [whole] at covers
      exact uncovered _ covers
    | cons i place =>
      obtain ⟨-, c, -, -, -, covers⟩ := (acceptsAt_cons_iff r cs _ i place).mp takes.accepts
      have extended := covers.extended (segments.drop n)
      rw [whole, List.append_assoc] at extended
      exact uncovered _ extended

end Takes

/-- A place to which a loose search leads, with the number of segments that are taken on the way.
Chains that take more turn off to siblings tried later, and there are none when nothing is taken. -/
structure Leads (t : RouteNode) (segments : List String) (place : List Nat) (n : Nat) : Prop where
  takes : t.TakesAt segments place n
  most : ∀ other k, t.TakesAt segments other k -> k ≤ n ∨ t.TurnsOffLater place other
  nothing : n = 0 -> ∀ other k, t.TakesAt segments other k -> k = 0

/-- What a loose search from a route down has to find. -/
inductive FindsPrefix (t : RouteNode) (segments : List String) : Option RouteTrail -> Prop where
  | nothing : (∀ place n, ¬ t.TakesAt segments place n) -> FindsPrefix t segments none
  | leads {place : List Nat} {trail : RouteTrail} : trail.routes = t.along place ->
      t.Leads segments place trail.count -> FindsPrefix t segments (some trail)

/-- What a loose search through siblings has to find: the way down from the first one with a chain
that takes something. -/
inductive FindsPrefixAmong (cs : List RouteNode) (segments : List String) :
    Option RouteTrail -> Prop where
  | nothing : (∀ c ∈ cs, ∀ place n, TakesAt c segments place n -> n = 0) ->
      FindsPrefixAmong cs segments none
  | leads {i : Nat} {c : RouteNode} {place : List Nat} {trail : RouteTrail} : cs[i]? = some c ->
      trail.routes = c.along place -> c.Leads segments place trail.count -> 0 < trail.count ->
      (∀ (j : Nat) (d : RouteNode) (other : List Nat) (n : Nat), cs[j]? = some d ->
        d.TakesAt segments other n -> 0 < n -> j ≠ i -> c.value.TriedBefore i d.value j) ->
      FindsPrefixAmong cs segments (some trail)

/-- Where no sibling takes everything, a loose search takes the first that takes something. -/
theorem matchChildren_loose {segments : List String} {params : RouteParams} {rs : List RouteNode}
    (fails : ∀ r ∈ rs, matchNode false segments params r = none) :
    matchChildren true none segments params rs =
      rs.findSome? fun r =>
        (matchNode true segments params r).filter fun t => decide (0 < t.count) := by
  have kept (trail : RouteTrail) (rest : List RouteNode)
      (fails : ∀ r ∈ rest, matchNode false segments params r = none) :
      matchChildren true (some trail) segments params rest = some trail := by
    induction rest with
    | nil => simp [matchChildren]
    | cons r rest ih =>
      obtain ⟨first, later⟩ := List.forall_mem_cons.mp fails
      rw [matchChildren, first]
      exact ih later
  induction rs with
  | nil => simp [matchChildren]
  | cons r rs ih =>
    obtain ⟨first, later⟩ := List.forall_mem_cons.mp fails
    rw [matchChildren, first, List.findSome?_cons]
    cases taken : (matchNode true segments params r).filter fun t => decide (0 < t.count) with
    | none => simpa [taken] using ih later
    | some trail => simpa [taken] using kept trail rs later

theorem matchNode_eq_none {t : RouteNode} {segments : List String}
    (unaccepted : ∀ place, ¬ t.AcceptsAt segments place) (params : RouteParams) :
    matchNode false segments params (ranked t) = none := by
  have search := matchNode_finds t segments params
  cases found : matchNode false segments params (ranked t) with
  | none => rfl
  | some trail =>
    rw [found] at search
    cases search with
    | first first => exact absurd first.accepts (unaccepted _)

/-- Where a search gives nothing, or takes nothing, there is no chain that takes something. -/
theorem FindsPrefix.eq_zero_of_filter {t : RouteNode} {segments : List String}
    {result : Option RouteTrail} (finds : t.FindsPrefix segments result)
    (fails : (result.filter fun trail => decide (0 < trail.count)) = none)
    {place : List Nat} {n : Nat} (takes : t.TakesAt segments place n) : n = 0 := by
  cases finds with
  | nothing none_takes => exact absurd takes (none_takes place n)
  | @leads found trail _ leads =>
    have none_taken : trail.count = 0 := by simpa using fails
    exact leads.nothing none_taken place n takes

theorem findsPrefixAmong_of_finds {cs : List RouteNode} {segments : List String}
    {params : RouteParams} (unaccepted : ∀ c ∈ cs, ∀ place, ¬ AcceptsAt c segments place)
    (finds : ∀ c ∈ cs, c.FindsPrefix segments (matchNode true segments params (ranked c))) :
    FindsPrefixAmong cs segments
      (matchChildren true none segments params (rankSiblings (rankedAll cs))) := by
  rw [rankSiblings_rankedAll, matchChildren_loose, List.findSome?_map]
  · cases found : (rankSiblings cs).findSome? ((fun r => (matchNode true segments params r).filter
        fun t => decide (0 < t.count)) ∘ ranked) with
    | none =>
      refine .nothing ?_
      intro c mem place n takes
      have fails := (findSome?_rankSiblings_eq_none_iff _ cs).mp found c mem
      exact (finds c mem).eq_zero_of_filter fails takes
    | some trail =>
      obtain ⟨i, c, at_i, hit, others⟩ := exists_of_findSome?_rankSiblings found
      have here := finds c (List.mem_of_getElem? at_i)
      rw [Function.comp_apply] at hit
      obtain ⟨result, something⟩ := Option.filter_eq_some_iff.mp hit
      rw [result] at here
      cases here with
      | leads chain leads =>
        refine .leads at_i chain leads (by simpa using something) ?_
        intro j d other n at_j takes some_taken different
        refine others j d at_j ?_ different
        intro fails
        have none_taken : n = 0 :=
          (finds d (List.mem_of_getElem? at_j)).eq_zero_of_filter fails takes
        omega
  · intro r mem
    obtain ⟨c, among, rfl⟩ := List.mem_map.mp mem
    have child : c ∈ cs := by simpa [rankSiblings] using among
    exact matchNode_eq_none (unaccepted c child) params

/-- A loose match of a route that may go on below goes on where something is taken, and else ends. -/
theorem matchNode_loose_of_opens {r : RouteFields} (opens : r.Opens) {segments : List String}
    {params below : RouteParams} {n : Nat}
    (taken : RoutePart.take r.parts segments params = some ⟨n, false, below⟩)
    (rs : List RouteNode) :
    matchNode true segments params (.node r rs) =
      match matchChildren true none (segments.drop n) below rs with
      | some trail => some ⟨r :: trail.routes, n + trail.count, trail.params⟩
      | none => some ⟨[r], n, below⟩ := by
  rw [matchNode, if_neg (by simp [opens.1]), taken]
  cases rs with
  | nil => simp [matchChildren]
  | cons c rs =>
    cases inside : matchChildren true none (segments.drop n) _ (c :: rs) <;> simp [inside]

/-- What a chain takes below the children of a route is no more than the search takes there, or it
turns off to a child that is tried later. -/
theorem le_or_turnsOffLater {t c d : RouteNode} {segments : List String} {i j : Nat}
    {place other : List Nat} {n k : Nat} (at_i : t.children[i]? = some c)
    (leads : c.Leads segments place n)
    (first : ∀ (j : Nat) (d : RouteNode) (other : List Nat) (k : Nat), t.children[j]? = some d ->
      d.TakesAt segments other k -> 0 < k -> j ≠ i -> c.value.TriedBefore i d.value j)
    (at_j : t.children[j]? = some d) (takes : d.TakesAt segments other k) :
    k ≤ n ∨ t.TurnsOffLater (i :: place) (j :: other) := by
  by_cases same : j = i
  · subst same
    obtain rfl : c = d := Option.some.inj (at_i.symm.trans at_j)
    exact (leads.most other k takes).imp_right (.within at_i)
  · rcases Nat.eq_zero_or_pos k with rfl | positive
    · exact .inl (Nat.zero_le n)
    · exact .inr (.sibling at_i at_j (Ne.symm same) (first j d other k at_j takes positive same))

section Below

variable {r : RouteFields} {cs : List RouteNode} {segments : List String} {m : Nat}

theorem leads_here (opens : r.Opens) (below : m ≤ segments.length)
    (front : RoutePart.Covers r.parts (segments.take m))
    (idle : ∀ c ∈ cs, ∀ place n, TakesAt c (segments.drop m) place n -> n = 0) :
    Leads (.node r cs) segments [] m := by
  have all (other : List Nat) (k : Nat) (takes : TakesAt (.node r cs) segments other k) :
      k = m := by
    cases other with
    | nil => exact eq_of_takesAt_nil opens below front takes
    | cons j other =>
      obtain ⟨d, k, at_j, rfl, rest⟩ := (takesAt_cons_iff opens below front j other).mp takes
      rw [idle d (List.mem_of_getElem? at_j) other k rest, Nat.add_zero]
  refine ⟨takesAt_nil_iff.mpr ⟨below, opens.1, front⟩, ?_, ?_⟩
  · exact fun other k takes => .inl (Nat.le_of_eq (all other k takes))
  · exact fun zero other k takes => (all other k takes).trans zero

/-- The search goes on below a route to where it leads from the first child that takes something. -/
theorem leads_below (opens : r.Opens) (below : m ≤ segments.length)
    (front : RoutePart.Covers r.parts (segments.take m)) {i : Nat} {c : RouteNode}
    {place : List Nat} {n : Nat} (at_i : cs[i]? = some c)
    (leads : c.Leads (segments.drop m) place n) (something : 0 < n)
    (first : ∀ (j : Nat) (d : RouteNode) (other : List Nat) (k : Nat), cs[j]? = some d ->
      d.TakesAt (segments.drop m) other k -> 0 < k -> j ≠ i -> c.value.TriedBefore i d.value j) :
    Leads (.node r cs) segments (i :: place) (m + n) := by
  refine ⟨?_, ?_, fun zero => by omega⟩
  · exact (takesAt_cons_iff opens below front i place).mpr ⟨c, n, at_i, rfl, leads.takes⟩
  · intro other k takes
    cases other with
    | nil =>
      have own : k = m := eq_of_takesAt_nil opens below front takes
      exact .inl (by omega)
    | cons j other =>
      obtain ⟨d, k, at_j, rfl, rest⟩ := (takesAt_cons_iff opens below front j other).mp takes
      have bound := le_or_turnsOffLater (t := .node r cs) at_i leads first at_j rest
      exact bound.imp_left (Nat.add_le_add_left · m)

theorem findsPrefix_of_among (opens : r.Opens) (below : m ≤ segments.length)
    (front : RoutePart.Covers r.parts (segments.take m)) (rest : Option RouteTrail)
    (params : RouteParams) : FindsPrefixAmong cs (segments.drop m) rest ->
      FindsPrefix (.node r cs) segments
        (match rest with
        | some trail => some ⟨r :: trail.routes, m + trail.count, trail.params⟩
        | none => some ⟨[r], m, params⟩) := by
  intro search
  cases search with
  | nothing idle => exact .leads rfl (leads_here opens below front idle)
  | @leads i c place trail at_i chain leads something first =>
    refine .leads ?_ (leads_below opens below front at_i leads something first)
    rw [along_cons at_i, chain]

/-- An index route is no part of a chain that takes something, and a match only at the end. -/
theorem findsPrefix_of_index (index : r.index = true)
    (unaccepted : ¬ AcceptsAt (.node r cs) segments []) (params : RouteParams)
    (rs : List RouteNode) :
    FindsPrefix (.node r cs) segments (matchNode true segments params (.node r rs)) := by
  have some_left : segments ≠ [] := by
    rintro rfl
    refine unaccepted ((acceptsAt_nil_iff r cs []).mpr ?_)
    rw [ownParts, if_pos index]
    exact .nil
  rw [matchNode, if_pos index, if_neg (by simpa using some_left)]
  refine .nothing fun place n takes => ?_
  have plain : r.index = false := takes.plain r (by cases place <;> exact List.mem_cons_self)
  exact Bool.noConfusion (index.symm.trans plain)

theorem findsPrefix_of_opens (opens : r.Opens)
    (unaccepted : ∀ place, ¬ AcceptsAt (.node r cs) segments place) (params : RouteParams)
    (finds : ∀ c ∈ cs, ∀ segments, (∀ place, ¬ AcceptsAt c segments place) -> ∀ params,
      FindsPrefix c segments (matchNode true segments params (ranked c))) :
    FindsPrefix (.node r cs) segments
      (matchNode true segments params (.node r (rankSiblings (rankedAll cs)))) := by
  rcases RoutePart.take_of_wildcard_not_mem opens.2 segments params with
    ⟨below, covers, -, done⟩ | ⟨-, fails⟩
  · obtain ⟨-, front, -⟩ := RoutePart.take_eq_some done
    dsimp only at front
    have unaccepted_below (c : RouteNode) (mem : c ∈ cs) (place : List Nat) :
        ¬ c.AcceptsAt (segments.drop r.parts.length) place := by
      intro accepts
      obtain ⟨i, at_i⟩ := List.mem_iff_getElem?.mp mem
      exact unaccepted (i :: place)
        ((acceptsAt_cons_of_covers opens covers cs i place).mpr ⟨c, at_i, accepts⟩)
    have search := findsPrefixAmong_of_finds unaccepted_below fun c mem =>
      finds c mem _ (unaccepted_below c mem)
        (Entries.merge params (RoutePart.captures r.parts segments))
    rw [matchNode_loose_of_opens opens done]
    exact findsPrefix_of_among opens below front _ _ search
  · rw [matchNode, if_neg (by simp [opens.1]), fails]
    exact .nothing fun place n => not_takesAt_of_fails fails place

end Below

/-- Where no chain from a route down accepts everything, a loose search finds what it has to. -/
theorem matchNode_findsPrefix (t : RouteNode) (segments : List String)
    (unaccepted : ∀ place, ¬ t.AcceptsAt segments place) (params : RouteParams) :
    t.FindsPrefix segments (matchNode true segments params (ranked t)) := by
  induction t using Tree.induct generalizing segments params with
  | node r cs ih =>
    rw [ranked]
    by_cases index : r.index = true
    · exact findsPrefix_of_index index (unaccepted []) params _
    · have plain : r.index = false := by simpa using index
      by_cases wild : RoutePart.wildcard ∈ r.parts
      · -- A wildcard would take everything, so that the route would accept.
        rcases RoutePart.take_of_wildcard_mem wild segments params with ⟨covers, -⟩ | ⟨-, fails⟩
        · refine absurd ((acceptsAt_nil_iff r cs segments).mpr ?_) (unaccepted [])
          rwa [ownParts, if_neg index]
        · rw [matchNode, if_neg index, fails]
          exact .nothing fun place n => not_takesAt_of_fails fails place
      · exact findsPrefix_of_opens ⟨plain, wild⟩ unaccepted params ih

theorem takesBelow_cons_iff (root : RouteNode) {segments : List String} {n : Nat} (i : Nat)
    (place : List Nat) :
    root.TakesBelow segments (i :: place) n ↔
      ∃ c, root.children[i]? = some c ∧ TakesAt c segments place n := by
  constructor
  · rintro ⟨short, plain, accepts⟩
    obtain ⟨c, at_i, there⟩ := (acceptsBelow_cons_iff root _ i place).mp accepts
    refine ⟨c, at_i, short, ?_, there⟩
    simpa [Tree.along, at_i] using plain
  · rintro ⟨c, at_i, short, plain, there⟩
    refine ⟨short, ?_, (acceptsBelow_cons_iff root _ i place).mpr ⟨c, at_i, there⟩⟩
    simpa [Tree.along, at_i] using plain

theorem not_takesBelow_nil (root : RouteNode) {segments : List String} {n : Nat} :
    ¬ root.TakesBelow segments [] n :=
  fun takes => takes.accepts.below rfl

/-- Where a strict match fails, a loose one is the chain from the root down to some place, with what
this chain takes of the path. Every chain below the root that takes more turns off on the way to
this place, to a sibling that is tried later. -/
theorem matchPath_loose_leads {root : RouteNode} {path : String}
    (unmatched : root.matchPath path false = none) :
    ∃ place m, root.matchPath path true = some m ∧ m.chain = root.along place ∧
      m.matched ++ m.remainder = RoutePath.split path ∧
      (place = [] ∧ m.matched = [] ∨
        root.TakesBelow (RoutePath.split path) place m.matched.length) ∧
      ∀ other n, root.TakesBelow (RoutePath.split path) other n ->
        n ≤ m.matched.length ∨ root.TurnsOffLater place other := by
  have unaccepted : ∀ place, ¬ root.AcceptsBelow (RoutePath.split path) place := by
    rcases matchChildren_root_cases root (RoutePath.split path) with
      ⟨-, unaccepted⟩ | ⟨place, -, found⟩
    · exact unaccepted
    · rw [matchPath, found] at unmatched
      cases unmatched
  obtain ⟨r, cs⟩ := root
  have unaccepted_child (c : RouteNode) (mem : c ∈ cs) (place : List Nat) :
      ¬ c.AcceptsAt (RoutePath.split path) place := by
    intro accepts
    obtain ⟨i, at_i⟩ := List.mem_iff_getElem?.mp mem
    exact unaccepted (i :: place) ((acceptsBelow_cons_iff _ _ i place).mpr ⟨c, at_i, accepts⟩)
  have search := findsPrefixAmong_of_finds unaccepted_child fun c mem =>
    matchNode_findsPrefix c _ (unaccepted_child c mem) []
  have children : (ranked (.node r cs)).children = rankSiblings (rankedAll cs) := by
    simp [ranked, Tree.children]
  rw [matchPath, children]
  generalize matchChildren true none (RoutePath.split path) [] (rankSiblings (rankedAll cs)) = found
    at search ⊢
  cases search with
  | nothing idle =>
    refine ⟨[], { chain := [r], remainder := RoutePath.split path }, by simp [Tree.value], rfl,
      by simp, .inl ⟨rfl, rfl⟩, fun other n takes => .inl ?_⟩
    cases other with
    | nil => exact absurd takes (not_takesBelow_nil _)
    | cons j other =>
      obtain ⟨c, at_j, there⟩ := (takesBelow_cons_iff _ j other).mp takes
      exact Nat.le_of_eq (idle c (List.mem_of_getElem? at_j) other n there)
  | @leads i c place trail at_i chain leads something first =>
    have length : ((RoutePath.split path).take trail.count).length = trail.count :=
      List.length_take_of_le leads.takes.short
    refine ⟨i :: place, _, rfl, ?_, List.take_append_drop _ _, .inr ?_, ?_⟩
    · rw [along_cons at_i, chain, Tree.value]
    · rw [length]
      exact (takesBelow_cons_iff _ i place).mpr ⟨c, at_i, leads.takes⟩
    · intro other n takes
      rw [length]
      cases other with
      | nil => exact absurd takes (not_takesBelow_nil _)
      | cons j other =>
        obtain ⟨d, at_j, there⟩ := (takesBelow_cons_iff _ j other).mp takes
        exact le_or_turnsOffLater at_i leads first at_j there

/-- Two shelves. The first one takes less of some paths than the second, and is tried before it. -/
def shelves : RouteNode :=
  .node { id := RouteFields.rootId } [
    .node { id := "a", segment := some "a" } [],
    .node { id := "b", segment := some ":x/b" } []]

theorem ranked_shelves : shelves.ranked = shelves := by
  simp only [shelves, ranked, rankedAll, rankSiblings_of_pairwise List.Pairwise.nil]
  rw [rankSiblings_of_pairwise (by decide)]

theorem matchPath_shelves : shelves.matchPath "/a/b/c" false = none := by
  rw [matchPath, ranked_shelves]
  decide

theorem loose_matchPath_shelves : shelves.matchPath "/a/b/c" true = some
    { chain := [shelves.value, { id := "a", segment := some "a" }],
      matched := ["a"], remainder := ["b", "c"] } := by
  rw [matchPath, ranked_shelves]
  decide

theorem shelves_leads :
    ∃ place, shelves.along place = [shelves.value, { id := "a", segment := some "a" }] ∧
      ∀ other n, shelves.TakesBelow (RoutePath.split "/a/b/c") other n ->
        n ≤ 1 ∨ shelves.TurnsOffLater place other := by
  obtain ⟨place, m, found, chain, -, -, most⟩ := matchPath_loose_leads matchPath_shelves
  obtain rfl := Option.some.inj (loose_matchPath_shelves.symm.trans found)
  exact ⟨place, chain.symm, most⟩

/-- A loose match need not be the longest: here the second shelf takes two segments of the path. -/
theorem shelves_not_longest :
    shelves.matchPath "/a/b/c" false = none ∧
      (shelves.matchPath "/a/b/c" true).map (fun m => m.matched) = some ["a"] ∧
      shelves.TakesBelow (RoutePath.split "/a/b/c") [1] 2 := by
  refine ⟨matchPath_shelves, by rw [loose_matchPath_shelves, Option.map_some], ?_⟩
  have split : RoutePath.split "/a/b/c" = ["a", "b", "c"] := by decide +kernel
  have parts : RouteFields.parts { id := "b", segment := some ":x/b" } =
      [.dynamic "x", .literal "b"] := by decide +kernel
  rw [split]
  refine (takesBelow_cons_iff shelves 1 []).mpr ⟨_, rfl, ?_⟩
  refine takesAt_nil_iff.mpr ⟨Nat.le_add_right 2 1, rfl, ?_⟩
  rw [parts]
  exact .dynamic (.literal .nil)

end RouteNode

namespace RouteNode

variable {segments : List String} {params : RouteParams} {rs : List RouteNode} {trail : RouteTrail}

/-- What a strict search through siblings finds is found by every search through them, whatever
stands in already. -/
theorem matchChildren_of_strict
    (found : matchChildren false none segments params rs = some trail) (loose : Bool)
    (standIn : Option RouteTrail) :
    matchChildren loose standIn segments params rs = some trail := by
  induction rs generalizing standIn with
  | nil => cases found
  | cons r rs ih =>
    rw [matchChildren] at found ⊢
    cases strict : matchNode false segments params r with
    | some whole =>
      rw [strict] at found
      exact found
    | none =>
      rw [strict] at found
      have later : matchChildren false none segments params rs = some trail := found
      dsimp only
      split
      · exact ih later _
      · exact ih later _

/-- Where no segments are left every trail takes everything, so that none stands in for another. -/
theorem matchChildren_loose_nil (params : RouteParams) (rs : List RouteNode) :
    matchChildren true none [] params rs = matchChildren false none [] params rs := by
  cases strict : matchChildren false none [] params rs with
  | some trail => exact matchChildren_of_strict strict true none
  | none =>
    rw [matchChildren_strict] at strict
    have fails := List.findSome?_eq_none_iff.mp strict
    rw [matchChildren_loose fails, List.findSome?_eq_none_iff]
    intro r _
    refine Option.filter_eq_none_iff.mpr fun candidate found => ?_
    have short : candidate.count ≤ 0 := (matchNode_gives r found).1.short
    simpa using short

/-- There is a loose match for every path, and it is the strict match where there is one. -/
theorem matchPath_loose_extends (root : RouteNode) (path : String) :
    ∃ m, root.matchPath path true = some m ∧
      ∀ strict, root.matchPath path false = some strict -> strict = m := by
  have total : root.matchPath path true ≠ none := by
    rw [matchPath]
    split <;> simp
  obtain ⟨m, loose⟩ := Option.ne_none_iff_exists'.mp total
  refine ⟨m, loose, fun strict whole => ?_⟩
  rw [matchPath] at loose whole
  cases found : matchChildren false none (RoutePath.split path) [] root.ranked.children with
  | some trail =>
    rw [found] at whole
    rw [matchChildren_of_strict found true none] at loose
    exact Option.some.inj (whole.symm.trans loose)
  | none =>
    rw [found] at whole
    dsimp only at whole
    split at whole
    · cases whole
    · -- the root is the strict match by itself, so that no segments are left
      rename_i done
      have nothing : RoutePath.split path = [] := by simpa using done
      rw [nothing] at found loose whole
      rw [matchChildren_loose_nil, found] at loose
      exact Option.some.inj (whole.symm.trans loose)

/-- The listing takes a front of this path and is tried before the file, which takes all of it. -/
theorem userFile_extends :
    userFiles.matchPath "/ada/docs/list/1/2" false = some userFile ∧
      userFiles.matchPath "/ada/docs/list/1/2" true = some userFile := by
  obtain ⟨m, loose, same⟩ := matchPath_loose_extends userFiles "/ada/docs/list/1/2"
  obtain rfl := same userFile matchPath_userFiles
  exact ⟨matchPath_userFiles, loose⟩

end RouteNode

end ViewDoc
