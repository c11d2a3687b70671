import Mathlib.Tactic.ByContra
import Mathlib.Tactic.MkIffOfInductiveProp
import ViewDoc.Route.Match
/-!
The order in which siblings are tried: index routes first, then routes with parts by the kinds of
these from left to right, then the others, and in declared order where that decides nothing. The
main statement is that the first ranked sibling on which a search succeeds goes before every other
one on which it would succeed.
-/

set_option autoImplicit false

namespace ViewDoc

/-- Lists of parts by their kinds, from left to right: a fixed segment goes before a named one and
that before a wildcard, and a list goes before its extensions. -/
inductive KindsBefore : List RoutePart -> List RoutePart -> Prop where
  | nil {b : RoutePart} {bs : List RoutePart} : KindsBefore [] (b :: bs)
  | head {a b : RoutePart} {as bs : List RoutePart} :
      a.rank < b.rank -> KindsBefore (a :: as) (b :: bs)
  | tail {a b : RoutePart} {as bs : List RoutePart} :
      a.rank = b.rank -> KindsBefore as bs -> KindsBefore (a :: as) (b :: bs)

namespace RouteFields

/-- A route goes before another whatever their positions. -/
@[mk_iff]
inductive Precedes : RouteFields -> RouteFields -> Prop where
  | index {r q : RouteFields} : r.index = true -> q.index = false -> Precedes r q
  | kinds {r q : RouteFields} : r.index = false -> q.index = false ->
      r.parts ≠ [] -> q.parts ≠ [] -> KindsBefore r.parts q.parts -> Precedes r q
  | pathless {r q : RouteFields} : r.index = false -> q.index = false ->
      r.parts ≠ [] -> q.parts = [] -> Precedes r q

/-- A sibling at one position is tried before a sibling at another. -/
def TriedBefore (r : RouteFields) (i : Nat) (q : RouteFields) (j : Nat) : Prop :=
  r.Precedes q ∨ (¬ q.Precedes r ∧ i < j)

end RouteFields

theorem partRanksLe_iff (as bs : List RoutePart) :
    partRanksLe (as.map RoutePart.rank) (bs.map RoutePart.rank) = true ↔ ¬ KindsBefore bs as := by
  induction as generalizing bs with
  | nil =>
    simp only [List.map_nil, partRanksLe, true_iff]
    rintro ⟨⟩
  | cons a as ih =>
    cases bs with
    | nil =>
      simp only [List.map_cons, List.map_nil, partRanksLe, Bool.false_eq_true, false_iff, not_not]
      exact .nil
    | cons b bs =>
      simp only [List.map_cons, partRanksLe, Bool.or_eq_true, decide_eq_true_eq,
        Bool.and_eq_true, beq_iff_eq, ih]
      constructor
      · intro below earlier
        cases earlier with
        | head lower => omega
        | tail same later =>
          rcases below with higher | ⟨_, fails⟩
          · omega
          · exact fails later
      · intro fails
        rcases Nat.lt_trichotomy a.rank b.rank with lower | same | higher
        · exact .inl lower
        · exact .inr ⟨same, fun later => fails (.tail same.symm later)⟩
        · exact absurd (.head higher) fails

theorem partRanksLe_total (as bs : List Nat) : (partRanksLe as bs || partRanksLe bs as) = true := by
  induction as generalizing bs with
  | nil => simp [partRanksLe]
  | cons a as ih =>
    cases bs with
    | nil => simp [partRanksLe]
    | cons b bs =>
      have below := ih bs
      simp only [partRanksLe, Bool.or_eq_true, decide_eq_true_eq, Bool.and_eq_true,
        beq_iff_eq] at below ⊢
      rcases Nat.lt_trichotomy a b with lower | rfl | higher
      · exact .inl (.inl lower)
      · simpa using below
      · exact .inr (.inl higher)

theorem partRanksLe_trans (as bs cs : List Nat) (first : partRanksLe as bs = true)
    (second : partRanksLe bs cs = true) : partRanksLe as cs = true := by
  induction as generalizing bs cs with
  | nil => simp [partRanksLe]
  | cons a as ih =>
    cases bs with
    | nil => simp [partRanksLe] at first
    | cons b bs =>
      cases cs with
      | nil => simp [partRanksLe] at second
      | cons c cs =>
        simp only [partRanksLe, Bool.or_eq_true, decide_eq_true_eq, Bool.and_eq_true,
          beq_iff_eq] at first second ⊢
        rcases first with lower | ⟨same, first⟩ <;> rcases second with lower' | ⟨same', second⟩
        · exact .inl (by omega)
        · exact .inl (by omega)
        · exact .inl (by omega)
        · exact .inr ⟨by omega, ih bs cs first second⟩

theorem rankLe_total (a b : Nat × List Nat) : (rankLe a b || rankLe b a) = true := by
  have parts := partRanksLe_total a.2 b.2
  simp only [rankLe, Bool.or_eq_true, decide_eq_true_eq, Bool.and_eq_true, beq_iff_eq] at parts ⊢
  rcases Nat.lt_trichotomy a.1 b.1 with lower | same | higher
  · exact .inl (.inl lower)
  · simpa [same] using parts
  · exact .inr (.inl higher)

theorem rankLe_trans (a b c : Nat × List Nat) (first : rankLe a b = true)
    (second : rankLe b c = true) : rankLe a c = true := by
  simp only [rankLe, Bool.or_eq_true, decide_eq_true_eq, Bool.and_eq_true, beq_iff_eq]
    at first second ⊢
  rcases first with lower | ⟨same, first⟩ <;> rcases second with lower' | ⟨same', second⟩
  · exact .inl (by omega)
  · exact .inl (by omega)
  · exact .inl (by omega)
  · exact .inr ⟨by omega, partRanksLe_trans _ _ _ first second⟩

namespace RouteFields

/-- The rank of a route, by what the route is. -/
theorem rank_cases (r : RouteFields) :
    (r.index = true ∧ r.rank = (0, [])) ∨
      (r.index = false ∧ r.parts ≠ [] ∧ r.rank = (1, r.parts.map RoutePart.rank)) ∨
      (r.index = false ∧ r.parts = [] ∧ r.rank = (2, [])) := by
  cases index : r.index
  · by_cases parts : r.parts = [] <;> simp [rank, index, parts]
  · simp [rank, index]

/-- Ranks stand for the order of siblings. -/
theorem rankLe_iff (r q : RouteFields) : rankLe r.rank q.rank = true ↔ ¬ q.Precedes r := by
  rw [precedes_iff]
  rcases rank_cases r with ⟨ri, rr⟩ | ⟨ri, rp, rr⟩ | ⟨ri, rp, rr⟩ <;>
    rcases rank_cases q with ⟨qi, qr⟩ | ⟨qi, qp, qr⟩ | ⟨qi, qp, qr⟩ <;>
    simp_all [rankLe, partRanksLe, partRanksLe_iff]

theorem Precedes.asymm {r q : RouteFields} (before : r.Precedes q) : ¬ q.Precedes r := by
  have strict : rankLe q.rank r.rank ≠ true := fun le => (rankLe_iff q r).mp le before
  have total := rankLe_total r.rank q.rank
  exact (rankLe_iff r q).mp (by simpa [strict] using total)

theorem TriedBefore.asymm {r q : RouteFields} {i j : Nat} (before : r.TriedBefore i q j) :
    ¬ q.TriedBefore j r i := by
  rintro (first | ⟨fails, below⟩) <;> rcases before with first' | ⟨fails', below'⟩
  · exact first.asymm first'
  · exact fails' first
  · exact fails first'
  · omega

end RouteFields

namespace RouteNode

variable {β : Type}

/-- Siblings that stand by rank are left as they are. -/
theorem rankSiblings_of_pairwise {cs : List RouteNode}
    (sorted : cs.Pairwise fun a b => rankLe a.value.rank b.value.rank = true) :
    rankSiblings cs = cs :=
  List.mergeSort_of_pairwise sorted

/-- A search through ranked siblings fails when it fails on every one. -/
theorem findSome?_rankSiblings_eq_none_iff (f : RouteNode -> Option β) (cs : List RouteNode) :
    (rankSiblings cs).findSome? f = none ↔ ∀ c ∈ cs, f c = none := by
  simp [rankSiblings]

/-- A search through ranked siblings succeeds on the one that is tried before all others on which it
would succeed. -/
theorem exists_of_findSome?_rankSiblings {f : RouteNode -> Option β} {cs : List RouteNode} {b : β}
    (found : (rankSiblings cs).findSome? f = some b) :
    ∃ i c, cs[i]? = some c ∧ f c = some b ∧
      ∀ j d, cs[j]? = some d -> f d ≠ none -> j ≠ i -> c.value.TriedBefore i d.value j := by
  let le (c d : RouteNode) : Bool := rankLe c.value.rank d.value.rank
  have stable : rankSiblings cs = (cs.zipIdx.mergeSort (List.zipIdxLE le)).map (·.1) :=
    List.mergeSort_zipIdx.symm
  rw [stable, List.findSome?_map, List.findSome?_eq_some_iff] at found
  obtain ⟨before, ⟨c, i⟩, after, split, hit, fails⟩ := found
  have mem (d : RouteNode) (j : Nat) :
      (d, j) ∈ before ++ (c, i) :: after ↔ cs[j]? = some d := by
    rw [← split, List.mem_mergeSort, List.mk_mem_zipIdx_iff_getElem?]
  refine ⟨i, c, (mem c i).mp (by simp), hit, ?_⟩
  intro j d at_j succeeds other
  have sorted : (before ++ (c, i) :: after).Pairwise (fun a b => List.zipIdxLE le a b = true) := by
    rw [← split]
    exact List.pairwise_mergeSort
      (List.zipIdxLE_trans fun a b c => rankLe_trans a.value.rank b.value.rank c.value.rank)
      (List.zipIdxLE_total fun a b => rankLe_total a.value.rank b.value.rank) _
  have later : (d, j) ∈ after := by
    rcases List.mem_append.mp ((mem d j).mpr at_j) with early | late
    · exact absurd (fails (d, j) early) succeeds
    · rcases List.mem_cons.mp late with same | late
      · exact absurd (congrArg Prod.snd same) other
      · exact late
  have below := (List.pairwise_cons.mp (List.pairwise_append.mp sorted).2.1).1 (d, j) later
  obtain ⟨forth, back⟩ : rankLe c.value.rank d.value.rank = true ∧
      (rankLe d.value.rank c.value.rank = false ∨ i ≤ j) := by
    simpa [List.zipIdxLE, le] using below
  rcases back with strict | le_index
  · left
    by_contra fails
    rw [(RouteFields.rankLe_iff _ _).mpr fails] at strict
    exact Bool.noConfusion strict
  · right
    exact ⟨(RouteFields.rankLe_iff _ _).mp forth, by omega⟩

end RouteNode

end ViewDoc
