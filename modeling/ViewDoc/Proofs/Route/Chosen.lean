import ViewDoc.Proofs.Route.Weighed
/-!
Which child a selection gives. The main statements are that a selection is one of four kinds, each of
which fixes it, and for which paths a candidate that matches all of the path never loses against one
that leaves a remainder.
-/

set_option autoImplicit false

namespace ViewDoc

namespace RouteCandidate

/-- A candidate that competes by a path. -/
def Competes (c : RouteCandidate) (path : String) : Prop :=
  c.path = some path ∧ path ≠ "" ∧ c.index = false ∧ c.fallback = false

/-- An index candidate that is no fallback. -/
def IsIndex (c : RouteCandidate) : Prop :=
  c.index = true ∧ c.fallback = false

end RouteCandidate

namespace RouteSelection

theorem candidateMatch_eq_some_iff {current : String} {c : RouteCandidate} {m : ScoredMatch} :
    candidateMatch current c = some m ↔
      ∃ path, c.Competes path ∧ RouteScore.matchPath path current = some m := by
  obtain ⟨path, index, fallback⟩ := c
  rw [candidateMatch]
  constructor
  · intro found
    split at found
    · cases found
    · rename_i competes
      rw [Bool.not_eq_true, Bool.or_eq_false_iff] at competes
      obtain ⟨text, given, hit⟩ := Option.bind_eq_some_iff.mp found
      obtain ⟨given, written⟩ := Option.filter_eq_some_iff.mp given
      exact ⟨text, ⟨given, by simpa using written, competes.2, competes.1⟩, hit⟩
  · rintro ⟨text, ⟨rfl, written, rfl, rfl⟩, hit⟩
    simpa [Option.filter, written] using hit

/-- The best of some candidates: the first one with the highest score, if any matches. -/
inductive BestOf (current : String) (seen : List RouteCandidate) :
    Option (Nat × ScoredMatch) -> Prop where
  | nothing : (∀ c ∈ seen, candidateMatch current c = none) -> BestOf current seen none
  | first {i : Nat} {c : RouteCandidate} {m : ScoredMatch} : seen[i]? = some c ->
      candidateMatch current c = some m ->
      (∀ (j : Nat) (d : RouteCandidate) (n : ScoredMatch), seen[j]? = some d ->
        candidateMatch current d = some n -> j ≠ i ->
        n.score < m.score ∨ n.score = m.score ∧ i < j) ->
      BestOf current seen (some (i, m))

section BestOf

variable {current : String} {seen : List RouteCandidate} {acc : Option (Nat × ScoredMatch)}
  {c : RouteCandidate} {m : ScoredMatch}

theorem getElem?_concat_cases {d : RouteCandidate} {j : Nat} (at_j : (seen ++ [c])[j]? = some d) :
    seen[j]? = some d ∨ j = seen.length ∧ d = c := by
  rcases Nat.lt_or_ge j seen.length with early | late
  · rw [List.getElem?_append_left early] at at_j
    exact .inl at_j
  · rw [List.getElem?_append_right late] at at_j
    have last : j - seen.length = 0 := by
      have short := (List.getElem?_eq_some_iff.mp at_j).1
      simpa using short
    rw [last] at at_j
    exact .inr ⟨by omega, (Option.some.inj at_j).symm⟩

theorem BestOf.kept (best : BestOf current seen acc)
    (lower : ∀ n, candidateMatch current c = some n ->
      ∃ j b, acc = some (j, b) ∧ n.score ≤ b.score) :
    BestOf current (seen ++ [c]) acc := by
  cases best with
  | nothing fails =>
    refine .nothing fun d mem => ?_
    rcases List.mem_append.mp mem with before | last
    · exact fails d before
    · obtain rfl := List.mem_singleton.mp last
      rw [Option.eq_none_iff_forall_ne_some]
      intro n found
      obtain ⟨j, b, impossible, -⟩ := lower n found
      cases impossible
  | @first i d m at_i found most =>
    -- the best one stands before the new one, so that an equal score changes nothing
    have early : i < seen.length := (List.getElem?_eq_some_iff.mp at_i).1
    refine .first (by rwa [List.getElem?_append_left early]) found fun j e n at_j there other => ?_
    rcases getElem?_concat_cases at_j with before | ⟨rfl, rfl⟩
    · exact most j e n before there other
    · obtain ⟨k, b, same, le⟩ := lower n there
      obtain ⟨rfl, rfl⟩ := Prod.mk.inj (Option.some.inj same)
      exact (Int.lt_or_eq_of_le le).imp_right fun equal => ⟨equal, early⟩

/-- A candidate that scores higher takes the place of the best one. -/
theorem BestOf.beaten (best : BestOf current seen acc) (found : candidateMatch current c = some m)
    (higher : ∀ j b, acc = some (j, b) -> b.score < m.score) :
    BestOf current (seen ++ [c]) (some (seen.length, m)) := by
  refine .first List.getElem?_concat_length found fun j d n at_j there other => .inl ?_
  have before : seen[j]? = some d := (getElem?_concat_cases at_j).resolve_right fun h => other h.1
  cases best with
  | nothing fails =>
    rw [fails d (List.mem_of_getElem? before)] at there
    cases there
  | @first i e b at_i hit most =>
    have top := higher i b rfl
    by_cases same : j = i
    · subst same
      obtain rfl := Option.some.inj (at_i.symm.trans before)
      obtain rfl := Option.some.inj (hit.symm.trans there)
      exact top
    · rcases most j d n before there same with lower | ⟨equal, -⟩
      · exact Int.lt_trans lower top
      · rwa [equal]

theorem bestOf_append (best : BestOf current seen acc) (cs : List RouteCandidate) :
    BestOf current (seen ++ cs) (bestCandidate current seen.length acc cs) := by
  induction cs generalizing seen acc with
  | nil => rwa [List.append_nil, bestCandidate]
  | cons c rest ih =>
    have size : seen.length + 1 = (seen ++ [c]).length := by simp
    rw [bestCandidate.eq_def, List.append_cons]
    dsimp only
    rw [size]
    refine ih ?_
    split
    · rename_i fails
      exact best.kept fun n there => by simp [fails] at there
    · rename_i found
      exact best.beaten found nofun
    · rename_i m j b found
      split
      · rename_i higher
        refine best.beaten found fun k d same => ?_
        obtain ⟨rfl, rfl⟩ := Prod.mk.inj (Option.some.inj same)
        exact higher
      · rename_i lower
        refine best.kept fun n there => ?_
        obtain rfl := Option.some.inj (found.symm.trans there)
        exact ⟨j, b, rfl, Int.not_lt.mp lower⟩

end BestOf

theorem BestOf.unique {current : String} {cs : List RouteCandidate}
    {one other : Option (Nat × ScoredMatch)} (best : BestOf current cs one)
    (best' : BestOf current cs other) : one = other := by
  cases best with
  | nothing fails =>
    cases best' with
    | nothing => rfl
    | first at_i found =>
      rw [fails _ (List.mem_of_getElem? at_i)] at found
      cases found
  | @first i c m at_i found most =>
    cases best' with
    | nothing fails =>
      rw [fails _ (List.mem_of_getElem? at_i)] at found
      cases found
    | @first j d n at_j found' most' =>
      have same : j = i := by
        by_contra different
        have forth := most j d n at_j found' different
        have back := most' i c m at_i found (Ne.symm different)
        omega
      subst same
      obtain rfl := Option.some.inj (at_i.symm.trans at_j)
      obtain rfl := Option.some.inj (found.symm.trans found')
      rfl

/-- The best candidate of a list is the only one that is best. -/
theorem bestCandidate_eq_iff {current : String} {cs : List RouteCandidate}
    {found : Option (Nat × ScoredMatch)} :
    bestCandidate current 0 none cs = found ↔ BestOf current cs found := by
  have nothing_seen : BestOf current [] none := .nothing nofun
  have best : BestOf current cs (bestCandidate current 0 none cs) := by
    have whole := bestOf_append nothing_seen cs
    rwa [List.nil_append, List.length_nil] at whole
  exact ⟨fun same => same ▸ best, fun best' => best.unique best'⟩

/-- The first candidate with a property stands at a position. -/
def FirstAt (cs : List RouteCandidate) (p : RouteCandidate -> Prop) (i : Nat) : Prop :=
  (∃ c, cs[i]? = some c ∧ p c) ∧ ∀ (j : Nat) (d : RouteCandidate), cs[j]? = some d -> j < i -> ¬ p d

theorem findIdx?_eq_some_iff {test : RouteCandidate -> Bool} {p : RouteCandidate -> Prop}
    (same : ∀ c, test c = true ↔ p c) {cs : List RouteCandidate} {i : Nat} :
    cs.findIdx? test = some i ↔ FirstAt cs p i := by
  rw [List.findIdx?_eq_some_iff_getElem]
  constructor
  · rintro ⟨short, here, earlier⟩
    refine ⟨⟨cs[i], List.getElem?_eq_getElem short, (same _).mp here⟩, fun j d at_j below => ?_⟩
    obtain ⟨-, rfl⟩ := List.getElem?_eq_some_iff.mp at_j
    exact fun there => earlier j below ((same _).mpr there)
  · rintro ⟨⟨c, at_i, here⟩, earlier⟩
    obtain ⟨short, rfl⟩ := List.getElem?_eq_some_iff.mp at_i
    refine ⟨short, (same _).mpr here, fun j below there => ?_⟩
    exact earlier j _ (List.getElem?_eq_getElem _) below ((same _).mp there)

/-- No candidate matches by a path. -/
def Unmatched (cs : List RouteCandidate) (current : String) : Prop :=
  ∀ c ∈ cs, ∀ path, c.Competes path -> RouteScore.matchPath path current = none

theorem bestOf_none_iff {cs : List RouteCandidate} {current : String} :
    BestOf current cs none ↔ Unmatched cs current := by
  have each (c : RouteCandidate) : candidateMatch current c = none ↔
      ∀ path, c.Competes path -> RouteScore.matchPath path current = none := by
    simp only [Option.eq_none_iff_forall_ne_some, ne_eq, candidateMatch_eq_some_iff, not_exists,
      not_and]
    exact ⟨fun h path competes m => h m path competes, fun h m path competes => h path competes m⟩
  constructor
  · rintro ⟨fails⟩ c mem
    exact (each c).mp (fails c mem)
  · exact fun unmatched => .nothing fun c mem => (each c).mpr (unmatched c mem)

theorem bestOf_some_iff {cs : List RouteCandidate} {current : String} {i : Nat} {m : ScoredMatch} :
    BestOf current cs (some (i, m)) ↔
      ∃ c path, cs[i]? = some c ∧ c.Competes path ∧ RouteScore.matchPath path current = some m ∧
        ∀ (j : Nat) (d : RouteCandidate) (other : String) (n : ScoredMatch), cs[j]? = some d ->
          d.Competes other -> RouteScore.matchPath other current = some n ->
          n.score ≤ m.score ∧ (n.score = m.score -> i ≤ j) := by
  constructor
  · intro best
    cases best with
    | @first i c m at_i found most =>
      obtain ⟨path, competes, hit⟩ := candidateMatch_eq_some_iff.mp found
      refine ⟨c, path, at_i, competes, hit, fun j d other n at_j competes' hit' => ?_⟩
      have there := candidateMatch_eq_some_iff.mpr ⟨other, competes', hit'⟩
      by_cases same : j = i
      · subst same
        obtain rfl := Option.some.inj (at_i.symm.trans at_j)
        obtain rfl := Option.some.inj (found.symm.trans there)
        exact ⟨Int.le_refl _, fun _ => Nat.le_refl j⟩
      · have lower := most j d n at_j there same
        omega
  · rintro ⟨c, path, at_i, competes, hit, most⟩
    refine .first at_i (candidateMatch_eq_some_iff.mpr ⟨path, competes, hit⟩)
      fun j d n at_j there other => ?_
    obtain ⟨text, competes', hit'⟩ := candidateMatch_eq_some_iff.mp there
    have lower := most j d text n at_j competes' hit'
    omega

/-- The selection for some candidates and a path. The candidate with the highest score is selected,
the first one of several; if none matches, the first index candidate for the empty path, else the
first fallback candidate, and else nothing. -/
inductive Selects (cs : List RouteCandidate) (current : String) : RouteSelection -> Prop where
  | path {i : Nat} {c : RouteCandidate} {path : String} {m : ScoredMatch} : cs[i]? = some c ->
      c.Competes path -> RouteScore.matchPath path current = some m ->
      (∀ (j : Nat) (d : RouteCandidate) (other : String) (n : ScoredMatch), cs[j]? = some d ->
        d.Competes other -> RouteScore.matchPath other current = some n ->
        n.score ≤ m.score ∧ (n.score = m.score -> i ≤ j)) ->
      Selects cs current
        { position := some i
          remainder := RoutePath.join ((RoutePath.split current).drop m.consumedUntil)
          matchedPath := RoutePath.join ((RoutePath.split current).take m.consumedUntil)
          kind := .path }
  | index {i : Nat} : Unmatched cs current -> RoutePath.split current = [] ->
      FirstAt cs RouteCandidate.IsIndex i -> Selects cs current { position := some i, kind := .index }
  | fallback {i : Nat} : Unmatched cs current ->
      (RoutePath.split current = [] -> ∀ c ∈ cs, ¬ c.IsIndex) ->
      FirstAt cs (fun c => c.fallback = true) i ->
      Selects cs current
        { position := some i
          remainder := RoutePath.join (RoutePath.split current)
          kind := .fallback }
  | nothing : Unmatched cs current ->
      (RoutePath.split current = [] -> ∀ c ∈ cs, ¬ c.IsIndex) ->
      (∀ c ∈ cs, c.fallback = false) ->
      Selects cs current
        { position := none, remainder := RoutePath.join (RoutePath.split current) }

section Selects

variable {cs : List RouteCandidate} {current : String}

theorem isIndex_iff (c : RouteCandidate) : (c.index && !c.fallback) = true ↔ c.IsIndex := by
  rw [Bool.and_eq_true, Bool.not_eq_true', RouteCandidate.IsIndex]

/-- The position of the index candidate that shows for a path when no candidate matches it. -/
def indexFor (cs : List RouteCandidate) (current : String) : Option Nat :=
  if (RoutePath.split current).isEmpty then cs.findIdx? fun c => c.index && !c.fallback else none

theorem indexFor_eq_some_iff {i : Nat} :
    indexFor cs current = some i ↔
      RoutePath.split current = [] ∧ FirstAt cs RouteCandidate.IsIndex i := by
  rw [indexFor]
  split
  · rename_i empty
    rw [findIdx?_eq_some_iff isIndex_iff]
    exact (and_iff_right (List.isEmpty_iff.mp empty)).symm
  · rename_i some_left
    exact iff_of_false nofun fun found => some_left (List.isEmpty_iff.mpr found.1)

theorem indexFor_eq_none_iff :
    indexFor cs current = none ↔ (RoutePath.split current = [] -> ∀ c ∈ cs, ¬ c.IsIndex) := by
  rw [indexFor]
  split
  · rename_i empty
    rw [List.findIdx?_eq_none_iff]
    simp only [← isIndex_iff, Bool.not_eq_true, List.isEmpty_iff.mp empty, forall_const]
  · rename_i some_left
    exact iff_of_true rfl fun empty => absurd (List.isEmpty_iff.mpr empty) some_left

theorem select_of_best {i : Nat} {m : ScoredMatch} (best : BestOf current cs (some (i, m))) :
    select cs current =
      { position := some i
        remainder := RoutePath.join ((RoutePath.split current).drop m.consumedUntil)
        matchedPath := RoutePath.join ((RoutePath.split current).take m.consumedUntil)
        kind := .path } := by
  obtain ⟨c, path, -, -, hit, -⟩ := bestOf_some_iff.mp best
  obtain ⟨texts, start, matched⟩ := RouteScore.exists_matchesFrom hit
  rw [select, bestCandidate_eq_iff.mpr best, ← matched.path]

theorem select_of_unmatched (unmatched : Unmatched cs current) :
    select cs current =
      match indexFor cs current, cs.findIdx? fun c => c.fallback with
      | some i, _ => { position := some i, kind := .index }
      | none, some i =>
        { position := some i, remainder := RoutePath.join (RoutePath.split current),
          kind := .fallback }
      | none, none =>
        { position := none, remainder := RoutePath.join (RoutePath.split current) } := by
  have nothing := bestCandidate_eq_iff.mpr (bestOf_none_iff.mpr unmatched)
  cases index_eq : indexFor cs current with
  | some i =>
    rw [indexFor] at index_eq
    rw [select, nothing, index_eq]
  | none =>
    rw [indexFor] at index_eq
    cases fallback_eq : cs.findIdx? fun c => c.fallback with
    | some i => rw [select, nothing, index_eq, fallback_eq]
    | none => rw [select, nothing, index_eq, fallback_eq]

theorem selects_select (cs : List RouteCandidate) (current : String) :
    Selects cs current (select cs current) := by
  cases best_eq : bestCandidate current 0 none cs with
  | some found =>
    obtain ⟨i, m⟩ := found
    have best := bestCandidate_eq_iff.mp best_eq
    obtain ⟨c, path, at_i, competes, hit, most⟩ := bestOf_some_iff.mp best
    rw [select_of_best best]
    exact .path at_i competes hit most
  | none =>
    have unmatched := bestOf_none_iff.mp (bestCandidate_eq_iff.mp best_eq)
    rw [select_of_unmatched unmatched]
    cases index_eq : indexFor cs current with
    | some i =>
      obtain ⟨empty, first⟩ := indexFor_eq_some_iff.mp index_eq
      exact .index unmatched empty first
    | none =>
      have unindexed := indexFor_eq_none_iff.mp index_eq
      cases fallback_eq : cs.findIdx? fun c => c.fallback with
      | some i =>
        exact .fallback unmatched unindexed ((findIdx?_eq_some_iff fun _ => Iff.rfl).mp fallback_eq)
      | none => exact .nothing unmatched unindexed (List.findIdx?_eq_none_iff.mp fallback_eq)

end Selects

/-- A selection is of exactly one of the four kinds, and for candidates and a path there is only
one. -/
theorem select_eq_iff (cs : List RouteCandidate) (current : String) (s : RouteSelection) :
    select cs current = s ↔ Selects cs current s := by
  constructor
  · rintro rfl
    exact selects_select cs current
  · intro selects
    cases selects with
    | path at_i competes hit most =>
      exact select_of_best (bestOf_some_iff.mpr ⟨_, _, at_i, competes, hit, most⟩)
    | index unmatched empty first =>
      rw [select_of_unmatched unmatched, indexFor_eq_some_iff.mpr ⟨empty, first⟩]
    | fallback unmatched unindexed first =>
      rw [select_of_unmatched unmatched, indexFor_eq_none_iff.mpr unindexed,
        (findIdx?_eq_some_iff fun _ => Iff.rfl).mpr first]
    | nothing unmatched unindexed plain =>
      rw [select_of_unmatched unmatched, indexFor_eq_none_iff.mpr unindexed,
        List.findIdx?_eq_none_iff.mpr plain]

end RouteSelection

/-- A candidate whose match takes all segments of a path. -/
def RouteCandidate.CoversAll (c : RouteCandidate) (current : String) : Prop :=
  ∃ path m, c.Competes path ∧ RouteScore.matchPath path current = some m ∧
    m.consumedUntil = (RoutePath.split current).length

namespace RouteSelection

/-- A selection leaves no remainder where it is a candidate that takes all segments. -/
structure LeavesNothing (cs : List RouteCandidate) (current : String) (s : RouteSelection) :
    Prop where
  selected : ∃ i c, s.position = some i ∧ cs[i]? = some c ∧ c.CoversAll current
  remainder : s.remainder = "/"

section CoversAll

variable {cs : List RouteCandidate} {current : String}

/-- Where the heaviest parts weigh less than what a match of all segments is worth, a candidate with
such a match is only outdone by another one. -/
theorem leavesNothing_of_weight_lt
    (light : RouteScore.weight
      ((RoutePath.split current).dropLast.map RouteScore.heaviest) < 9890)
    (covered : ∃ c ∈ cs, c.CoversAll current) :
    LeavesNothing cs current (select cs current) := by
  obtain ⟨d, mem, other, n, competes', hit', whole'⟩ := covered
  have selects := selects_select cs current
  generalize select cs current = s at selects
  have unmatched_false (unmatched : Unmatched cs current) : LeavesNothing cs current s := by
    rw [unmatched d mem other competes'] at hit'
    cases hit'
  cases selects with
  | index unmatched => exact unmatched_false unmatched
  | fallback unmatched => exact unmatched_false unmatched
  | nothing unmatched => exact unmatched_false unmatched
  | @path i c path m at_i competes hit most =>
    obtain ⟨texts, start, matched⟩ := RouteScore.exists_matchesFrom hit
    obtain ⟨texts', start', matched'⟩ := RouteScore.exists_matchesFrom hit'
    obtain ⟨j, at_j⟩ := List.mem_iff_getElem?.mp mem
    have beaten := (most j d other n at_j competes' hit').1
    have whole : m.consumedUntil = (RoutePath.split current).length := by
      by_contra leaves
      have left : m.consumedUntil < (RoutePath.split current).length :=
        Nat.lt_of_le_of_ne matched.ends leaves
      have upper := matched.score_le left
      have lower := matched'.le_score whole'
      omega
    refine ⟨⟨i, c, rfl, at_i, path, m, competes, hit, whole⟩, ?_⟩
    dsimp only
    rw [whole, List.drop_length]
    rfl

/-- A wildcard matches all segments of every path. -/
theorem matchPath_wildcard (current : String) :
    ∃ m, RouteScore.matchPath "/*" current = some m ∧
      m.consumedUntil = (RoutePath.split current).length ∧
      m.score = 9880 + 10 * (RoutePath.split current).length := by
  have absolute : (Text.trim "/*").toList.head? = some '/' := by decide
  have parts : RouteScore.partsOf "/*" = [.wildcard] := by decide
  obtain ⟨m, found⟩ := RouteScore.exists_matchPath absolute
    (List.append_nil (RoutePath.split current)).symm (parts ▸ .wildcard)
  have matched := RouteScore.matchesFrom_of_absolute absolute found
  have whole := matched.whole (parts ▸ List.mem_cons_self)
  have scores := matched.scores
  rw [if_pos whole, whole, parts, Nat.sub_zero, RouteScore.weight] at scores
  exact ⟨m, found, whole, by omega⟩

/-- The heaviest route for all segments but the last one matches these. -/
theorem matchPath_heaviestRoute (current : String) :
    ∃ m, RouteScore.matchPath
          (RouteScore.heaviestRoute (RoutePath.split current).dropLast) current = some m ∧
      m.consumedUntil = (RoutePath.split current).length - 1 ∧
      RouteScore.weight ((RoutePath.split current).dropLast.map RouteScore.heaviest) +
        10 * ((RoutePath.split current).length - 1 : Nat) ≤ m.score := by
  have parts := RouteScore.partsOf_heaviestRoute (List.dropLast_subset (RoutePath.split current))
  have absolute : (Text.trim (RouteScore.heaviestRoute
      (RoutePath.split current).dropLast)).toList.head? = some '/' := by
    rw [RouteScore.heaviestRoute, RoutePath.trim_written, RoutePath.head?_join]
  have front : RoutePath.split current = (RoutePath.split current).dropLast ++
      (RoutePath.split current).drop ((RoutePath.split current).length - 1) := by
    rw [List.dropLast_eq_take, List.take_append_drop]
  obtain ⟨m, found⟩ := RouteScore.exists_matchPath absolute front
    (parts ▸ RouteScore.covers_heaviest _)
  have matched := RouteScore.matchesFrom_of_absolute absolute found
  have taken := matched.consumedUntil_eq (parts ▸ RouteScore.wildcard_not_mem_heaviest _)
  rw [parts, List.length_map, List.length_dropLast, Nat.zero_add] at taken
  have scores := matched.scores
  rw [parts, Nat.sub_zero, taken] at scores
  refine ⟨m, found, taken, ?_⟩
  split at scores <;> omega

/-- The heaviest route for all segments but the last one, and a wildcard. -/
def frontOrWildcard (current : String) : List RouteCandidate :=
  [{ path := some (RouteScore.heaviestRoute (RoutePath.split current).dropLast) },
    { path := some "/*" }]

theorem exists_coversAll_frontOrWildcard (current : String) :
    ∃ c ∈ frontOrWildcard current, c.CoversAll current := by
  obtain ⟨m, hit, whole, -⟩ := matchPath_wildcard current
  refine ⟨{ path := some "/*" }, by simp [frontOrWildcard], "/*", m, ?_, hit, whole⟩
  exact ⟨rfl, by decide, rfl, rfl⟩

/-- Where the heaviest parts weigh no less than what a match of all segments is worth, they win
against the wildcard. -/
theorem select_frontOrWildcard
    (heavy : 9890 ≤ RouteScore.weight
      ((RoutePath.split current).dropLast.map RouteScore.heaviest)) :
    (select (frontOrWildcard current) current).position = some 0 ∧
      (select (frontOrWildcard current) current).remainder =
        RoutePath.join ((RoutePath.split current).drop ((RoutePath.split current).length - 1)) := by
  obtain ⟨m, hit, taken, scores⟩ := matchPath_heaviestRoute current
  obtain ⟨n, hit', -, scores'⟩ := matchPath_wildcard current
  have best : BestOf current (frontOrWildcard current) (some (0, m)) := by
    refine bestOf_some_iff.mpr ⟨_, _, rfl,
      ⟨rfl, RouteScore.heaviestRoute_ne_empty _, rfl, rfl⟩, hit, fun j d other o at_j there found => ?_⟩
    rcases List.mem_pair.mp (List.mem_of_getElem? at_j) with rfl | rfl
    · obtain rfl := Option.some.inj there.1
      obtain rfl := Option.some.inj (hit.symm.trans found)
      exact ⟨Int.le_refl _, fun _ => Nat.zero_le j⟩
    · obtain rfl := Option.some.inj there.1
      obtain rfl := Option.some.inj (hit'.symm.trans found)
      exact ⟨by omega, fun _ => Nat.zero_le j⟩
  rw [select_of_best best]
  exact ⟨rfl, by rw [taken]⟩

/-- A candidate that takes all segments of a path is never outdone by one that leaves some, whatever
the candidates, just when the heaviest parts for all segments but the last one weigh less than a match
of all is worth. Fixed segments weigh 220 and names 120, so that this is so for paths of up to 45
segments. -/
theorem forall_leavesNothing_iff (current : String) :
    (∀ cs : List RouteCandidate, (∃ c ∈ cs, c.CoversAll current) ->
        LeavesNothing cs current (select cs current)) ↔
      RouteScore.weight ((RoutePath.split current).dropLast.map RouteScore.heaviest) < 9890 := by
  constructor
  · intro law
    by_contra heavy
    have some_left : (RoutePath.split current).length ≠ 0 := by
      intro empty
      rw [List.length_eq_zero_iff.mp empty] at heavy
      exact heavy (by decide)
    have leaves := (law _ (exists_coversAll_frontOrWildcard current)).remainder
    rw [(select_frontOrWildcard (Int.not_lt.mp heavy)).2] at leaves
    have plain : ∀ s ∈ (RoutePath.split current).drop ((RoutePath.split current).length - 1),
        s ≠ "" ∧ '/' ∉ s.toList := fun s mem => Text.mem_pieces (List.mem_of_mem_drop mem)
    have short := List.drop_eq_nil_iff.mp (RoutePath.eq_nil_of_join_eq plain leaves)
    omega
  · exact fun light cs covered => leavesNothing_of_weight_lt light covered

/-- A path of 46 segments, as many as a front needs to win. -/
def repeatedPath : String :=
  RoutePath.join (List.replicate 46 "a") ++ "/"

/-- The wildcard matches all of the path, and the front is selected and leaves the last segment. -/
theorem repeatedPath_leaves :
    (∃ c ∈ frontOrWildcard repeatedPath, c.CoversAll repeatedPath) ∧
      (select (frontOrWildcard repeatedPath) repeatedPath).position = some 0 ∧
      (select (frontOrWildcard repeatedPath) repeatedPath).remainder = "/a" ∧
      ¬ LeavesNothing (frontOrWildcard repeatedPath) repeatedPath
        (select (frontOrWildcard repeatedPath) repeatedPath) := by
  have segments : RoutePath.split repeatedPath = List.replicate 46 "a" := by
    rw [repeatedPath, ← RoutePath.trim_written]
    refine RoutePath.split_written (fun s mem => ?_) fun s mem => ?_
    · rw [List.eq_of_mem_replicate mem]
      decide
    · rw [List.eq_of_mem_replicate mem]
      decide
  have heavy : 9890 ≤ RouteScore.weight
      ((RoutePath.split repeatedPath).dropLast.map RouteScore.heaviest) := by
    have fixed : RouteScore.heaviest "a" = .literal "a" := by decide
    rw [segments, List.dropLast_replicate, List.map_replicate, fixed,
      RouteScore.weight_replicate_literal]
    decide
  obtain ⟨position, remainder⟩ := select_frontOrWildcard heavy
  have last : (select (frontOrWildcard repeatedPath) repeatedPath).remainder = "/a" := by
    rw [remainder, segments, List.length_replicate, List.drop_replicate]
    decide
  refine ⟨exists_coversAll_frontOrWildcard _, position, last, fun leaves => ?_⟩
  exact absurd (last.symm.trans leaves.remainder) (by decide)

end CoversAll

end RouteSelection

end ViewDoc
