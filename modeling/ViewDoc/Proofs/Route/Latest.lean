import Mathlib.Order.Bounds.Defs
import ViewDoc.Proofs.Route.Weighed
/-!
Route paths that do not start with a slash. Their parts may match from any segment of the current
path, and the match with the highest score counts. A later start scores higher, since it keeps the
weight of the parts and reaches the end of the path no sooner. The main statement is that a relative
route path matches where its parts match from some segment, and then from the last such one.
-/

set_option autoImplicit false

namespace ViewDoc

/-- Parts match at the front of segments: they cover some of the first ones. -/
def RoutePart.Fronts (parts : List RoutePart) (segments : List String) : Prop :=
  ∃ front, front <+: segments ∧ Covers parts front

namespace RouteScore

/-- The parts of a route path that is matched from any segment. -/
def relativeParts (route : String) : List RoutePart :=
  (relativeSegments (Text.trim route)).map RoutePart.ofText

/-- A route path without a slash in front, of which something is left when its dots are processed. -/
structure Relative (route : String) : Prop where
  unrooted : (Text.trim route).toList.head? ≠ some '/'
  some_parts : relativeParts route ≠ []

/-- The segments from which parts match, by their number. The end of the path is one, too. -/
def starts (parts : List RoutePart) (segments : List String) : Set Nat :=
  {s | s ≤ segments.length ∧ RoutePart.Fronts parts (segments.drop s)}

section Fronts

variable {parts : List RoutePart} {segments : List String}

theorem exists_tally_iff :
    (∃ t, tally parts segments = some t) ↔ RoutePart.Fronts parts segments := by
  constructor
  · rintro ⟨t, found⟩
    exact ⟨segments.take t.taken, List.take_prefix t.taken segments, (tallied found).covers⟩
  · rintro ⟨front, ⟨rest, rfl⟩, covers⟩
    exact exists_tally covers rest

instance : Decidable (RoutePart.Fronts parts segments) :=
  decidable_of_iff ((tally parts segments).isSome = true)
    (by rw [Option.isSome_iff_exists, exists_tally_iff])

theorem exists_matchAt_iff {absolute : Bool} {start : Nat} :
    (∃ m, matchAt parts segments absolute start = some m) ↔
      RoutePart.Fronts parts (segments.drop start) := by
  rw [← exists_tally_iff]
  constructor
  · rintro ⟨m, found⟩
    obtain ⟨t, gathered, -⟩ := Option.map_eq_some_iff.mp found
    exact ⟨t, gathered⟩
  · rintro ⟨t, gathered⟩
    exact ⟨_, by rw [matchAt, gathered, Option.map_some]⟩

end Fronts

section Growing

variable {parts : List RoutePart} {current : List String} {start later : Nat} {m n : ScoredMatch}

theorem matchesFrom_of_inside (inside : start ≤ current.length)
    (found : matchAt parts current false start = some m) : MatchesFrom parts current start m :=
  matchesFrom_of_matchAt inside (fun first => Bool.noConfusion first) found

/-- Of two matches of the same parts the one that starts later scores higher. -/
theorem MatchesFrom.score_lt_of_lt (found : MatchesFrom parts current start m)
    (found' : MatchesFrom parts current later n) (after : start < later) : m.score < n.score := by
  have scores := found.scores
  have scores' := found'.scores
  have starts' := found'.starts
  have ends' := found'.ends
  by_cases wild : RoutePart.wildcard ∈ parts
  · -- each segment that is not taken costs ten, and each by which the start is later gives thirty
    have whole := found.whole wild
    have whole' := found'.whole wild
    rw [if_pos whole] at scores
    rw [if_pos whole'] at scores'
    omega
  · have stop := found.consumedUntil_eq wild
    have stop' := found'.consumedUntil_eq wild
    rw [if_neg (by omega)] at scores
    split at scores' <;> omega

theorem best_of_growing {b : ScoredMatch} {ms : List ScoredMatch}
    (grows : (b :: ms).Pairwise fun m n => m.score < n.score) :
    best (some b) ms = (b :: ms).getLast? := by
  induction ms generalizing b with
  | nil => rfl
  | cons m ms ih =>
    obtain ⟨above, below⟩ := List.pairwise_cons.mp grows
    rw [best, if_pos (above m List.mem_cons_self), ih below, List.getLast?_cons_cons]

/-- Of matches with growing scores the last one is the best. -/
theorem best_eq_getLast? {ms : List ScoredMatch}
    (grows : ms.Pairwise fun m n => m.score < n.score) : best none ms = ms.getLast? := by
  cases ms with
  | nil => rfl
  | cons b ms => exact best_of_growing grows

/-- The last thing that is made of the numbers below a bound is made of the last of these numbers
that anything is made of. -/
theorem getLast?_filterMap_range_eq_some_iff {α : Type} (f : Nat -> Option α) (bound : Nat) (a : α) :
    ((List.range bound).filterMap f).getLast? = some a ↔
      ∃ s < bound, f s = some a ∧ ∀ t, s < t -> t < bound -> f t = none := by
  induction bound with
  | zero => simp
  | succ bound ih =>
    rw [List.range_succ, List.filterMap_append, List.getLast?_append]
    cases last : f bound with
    | none =>
      rw [List.filterMap_cons_none last, List.filterMap_nil, List.getLast?_nil, Option.none_or, ih]
      constructor
      · rintro ⟨s, below, made, nothing⟩
        refine ⟨s, Nat.lt_succ_of_lt below, made, fun t after inside => ?_⟩
        rcases Nat.lt_succ_iff_lt_or_eq.mp inside with earlier | rfl
        · exact nothing t after earlier
        · exact last
      · rintro ⟨s, below, made, nothing⟩
        refine ⟨s, ?_, made, fun t after inside => nothing t after (Nat.lt_succ_of_lt inside)⟩
        refine Nat.lt_of_le_of_ne (Nat.lt_succ_iff.mp below) fun same => ?_
        rw [same, last] at made
        cases made
    | some b =>
      rw [List.filterMap_cons_some last, List.filterMap_nil, List.getLast?_singleton,
        Option.some_or]
      constructor
      · intro same
        exact ⟨bound, Nat.lt_succ_self bound, last.trans same, by omega⟩
      · rintro ⟨s, below, made, nothing⟩
        rcases Nat.lt_succ_iff_lt_or_eq.mp below with earlier | rfl
        · rw [nothing bound earlier (Nat.lt_succ_self bound)] at last
          cases last
        · exact last.symm.trans made

theorem pairwise_matches (parts : List RoutePart) (current : List String) :
    ((List.range (current.length + 1)).filterMap (matchAt parts current false)).Pairwise
      fun m n => m.score < n.score := by
  rw [List.pairwise_filterMap]
  refine List.pairwise_lt_range.imp_of_mem fun {s t} mem mem' after m found n found' => ?_
  have from_s := matchesFrom_of_inside (Nat.lt_succ_iff.mp (List.mem_range.mp mem)) found
  have from_t := matchesFrom_of_inside (Nat.lt_succ_iff.mp (List.mem_range.mp mem')) found'
  exact from_s.score_lt_of_lt from_t after

end Growing

theorem matchPath_of_relative {route : String} (relative : Relative route) (current : String) :
    matchPath route current =
      ((List.range ((RoutePath.split current).length + 1)).filterMap
        (matchAt (relativeParts route) (RoutePath.split current) false)).getLast? := by
  have written : Text.trim route ≠ "" := by
    intro empty
    refine relative.some_parts ?_
    rw [relativeParts, empty]
    rfl
  have something : (relativeParts route).isEmpty = false := by
    simpa using relative.some_parts
  rw [matchPath, if_neg written, if_neg (by simpa using relative.unrooted)]
  dsimp only
  rw [← relativeParts, something, if_neg Bool.false_ne_true, best_eq_getLast?]
  exact pairwise_matches (relativeParts route) (RoutePath.split current)

/-- The match of a relative route path is the one from its greatest start. -/
theorem matchPath_eq_some_iff_greatest {route : String} (relative : Relative route)
    (current : String) (m : ScoredMatch) :
    matchPath route current = some m ↔
      ∃ s, IsGreatest (starts (relativeParts route) (RoutePath.split current)) s ∧
        matchAt (relativeParts route) (RoutePath.split current) false s = some m := by
  rw [matchPath_of_relative relative, getLast?_filterMap_range_eq_some_iff]
  constructor
  · rintro ⟨s, inside, found, nothing⟩
    refine ⟨s, ⟨⟨Nat.lt_succ_iff.mp inside, exists_matchAt_iff.mp ⟨m, found⟩⟩, ?_⟩, found⟩
    rintro t ⟨inside', fronts⟩
    obtain ⟨n, found'⟩ := exists_matchAt_iff.mpr fronts
    by_contra after
    rw [nothing t (Nat.not_le.mp after) (Nat.lt_succ_of_le inside')] at found'
    cases found'
  · rintro ⟨s, ⟨⟨inside, -⟩, greatest⟩, found⟩
    refine ⟨s, Nat.lt_succ_of_le inside, found, fun t after inside' => ?_⟩
    rw [Option.eq_none_iff_forall_ne_some]
    intro n found'
    have earlier : t ≤ s := greatest ⟨Nat.lt_succ_iff.mp inside', exists_matchAt_iff.mp ⟨n, found'⟩⟩
    exact Nat.not_lt.mpr earlier after

theorem exists_matchPath_iff_nonempty {route : String} (relative : Relative route)
    (current : String) :
    (∃ m, matchPath route current = some m) ↔
      (starts (relativeParts route) (RoutePath.split current)).Nonempty := by
  rw [matchPath_of_relative relative, ← Option.isSome_iff_exists, List.getLast?_isSome]
  constructor
  · intro some_match
    obtain ⟨m, mem⟩ := List.exists_mem_of_ne_nil _ some_match
    obtain ⟨s, inside, found⟩ := List.mem_filterMap.mp mem
    exact ⟨s, Nat.lt_succ_iff.mp (List.mem_range.mp inside), exists_matchAt_iff.mp ⟨m, found⟩⟩
  · rintro ⟨s, inside, fronts⟩
    obtain ⟨m, found⟩ := exists_matchAt_iff.mpr fronts
    exact List.ne_nil_of_mem
      (List.mem_filterMap.mpr ⟨s, List.mem_range.mpr (Nat.lt_succ_of_le inside), found⟩)

/-- A relative route path matches the current path where its parts match from one of the segments or
from the end, and the match is the one that starts last: it ends at the end of the path if there is
a wildcard, and takes one segment for every part if there is none. -/
theorem matchPath_latest {route : String} (relative : Relative route) (current : String) :
    ((∃ m, matchPath route current = some m) ↔
        (starts (relativeParts route) (RoutePath.split current)).Nonempty) ∧
      ∀ s, IsGreatest (starts (relativeParts route) (RoutePath.split current)) s ->
        ∃ m, matchPath route current = some m ∧
          MatchesFrom (relativeParts route) (RoutePath.split current) s m ∧
          m.consumedUntil = if RoutePart.wildcard ∈ relativeParts route
            then (RoutePath.split current).length else s + (relativeParts route).length := by
  refine ⟨exists_matchPath_iff_nonempty relative current, fun s greatest => ?_⟩
  obtain ⟨inside, fronts⟩ := greatest.1
  obtain ⟨m, found⟩ := exists_matchAt_iff.mpr fronts
  have matched := matchesFrom_of_inside inside found
  refine ⟨m, (matchPath_eq_some_iff_greatest relative current m).mpr ⟨s, greatest, found⟩,
    matched, ?_⟩
  split
  · rename_i wild
    exact matched.whole wild
  · rename_i tame
    exact matched.consumedUntil_eq tame

/-- Of two users in a path the last one is matched. -/
theorem lastUser_latest : Relative "./users/../users/:id" ∧
    IsGreatest (starts (relativeParts "./users/../users/:id")
      (RoutePath.split "/users/1/users/2/edit")) 2 ∧
    ∃ m, matchPath "./users/../users/:id" "/users/1/users/2/edit" = some m ∧ m.consumedUntil = 4 := by
  have parts : relativeParts "./users/../users/:id" = [.literal "users", .dynamic "id"] := by
    decide +kernel
  have segments : RoutePath.split "/users/1/users/2/edit" = ["users", "1", "users", "2", "edit"] := by
    decide +kernel
  have relative : Relative "./users/../users/:id" := ⟨by decide +kernel, by rw [parts]; decide⟩
  have greatest : IsGreatest (starts (relativeParts "./users/../users/:id")
      (RoutePath.split "/users/1/users/2/edit")) 2 := by
    rw [parts, segments]
    refine ⟨⟨by decide, by decide⟩, fun t ⟨inside, fronts⟩ => ?_⟩
    by_contra after
    have next : t = 3 ∨ t = 4 ∨ t = 5 := by
      simp only [List.length_cons, List.length_nil] at inside
      omega
    rcases next with rfl | rfl | rfl <;> exact absurd fronts (by decide)
  obtain ⟨m, found, -, stop⟩ := (matchPath_latest relative _).2 2 greatest
  refine ⟨relative, greatest, m, found, ?_⟩
  rw [stop, parts]
  decide

end RouteScore

end ViewDoc
