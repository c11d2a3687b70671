import Mathlib.Data.List.Basic
import ViewDoc.Proofs.Route.Accepting
import ViewDoc.Proofs.Route.Normal
import ViewDoc.Route.Select
/-!
What a match of a route path scores: the weight of its parts, ten for every segment that it takes,
and more where it reaches the end of the path or starts late. The main statement is that of two
routes that match from the start the more specific one scores higher.
-/

set_option autoImplicit false

namespace ViewDoc.RouteScore

/-- What the parts of a pattern weigh together; a wildcard takes away and ends the pattern. -/
def weight : List RoutePart -> Int
  | [] => 0
  | .wildcard :: _ => -120
  | .dynamic _ :: parts => 120 + weight parts
  | .literal _ :: parts => 220 + weight parts

/-- The parts of a route path that is matched from the start. -/
def partsOf (route : String) : List RoutePart :=
  (RoutePath.split (Text.trim route)).map RoutePart.ofText

section Weight

variable {parts others front rest : List RoutePart}

theorem weight_append (tame : RoutePart.wildcard ∉ front) :
    weight (front ++ rest) = weight front + weight rest := by
  induction front with
  | nil => exact (Int.zero_add _).symm
  | cons part front ih =>
    have below := ih fun mem => tame (List.mem_cons_of_mem part mem)
    cases part with
    | wildcard => exact absurd List.mem_cons_self tame
    | dynamic name => rw [List.cons_append, weight, weight, below, Int.add_assoc]
    | literal segment => rw [List.cons_append, weight, weight, below, Int.add_assoc]

theorem weight_replicate_literal (n : Nat) (segment : String) :
    weight (List.replicate n (.literal segment)) = 220 * (n : Int) := by
  induction n with
  | zero => rfl
  | succ n ih =>
    rw [List.replicate_succ, weight, ih]
    push_cast
    omega

/-- What a part weighs that is no wildcard. -/
theorem weight_cons_cases {part : RoutePart} (tame : part ≠ .wildcard) (parts : List RoutePart) :
    (∃ name, part = .dynamic name ∧ weight (part :: parts) = 120 + weight parts) ∨
      ∃ segment, part = .literal segment ∧ weight (part :: parts) = 220 + weight parts := by
  cases part with
  | wildcard => exact absurd rfl tame
  | dynamic name => exact .inl ⟨name, rfl, rfl⟩
  | literal segment => exact .inr ⟨segment, rfl, rfl⟩

theorem le_weight (tame : RoutePart.wildcard ∉ parts) :
    120 * (parts.length : Int) ≤ weight parts := by
  induction parts with
  | nil => exact Int.le_refl 0
  | cons part parts ih =>
    obtain ⟨first, later⟩ := not_or.mp (mt List.mem_cons.mpr tame)
    have below := ih later
    have step := weight_cons_cases (Ne.symm first) parts
    rw [List.length_cons]
    push_cast
    omega

/-- A wildcard takes away no more than its own weight. -/
theorem neg_le_weight (parts : List RoutePart) : -120 ≤ weight parts := by
  induction parts with
  | nil => decide
  | cons part parts ih =>
    by_cases wild : part = .wildcard
    · rw [wild]
      exact Int.le_refl (-120)
    · have step := weight_cons_cases wild parts
      omega

/-- Where some parts have a named one, others have a named one too, as far as these go. -/
def NamedAlong (parts others : List RoutePart) : Prop :=
  ∀ i name, parts[i]? = some (.dynamic name) -> i < others.length ->
    ∃ other, others[i]? = some (.dynamic other)

section NamedAlong

variable {p q : RoutePart}

theorem NamedAlong.tail (named : NamedAlong (p :: parts) (q :: others)) :
    NamedAlong parts others := by
  intro i name at_i short
  have at_next : (p :: parts)[i + 1]? = some (.dynamic name) := by rwa [List.getElem?_cons_succ]
  obtain ⟨other, there⟩ := named (i + 1) name at_next (Nat.succ_lt_succ short)
  exact ⟨other, by rwa [List.getElem?_cons_succ] at there⟩

/-- The first part of the others gives no more to their weight. -/
theorem NamedAlong.head_le (named : NamedAlong (p :: parts) (q :: others))
    (tame : p ≠ .wildcard) (tame' : q ≠ .wildcard) :
    weight (q :: others) - weight others ≤ weight (p :: parts) - weight parts := by
  rcases weight_cons_cases tame parts with ⟨name, rfl, gives⟩ | ⟨segment, rfl, gives⟩
  · obtain ⟨other, first⟩ := named 0 name rfl (Nat.zero_lt_succ _)
    obtain rfl : q = .dynamic other := Option.some.inj first
    rw [gives, weight]
    omega
  · have step := weight_cons_cases tame' others
    omega

/-- Parts that have named ones only where others have them weigh no less than these, and more for
every part by which they are longer. -/
theorem weight_le_of_namedAlong (tame : RoutePart.wildcard ∉ parts)
    (tame' : RoutePart.wildcard ∉ others) (short : others.length ≤ parts.length)
    (named : NamedAlong parts others) :
    weight others + 120 * (parts.length - others.length : Nat) ≤ weight parts := by
  induction parts generalizing others with
  | nil =>
    obtain rfl := List.length_eq_zero_iff.mp (Nat.le_zero.mp short)
    exact Int.le_refl 0
  | cons p parts ih =>
    cases others with
    | nil => simpa [weight] using le_weight tame
    | cons q others =>
      obtain ⟨first, later⟩ := not_or.mp (mt List.mem_cons.mpr tame)
      obtain ⟨first', later'⟩ := not_or.mp (mt List.mem_cons.mpr tame')
      have head := named.head_le (Ne.symm first) (Ne.symm first')
      have below := ih later later' (Nat.le_of_succ_le_succ short) named.tail
      rw [List.length_cons, List.length_cons, Nat.add_sub_add_right]
      omega

/-- Where one of the others is named and stands against a fixed part, they weigh less. -/
theorem weight_lt_of_namedAlong (tame : RoutePart.wildcard ∉ parts)
    (tame' : RoutePart.wildcard ∉ others) (short : others.length ≤ parts.length)
    (named : NamedAlong parts others) {i : Nat} {name segment : String}
    (there : others[i]? = some (.dynamic name)) (here : parts[i]? = some (.literal segment)) :
    weight others < weight parts := by
  induction i generalizing parts others with
  | zero =>
    obtain ⟨more, rfl⟩ : ∃ more, parts = .literal segment :: more :=
      List.head?_eq_some_iff.mp (List.head?_eq_getElem? ▸ here)
    obtain ⟨more', rfl⟩ : ∃ more, others = .dynamic name :: more :=
      List.head?_eq_some_iff.mp (List.head?_eq_getElem? ▸ there)
    have below := weight_le_of_namedAlong (fun mem => tame (List.mem_cons_of_mem _ mem))
      (fun mem => tame' (List.mem_cons_of_mem _ mem)) (Nat.le_of_succ_le_succ short) named.tail
    rw [weight, weight]
    omega
  | succ i ih =>
    cases parts with
    | nil => cases here
    | cons p parts =>
      cases others with
      | nil => cases there
      | cons q others =>
        obtain ⟨first, later⟩ := not_or.mp (mt List.mem_cons.mpr tame)
        obtain ⟨first', later'⟩ := not_or.mp (mt List.mem_cons.mpr tame')
        rw [List.getElem?_cons_succ] at here there
        have head := named.head_le (Ne.symm first) (Ne.symm first')
        have below := ih later later' (Nat.le_of_succ_le_succ short) named.tail there here
        omega

end NamedAlong

end Weight

/-- What parts gather from the segments that they take. -/
structure Tallied (parts : List RoutePart) (segments : List String) (t : Tally) : Prop where
  short : t.taken ≤ segments.length
  covers : RoutePart.Covers parts (segments.take t.taken)
  whole : RoutePart.wildcard ∈ parts -> t.taken = segments.length
  weighs : weight parts = 220 * t.fixed + 120 * t.named + (if t.wildcard then -120 else 0)

theorem tallied {parts : List RoutePart} {segments : List String} {t : Tally}
    (found : tally parts segments = some t) : Tallied parts segments t := by
  induction parts generalizing segments t with
  | nil =>
    obtain rfl := Option.some.inj found
    exact ⟨Nat.zero_le _, .nil, fun wild => absurd wild List.not_mem_nil, rfl⟩
  | cons part parts ih =>
    cases part with
    | wildcard =>
      obtain rfl := Option.some.inj found
      exact ⟨Nat.le_refl _, .wildcard, fun _ => rfl, rfl⟩
    | dynamic name =>
      cases segments with
      | nil => cases found
      | cons s segments =>
        obtain ⟨below, inside, rfl⟩ := Option.map_eq_some_iff.mp found
        obtain ⟨short, covers, whole, weighs⟩ := ih inside
        refine ⟨Nat.succ_le_succ short, .dynamic covers, fun wild => ?_, ?_⟩
        · exact congrArg Nat.succ (whole (by simpa using wild))
        · rw [weight, weighs]
          push_cast
          omega
    | literal segment =>
      cases segments with
      | nil => cases found
      | cons s segments =>
        rw [tally] at found
        split at found
        · rename_i same
          subst same
          obtain ⟨below, inside, rfl⟩ := Option.map_eq_some_iff.mp found
          obtain ⟨short, covers, whole, weighs⟩ := ih inside
          refine ⟨Nat.succ_le_succ short, .literal covers, fun wild => ?_, ?_⟩
          · exact congrArg Nat.succ (whole (by simpa using wild))
          · rw [weight, weighs]
            push_cast
            omega
        · cases found

/-- Parts take the segments that they cover from the front of others. -/
theorem exists_tally {parts : List RoutePart} {segments : List String}
    (covers : RoutePart.Covers parts segments) (rest : List String) :
    ∃ t, tally parts (segments ++ rest) = some t := by
  induction covers with
  | nil => exact ⟨_, rfl⟩
  | literal _ ih =>
    obtain ⟨t, below⟩ := ih
    exact ⟨_, by rw [List.cons_append, tally, if_pos rfl, below, Option.map_some]⟩
  | dynamic _ ih =>
    obtain ⟨t, below⟩ := ih
    exact ⟨_, by rw [List.cons_append, tally, below, Option.map_some]⟩
  | wildcard => exact ⟨_, rfl⟩

/-- A match of parts that starts at a segment of the current path, with its score. -/
structure MatchesFrom (parts : List RoutePart) (current : List String) (start : Nat)
    (m : ScoredMatch) : Prop where
  starts : start ≤ m.consumedUntil
  ends : m.consumedUntil ≤ current.length
  covers : RoutePart.Covers parts ((current.drop start).take (m.consumedUntil - start))
  whole : RoutePart.wildcard ∈ parts -> m.consumedUntil = current.length
  scores : m.score = (if m.consumedUntil = current.length then 10000 else 0) + weight parts +
    10 * (m.consumedUntil - start : Nat) + 30 * start
  path : m.matchedPath = RoutePath.join (current.take m.consumedUntil)

theorem matchesFrom_of_matchAt {parts : List RoutePart} {current : List String} {absolute : Bool}
    {start : Nat} {m : ScoredMatch} (inside : start ≤ current.length)
    (from_start : absolute = true -> start = 0)
    (found : matchAt parts current absolute start = some m) : MatchesFrom parts current start m := by
  obtain ⟨t, gathered, rfl⟩ := Option.map_eq_some_iff.mp found
  obtain ⟨short, covers, whole, weighs⟩ := tallied gathered
  rw [List.length_drop] at short whole
  have taken : start + t.taken - start = t.taken := Nat.add_sub_cancel_left start t.taken
  have late : (if absolute then 0 else 30 * start) = 30 * start := by
    split
    · rename_i first
      rw [from_start first]
    · rfl
  refine ⟨Nat.le_add_right start t.taken, ?_, ?_, fun wild => ?_, ?_, rfl⟩
  · dsimp only
    omega
  · dsimp only
    rwa [taken]
  · have all := whole wild
    dsimp only
    omega
  · dsimp only
    rw [score, taken, weighs, late]
    simp only [beq_iff_eq]
    omega

theorem mem_of_best {acc : Option ScoredMatch} {ms : List ScoredMatch} {m : ScoredMatch}
    (found : best acc ms = some m) : acc = some m ∨ m ∈ ms := by
  induction ms generalizing acc with
  | nil => exact .inl found
  | cons n ms ih =>
    cases acc with
    | none =>
      rw [best] at found
      rcases ih found with same | later
      · exact .inr (Option.some.inj same ▸ List.mem_cons_self)
      · exact .inr (List.mem_cons_of_mem n later)
    | some b =>
      rw [best] at found
      rcases ih found with same | later
      · split at same
        · exact .inr (Option.some.inj same ▸ List.mem_cons_self)
        · exact .inl same
      · exact .inr (List.mem_cons_of_mem n later)

theorem matchPath_of_absolute {route : String}
    (absolute : (Text.trim route).toList.head? = some '/') (current : String) :
    matchPath route current = matchAt (partsOf route) (RoutePath.split current) true 0 := by
  have written : Text.trim route ≠ "" := by
    intro empty
    rw [empty] at absolute
    cases absolute
  rw [matchPath, if_neg written, if_pos (by simp [absolute]), partsOf]

/-- A route path that starts with a slash matches from the start. -/
theorem matchesFrom_of_absolute {route current : String} {m : ScoredMatch}
    (absolute : (Text.trim route).toList.head? = some '/')
    (found : matchPath route current = some m) :
    MatchesFrom (partsOf route) (RoutePath.split current) 0 m :=
  matchesFrom_of_matchAt (Nat.zero_le _) (fun _ => rfl)
    (matchPath_of_absolute absolute current ▸ found)

/-- A route path that starts with a slash matches where its parts cover segments at the start. -/
theorem exists_matchPath {route current : String} {segments rest : List String}
    (absolute : (Text.trim route).toList.head? = some '/')
    (front : RoutePath.split current = segments ++ rest)
    (covers : RoutePart.Covers (partsOf route) segments) :
    ∃ m, matchPath route current = some m := by
  obtain ⟨t, gathered⟩ := exists_tally covers rest
  rw [matchPath_of_absolute absolute, matchAt, List.drop_zero, front, gathered]
  exact ⟨_, rfl⟩

/-- Every match of a route path is one of parts that are read from texts. -/
theorem exists_matchesFrom {route current : String} {m : ScoredMatch}
    (found : matchPath route current = some m) :
    ∃ (texts : List String) (start : Nat),
      MatchesFrom (texts.map RoutePart.ofText) (RoutePath.split current) start m := by
  by_cases absolute : (Text.trim route).toList.head? = some '/'
  · exact ⟨_, 0, matchesFrom_of_absolute absolute found⟩
  · rw [matchPath] at found
    split at found
    · cases found
    · rw [if_neg (by simpa using absolute)] at found
      dsimp only at found
      split at found
      · cases found
      · rcases mem_of_best found with none_yet | among
        · cases none_yet
        · obtain ⟨start, inside, hit⟩ := List.mem_filterMap.mp among
          have early : start ≤ (RoutePath.split current).length :=
            Nat.lt_succ_iff.mp (List.mem_range.mp inside)
          exact ⟨_, start, matchesFrom_of_matchAt early (fun first => Bool.noConfusion first) hit⟩

/-- A route that matches up to the end of the path scores what its parts weigh, above a score that
all of these routes share. -/
theorem score_of_whole {route current : String} {m : ScoredMatch}
    (absolute : (Text.trim route).toList.head? = some '/')
    (found : matchPath route current = some m)
    (whole : m.consumedUntil = (RoutePath.split current).length) :
    m.score = 10000 + 10 * (RoutePath.split current).length + weight (partsOf route) ∧
      RoutePart.Covers (partsOf route) (RoutePath.split current) := by
  obtain ⟨-, -, covers, -, scores, -⟩ := matchesFrom_of_absolute absolute found
  rw [List.drop_zero, Nat.sub_zero, whole, List.take_length] at covers
  rw [if_pos whole, Nat.sub_zero, whole] at scores
  exact ⟨by omega, covers⟩

/-- The part of the greatest weight that a segment can be matched with: the segment itself, unless it
would be read as something else. -/
def heaviest (segment : String) : RoutePart :=
  if RoutePart.ofText segment = .literal segment then .literal segment else .dynamic "x"

theorem heaviest_cases (segment : String) :
    (RoutePart.ofText segment = .literal segment ∧ heaviest segment = .literal segment) ∨
      heaviest segment = .dynamic "x" := by
  rw [heaviest]
  split
  · rename_i plain
    exact .inl ⟨plain, rfl⟩
  · exact .inr rfl

theorem wildcard_not_mem_heaviest (segments : List String) :
    RoutePart.wildcard ∉ segments.map heaviest := by
  intro mem
  obtain ⟨s, -, same⟩ := List.mem_map.mp mem
  rcases heaviest_cases s with ⟨-, plain⟩ | named
  · cases plain.symm.trans same
  · cases named.symm.trans same

theorem covers_heaviest (segments : List String) :
    RoutePart.Covers (segments.map heaviest) segments := by
  induction segments with
  | nil => exact .nil
  | cons s segments ih =>
    rw [List.map_cons]
    rcases heaviest_cases s with ⟨-, plain⟩ | named
    · exact plain ▸ .literal ih
    · exact named ▸ .dynamic ih

theorem ofText_text_heaviest (segment : String) :
    RoutePart.ofText (heaviest segment).text = heaviest segment := by
  rcases heaviest_cases segment with ⟨read, plain⟩ | named
  · rw [plain]
    exact read
  · rw [named]
    decide

theorem text_heaviest_cases (segment : String) :
    (heaviest segment).text = segment ∨ (heaviest segment).text = ":x" := by
  rcases heaviest_cases segment with ⟨-, plain⟩ | named
  · exact .inl (plain ▸ rfl)
  · exact .inr (named ▸ rfl)

/-- A route path with the heaviest parts for some segments. -/
def heaviestRoute (segments : List String) : String :=
  RoutePath.join (segments.map fun s => (heaviest s).text) ++ "/"

theorem heaviestRoute_ne_empty (segments : List String) : heaviestRoute segments ≠ "" := by
  simp [heaviestRoute]

theorem partsOf_heaviestRoute {current : String} {segments : List String}
    (inside : segments ⊆ RoutePath.split current) :
    partsOf (heaviestRoute segments) = segments.map heaviest := by
  have plain : ∀ text ∈ segments.map fun s => (heaviest s).text,
      (text ≠ "" ∧ '/' ∉ text.toList) ∧ '?' ∉ text.toList ∧ '#' ∉ text.toList := by
    intro text mem
    obtain ⟨s, among, rfl⟩ := List.mem_map.mp mem
    rcases text_heaviest_cases s with same | named
    · rw [same]
      exact ⟨Text.mem_pieces (inside among), RoutePath.not_mem_of_mem_split (inside among)⟩
    · rw [named]
      decide
  rw [partsOf, heaviestRoute, RoutePath.split_written (fun s mem => (plain s mem).1)
    fun s mem => (plain s mem).2, List.map_map]
  exact List.map_congr_left fun s _ => ofText_text_heaviest s

/-- Parts that are read from texts and have no wildcard weigh no more than the heaviest parts for the
segments that they cover. -/
theorem weight_le_heaviest {texts segments : List String}
    (covers : RoutePart.Covers (texts.map RoutePart.ofText) segments)
    (tame : RoutePart.wildcard ∉ texts.map RoutePart.ofText) :
    weight (texts.map RoutePart.ofText) ≤ weight (segments.map heaviest) := by
  induction texts generalizing segments with
  | nil =>
    obtain rfl := (RoutePart.covers_nil_iff segments).mp covers
    exact Int.le_refl 0
  | cons text texts ih =>
    rw [List.map_cons] at covers tame ⊢
    cases segments with
    | nil =>
      cases read : RoutePart.ofText text with
      | wildcard => exact absurd (read ▸ List.mem_cons_self) tame
      | dynamic name => exact absurd (read ▸ covers) (RoutePart.not_covers_dynamic_nil name _)
      | literal segment => exact absurd (read ▸ covers) (RoutePart.not_covers_literal_nil segment _)
    | cons s segments =>
      have later : RoutePart.wildcard ∉ texts.map RoutePart.ofText :=
        fun mem => tame (List.mem_cons_of_mem _ mem)
      rw [List.map_cons]
      cases read : RoutePart.ofText text with
      | wildcard => exact absurd (read ▸ List.mem_cons_self) tame
      | dynamic name =>
        rw [read, RoutePart.covers_dynamic_cons_iff] at covers
        have below := ih covers later
        rcases heaviest_cases s with ⟨-, plain⟩ | named
        · rw [plain, weight, weight]
          omega
        · rw [named, weight, weight]
          omega
      | literal segment =>
        rw [read, RoutePart.covers_literal_cons_iff] at covers
        obtain ⟨rfl, covers⟩ := covers
        have plain : heaviest segment = .literal segment := by
          rw [heaviest, if_pos (RoutePart.eq_of_ofText read ▸ read)]
        rw [plain, weight, weight]
        exact Int.add_le_add_left (ih covers later) 220

/-- Parts without a wildcard end where they have taken one segment each. -/
theorem MatchesFrom.consumedUntil_eq {parts : List RoutePart} {current : List String} {start : Nat}
    {m : ScoredMatch} (found : MatchesFrom parts current start m)
    (tame : RoutePart.wildcard ∉ parts) : m.consumedUntil = start + parts.length := by
  have starts := found.starts
  have ends := found.ends
  rw [found.covers.length_eq tame, List.length_take_of_le (by rw [List.length_drop]; omega)]
  omega

section Ends

variable {texts current : List String} {parts : List RoutePart} {start : Nat} {m : ScoredMatch}

/-- A match that leaves a remainder scores no more than the heaviest parts for all segments but the
last one. -/
theorem MatchesFrom.score_le (found : MatchesFrom (texts.map RoutePart.ofText) current start m)
    (leaves : m.consumedUntil < current.length) :
    m.score ≤ weight (current.dropLast.map heaviest) + 10 * (current.length - 1 : Nat) := by
  obtain ⟨starts, -, covers, whole, scores, -⟩ := found
  have tame : RoutePart.wildcard ∉ texts.map RoutePart.ofText :=
    fun wild => Nat.ne_of_lt leaves (whole wild)
  obtain ⟨taken, ends⟩ := Nat.exists_eq_add_of_le starts
  have length : m.consumedUntil - start = taken := by omega
  rw [length] at covers scores
  rw [if_neg (Nat.ne_of_lt leaves)] at scores
  have lighter := weight_le_heaviest covers tame
  -- every segment before the match and after it would add more than a later start does
  let left := current.length - 1 - m.consumedUntil
  have cut : current.dropLast = current.take start ++
      ((current.drop start).take taken ++ ((current.drop start).drop taken).take left) := by
    rw [List.dropLast_eq_take, ← List.take_add, ← List.take_add]
    congr 1
    omega
  have before := le_weight (wildcard_not_mem_heaviest (current.take start))
  have after := le_weight (wildcard_not_mem_heaviest (((current.drop start).drop taken).take left))
  rw [List.length_map, List.length_take_of_le (by omega)] at before
  rw [cut, List.map_append, List.map_append, weight_append (wildcard_not_mem_heaviest _),
    weight_append (wildcard_not_mem_heaviest _)]
  omega

/-- A match of all segments scores no less than a wildcard alone. -/
theorem MatchesFrom.le_score (found : MatchesFrom parts current start m)
    (whole : m.consumedUntil = current.length) : 9880 + 10 * (current.length : Int) ≤ m.score := by
  obtain ⟨starts, -, -, -, scores, -⟩ := found
  have weighs := neg_le_weight parts
  rw [if_pos whole] at scores
  omega

end Ends

/-- Of two routes that match a path from its start, and of which the first has no wildcard, the first
scores higher if it is more specific. Without wildcards this is so where the other is no longer and
has named parts along those of the first, and is shorter or has a named part against a fixed one.
Where the other has a wildcard, it is so if the first matches all of the path and the other has named
parts along those of the first before the wildcard, none of them beyond its end. -/
theorem score_lt_of_namedAlong {route other current : String} {m n : ScoredMatch}
    (absolute : (Text.trim route).toList.head? = some '/')
    (absolute' : (Text.trim other).toList.head? = some '/')
    (found : matchPath route current = some m) (found' : matchPath other current = some n)
    (tame : RoutePart.wildcard ∉ partsOf route) :
    (RoutePart.wildcard ∉ partsOf other -> (partsOf other).length ≤ (partsOf route).length ->
        NamedAlong (partsOf route) (partsOf other) ->
        ((partsOf other).length < (partsOf route).length ∨ ∃ (i : Nat) (name segment : String),
          (partsOf other)[i]? = some (.dynamic name) ∧
            (partsOf route)[i]? = some (.literal segment)) ->
        n.score < m.score) ∧
      ∀ k : Nat, (partsOf other)[k]? = some .wildcard ->
        RoutePart.wildcard ∉ (partsOf other).take k -> k ≤ (partsOf route).length ->
        m.consumedUntil = (RoutePath.split current).length ->
        NamedAlong (partsOf route) ((partsOf other).take k) -> n.score < m.score := by
  have hit := matchesFrom_of_absolute absolute found
  have hit' := matchesFrom_of_absolute absolute' found'
  have scores := hit.scores
  have scores' := hit'.scores
  rw [Nat.sub_zero] at scores scores'
  have ends := hit.ends
  have length := hit.consumedUntil_eq tame
  refine ⟨fun tame' short named more => ?_, fun k at_k tame' short all named => ?_⟩
  · have length' := hit'.consumedUntil_eq tame'
    have heavier := weight_le_of_namedAlong tame tame' short named
    rcases more with shorter | ⟨i, name, segment, there, here⟩
    · -- the other one leaves a segment, so that it does not reach the end
      rw [if_neg (by omega)] at scores'
      split at scores <;> omega
    · have strictly := weight_lt_of_namedAlong tame tame' short named there here
      by_cases same : (partsOf other).length = (partsOf route).length
      · have together : n.consumedUntil = m.consumedUntil := by omega
        rw [together] at scores'
        split at scores <;> omega
      · rw [if_neg (by omega)] at scores'
        split at scores <;> omega
  · obtain ⟨inside, wild⟩ := List.getElem?_eq_some_iff.mp at_k
    have cut : partsOf other =
        (partsOf other).take k ++ .wildcard :: (partsOf other).drop (k + 1) := by
      rw [← wild, List.getElem_cons_drop, List.take_append_drop]
    have size : ((partsOf other).take k).length = k := List.length_take_of_le (by omega)
    have lighter := weight_le_of_namedAlong tame tame' (by omega) named
    have weighs : weight (partsOf other) = weight ((partsOf other).take k) - 120 := by
      rw [cut, weight_append tame', List.take_left' size, weight]
      omega
    have whole := hit'.whole (List.mem_of_getElem? at_k)
    rw [if_pos all] at scores
    rw [if_pos whole] at scores'
    omega

/-- The page of a user scores higher than a shorter route with names, and than all that is there. -/
theorem score_lt_userPage : ∃ m n o : ScoredMatch,
    matchPath "/users/me/edit" "/users/me/edit" = some m ∧
      matchPath "/users/:id" "/users/me/edit" = some n ∧
      matchPath "/users/*" "/users/me/edit" = some o ∧ n.score < m.score ∧ o.score < m.score := by
  have parts : partsOf "/users/me/edit" = [.literal "users", .literal "me", .literal "edit"] := by
    decide +kernel
  have named : partsOf "/users/:id" = [.literal "users", .dynamic "id"] := by decide +kernel
  have wild : partsOf "/users/*" = [.literal "users", .wildcard] := by decide +kernel
  have found : matchPath "/users/me/edit" "/users/me/edit" =
      some ⟨10690, 3, "/users/me/edit"⟩ := by decide +kernel
  have found' : matchPath "/users/:id" "/users/me/edit" = some ⟨360, 2, "/users/me"⟩ := by
    decide +kernel
  have found_wild : matchPath "/users/*" "/users/me/edit" =
      some ⟨10130, 3, "/users/me/edit"⟩ := by decide +kernel
  have fixed (others : List RoutePart) : NamedAlong (partsOf "/users/me/edit") others := by
    intro i name at_i
    have mem := List.mem_of_getElem? at_i
    simp [parts] at mem
  have tame : RoutePart.wildcard ∉ partsOf "/users/me/edit" := by
    rw [parts]
    decide
  have rooted : (Text.trim "/users/me/edit").toList.head? = some '/' ∧
      (Text.trim "/users/:id").toList.head? = some '/' ∧
      (Text.trim "/users/*").toList.head? = some '/' := by decide +kernel
  refine ⟨_, _, _, found, found', found_wild, ?_, ?_⟩
  · refine (score_lt_of_namedAlong rooted.1 rooted.2.1 found found' tame).1 ?_ ?_ (fixed _) (.inl ?_)
    · rw [named]
      decide
    · rw [parts, named]
      decide
    · rw [parts, named]
      decide
  · refine (score_lt_of_namedAlong rooted.1 rooted.2.2 found found_wild tame).2 1 ?_ ?_ ?_ ?_ (fixed _)
    · rw [wild]
      rfl
    · rw [wild]
      decide
    · rw [parts]
      decide
    · decide +kernel

end ViewDoc.RouteScore
