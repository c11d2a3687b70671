import ViewDoc.Proofs.Route.Chosen
/-!
What a nested route goes by when it inherits a remainder. A selection writes the segments that it
leaves as a path, and the route below cuts this path anew, without blanks at its end. The main
statement is that these are the same segments just when no blank stands at the end of the last one.
A path may have such a segment, since what stands before its query or its fragment is not trimmed.
-/

set_option autoImplicit false

namespace ViewDoc

namespace RoutePath

/-- No blank stands at the end of the last segment. -/
def EndsVisibly (segments : List String) : Prop :=
  ∀ segment ∈ segments.getLast?, ∀ c ∈ segment.toList.getLast?, Text.isBlank c = false

/-- The segments that are read from the path of given ones: the last one loses the blanks at its end,
and is gone if it has nothing else. -/
def handedDown (segments : List String) : List String :=
  segments.dropLast ++
    (segments.getLast?.toList.map Text.withoutFinalBlanks).filter (· ≠ "")

section

variable {segments front : List String} {last : String}

theorem handedDown_concat (front : List String) (last : String) :
    handedDown (front ++ [last]) = front ++ [Text.withoutFinalBlanks last].filter (· ≠ "") := by
  simp [handedDown]

theorem exists_join_concat (plain : ∀ s ∈ front, s ≠ "" ∧ '/' ∉ s.toList) (last : String) :
    ∃ before : List Char, (join (front ++ [last])).toList = before ++ '/' :: last.toList ∧
      Text.pieces '/' (.ofList before) = front := by
  by_cases nothing : front = []
  · subst nothing
    exact ⟨[], by simp [join], Text.pieces_nil '/'⟩
  · refine ⟨(join front).toList, ?_, ?_⟩
    · rw [join, String.intercalate_append_of_ne_nil nothing (List.cons_ne_nil last []), join]
      simp
    · rw [String.ofList_toList]
      exact (pieces_join_append plain).1

/-- Segments that are joined are cut into the same ones again, up to the blanks at the end. -/
theorem split_join_eq (plain : ∀ s ∈ segments, s ≠ "" ∧ '/' ∉ s.toList)
    (bare : ∀ s ∈ segments, '?' ∉ s.toList ∧ '#' ∉ s.toList) :
    split (join segments) = handedDown segments := by
  have absent {c : Char} (other : c ≠ '/') (missing : ∀ s ∈ segments, c ∉ s.toList) :
      c ∉ (Text.trim (join segments)).toList := by
    intro mem
    have inside := Text.mem_of_mem_trim mem
    rw [Text.mem_iff_exists_mem_pieces other, (pieces_join_append plain).1] at inside
    obtain ⟨s, among, there⟩ := inside
    exact missing s among there
  have slash : Text.isBlank '/' = false := by decide
  rw [split_of_plain (absent (by decide) fun s mem => (bare s mem).1)
    (absent (by decide) fun s mem => (bare s mem).2)]
  rcases List.eq_nil_or_concat' segments with rfl | ⟨front, last, rfl⟩
  · decide
  · obtain ⟨front_plain, last_plain⟩ := List.forall_mem_append.mp plain
    obtain ⟨before, text, cut⟩ := exists_join_concat front_plain last
    have first : ∀ c ∈ (join (front ++ [last])).toList.head?, Text.isBlank c = false := by
      intro c head
      rw [join, String.toList_append] at head
      obtain rfl : '/' = c := Option.some.inj head
      exact slash
    have unslashed : '/' ∉ (Text.withoutFinalBlanks last).toList := fun mem =>
      (last_plain last List.mem_cons_self).2 (Text.mem_of_mem_withoutFinalBlanks mem)
    rw [Text.trim_of_head? first, Text.withoutFinalBlanks, text, Text.rdropWhile_append_cons slash,
      Text.pieces_append_cons, cut, ← Text.withoutFinalBlanks, Text.pieces_of_not_mem unslashed,
      handedDown_concat]

theorem handedDown_eq_self_iff (plain : ∀ s ∈ segments, s ≠ "" ∧ '/' ∉ s.toList) :
    handedDown segments = segments ↔ EndsVisibly segments := by
  rcases List.eq_nil_or_concat' segments with rfl | ⟨front, last, rfl⟩
  · exact iff_of_true rfl nofun
  · have written : last ≠ "" := (plain last (by simp)).1
    have kept : [Text.withoutFinalBlanks last].filter (· ≠ "") = [last] ↔
        Text.withoutFinalBlanks last = last := by
      by_cases gone : Text.withoutFinalBlanks last = ""
      · rw [gone]
        exact iff_of_false (by simp) (Ne.symm written)
      · simp [gone]
    rw [handedDown_concat, List.append_right_inj, kept, Text.withoutFinalBlanks_eq_self_iff,
      EndsVisibly, List.getLast?_concat]
    exact ⟨fun visible s same => Option.some.inj same ▸ visible, fun visible => visible last rfl⟩

theorem endsVisibly_drop_iff (segments : List String) (k : Nat) :
    EndsVisibly (segments.drop k) ↔ segments.length ≤ k ∨ EndsVisibly segments := by
  rw [EndsVisibly, List.getLast?_drop]
  split
  · rename_i beyond
    exact iff_of_true nofun (.inl beyond)
  · rename_i within
    rw [or_iff_right within, EndsVisibly]

end

end RoutePath

namespace RouteSelection

/-- The segments that a selection leaves to the routes below: those behind the best match, or all. -/
def left (cs : List RouteCandidate) (path : String) : List String :=
  match bestCandidate path 0 none cs with
  | some (_, m) => (RoutePath.split path).drop m.consumedUntil
  | none => RoutePath.split path

theorem exists_left_eq_drop (cs : List RouteCandidate) (path : String) :
    ∃ k, left cs path = (RoutePath.split path).drop k := by
  rw [left]
  split
  · exact ⟨_, rfl⟩
  · exact ⟨0, rfl⟩

theorem remainder_select (cs : List RouteCandidate) (path : String) :
    (select cs path).remainder = RoutePath.join (left cs path) := by
  rw [left]
  cases best_eq : bestCandidate path 0 none cs with
  | some found => rw [select, best_eq]
  | none =>
    rw [select_of_unmatched (bestOf_none_iff.mp (bestCandidate_eq_iff.mp best_eq))]
    cases index_eq : indexFor cs path with
    | some i =>
      rw [(indexFor_eq_some_iff.mp index_eq).1]
      rfl
    | none => cases cs.findIdx? fun c => c.fallback <;> rfl

end RouteSelection

/-- Whatever number of a path's segments is left out, the others are handed down up to the blanks at
the end of the last one, and so without loss just when there are none of these or no segments. What a
selection leaves is read again from its remainder under the same condition. -/
theorem RoutePath.split_join_drop_iff (path : String) :
    (∀ k, split (join ((split path).drop k)) = handedDown ((split path).drop k)) ∧
      (∀ k, split (join ((split path).drop k)) = (split path).drop k ↔
        (split path).length ≤ k ∨ EndsVisibly (split path)) ∧
      ∀ cs, split (RouteSelection.select cs path).remainder = RouteSelection.left cs path ↔
        RouteSelection.left cs path = [] ∨ EndsVisibly (split path) := by
  have plain (k : Nat) : ∀ s ∈ (split path).drop k, s ≠ "" ∧ '/' ∉ s.toList :=
    fun s mem => Text.mem_pieces (List.mem_of_mem_drop mem)
  have handed (k : Nat) : split (join ((split path).drop k)) = handedDown ((split path).drop k) :=
    split_join_eq (plain k) fun s mem => not_mem_of_mem_split (List.mem_of_mem_drop mem)
  have whole (k : Nat) : split (join ((split path).drop k)) = (split path).drop k ↔
      (split path).length ≤ k ∨ EndsVisibly (split path) := by
    rw [handed, handedDown_eq_self_iff (plain k), endsVisibly_drop_iff]
  refine ⟨handed, whole, fun cs => ?_⟩
  obtain ⟨k, left_eq⟩ := RouteSelection.exists_left_eq_drop cs path
  rw [RouteSelection.remainder_select, left_eq, whole, List.drop_eq_nil_iff]

/-- A path with a blank segment before its fragment. -/
def blankUser : String := "/users/ #top"

/-- The blank segment is left, and is lost on the way to the route below. -/
theorem blankUser_lost :
    (RoutePath.split blankUser).drop 1 = [" "] ∧
      RoutePath.split (RoutePath.join ((RoutePath.split blankUser).drop 1)) = [] ∧
      (RouteSelection.select [{ path := some "/users" }] blankUser).remainder = "/ " ∧
      RouteSelection.left [{ path := some "/users" }] blankUser = [" "] := by
  decide +kernel

end ViewDoc
