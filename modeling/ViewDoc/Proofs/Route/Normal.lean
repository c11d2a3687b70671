import Mathlib.Data.List.Chain
import ViewDoc.Proofs.Text.Split
import ViewDoc.Proofs.Text.Trimmed
import ViewDoc.Route.Path
/-!
Location paths in normal form. A path without query and fragment is only cut at its slashes. Doubled
slashes can be collapsed by passes over the path, each of which replaces every two slashes that follow
one another by one: a run of slashes gets about half as long in a pass, and passes are made until no
slash is doubled. The main statements are that the normal form of a path is made of its segments
alone, that segments which are written with slashes around them are read back, that the passes end
with every run collapsed to one slash, and that a normal path starts with a slash, has no doubled one,
no query and no fragment, and ends with a slash only as the root.
-/

set_option autoImplicit false

namespace ViewDoc.RoutePath

/-- Slashes that follow one another cut like a single one. -/
theorem pieces_append_collapse (front cs : List Char) :
    Text.pieces '/' (.ofList (front ++ collapse cs)) = Text.pieces '/' (.ofList (front ++ cs)) := by
  induction cs generalizing front with
  | nil => rfl
  | cons c rest ih =>
    rw [collapse]
    by_cases slash : c = '/'
    · subst slash
      rw [Text.pieces_append_cons]
      split
      · rename_i doubled
        obtain ⟨more, rfl⟩ : ∃ more, rest = '/' :: more := by
          cases rest with
          | nil => simp at doubled
          | cons d more => exact ⟨more, by simpa using doubled⟩
        rw [ih, Text.pieces_append_cons, Text.pieces_cons]
      · rw [Text.pieces_append_cons, ← List.nil_append (collapse rest), ih, List.nil_append]
    · rw [if_neg (by simp [slash]), List.append_cons, ih, ← List.append_cons]

theorem pieces_withoutFinalSlash (cs : List Char) :
    Text.pieces '/' (.ofList (withoutFinalSlash cs)) = Text.pieces '/' (.ofList cs) := by
  rw [withoutFinalSlash]
  split
  · rename_i closed
    obtain ⟨-, last⟩ := Bool.and_eq_true_iff.mp closed
    have whole : cs.dropLast ++ ['/'] = cs :=
      List.dropLast_append_getLast? '/' (by simpa using last)
    have cut := Text.pieces_append_cons '/' cs.dropLast []
    rw [whole, Text.pieces_nil, List.append_nil] at cut
    exact cut.symm
  · rfl

theorem pieces_rooted (cs : List Char) :
    Text.pieces '/' (.ofList (rooted cs)) = Text.pieces '/' (.ofList cs) := by
  rw [rooted]
  split
  · rfl
  · exact Text.pieces_cons '/' cs

theorem head?_rooted (cs : List Char) : (rooted cs).head? = some '/' := by
  rw [rooted]
  split
  · rename_i slash
    simpa using slash
  · rfl

/-- The segments of a path are the pieces of what stands before its query and its fragment. -/
theorem split_eq_pieces (path : String) :
    split path = Text.pieces '/' (Text.before '?' (Text.before '#' (Text.trim path))) := by
  rw [split, normalize]
  split
  · rename_i empty
    rw [empty]
    decide
  · rw [pieces_withoutFinalSlash, ← List.nil_append (collapse _), pieces_append_collapse,
      List.nil_append, pieces_rooted, String.ofList_toList]

/-- A path that has no query and no fragment is only cut. -/
theorem split_of_plain {path : String} (no_query : '?' ∉ (Text.trim path).toList)
    (no_fragment : '#' ∉ (Text.trim path).toList) :
    split path = Text.pieces '/' (Text.trim path) := by
  rw [split_eq_pieces, Text.before_of_not_mem no_fragment, Text.before_of_not_mem no_query]

/-- Neither a query nor a fragment is left in the segments of a path. -/
theorem not_mem_of_mem_split {path segment : String} (mem : segment ∈ split path) :
    '?' ∉ segment.toList ∧ '#' ∉ segment.toList := by
  rw [split_eq_pieces] at mem
  have inside {c : Char} (other : c ≠ '/') (present : c ∈ segment.toList) :
      c ∈ (Text.before '?' (Text.before '#' (Text.trim path))).toList :=
    (Text.mem_iff_exists_mem_pieces other _).mpr ⟨segment, mem, present⟩
  refine ⟨fun present => ?_, fun present => ?_⟩
  · exact Text.not_mem_before '?' _ (inside (by decide) present)
  · exact Text.not_mem_before '#' _ (Text.mem_of_mem_before (inside (by decide) present))

theorem head?_join (segments : List String) (more : String) :
    (join segments ++ more).toList.head? = some '/' := by
  simp [join]

theorem trim_written (segments : List String) :
    Text.trim (join segments ++ "/") = join segments ++ "/" := by
  refine Text.trim_of_trimmed ⟨by simp [join], fun c first => ?_, fun c last => ?_⟩
  · rw [head?_join] at first
    obtain rfl : '/' = c := Option.some.inj first
    decide
  · rw [String.toList_append, List.getLast?_append] at last
    obtain rfl : '/' = c := by simpa using last
    decide

theorem pieces_join_append {segments : List String}
    (plain : ∀ s ∈ segments, s ≠ "" ∧ '/' ∉ s.toList) :
    Text.pieces '/' (join segments) = segments ∧
      Text.pieces '/' (join segments ++ "/") = segments := by
  have text : join segments = .ofList ('/' :: ("/".intercalate segments).toList) := by
    rw [← String.toList_inj, join]
    simp
  have closed : join segments ++ "/" =
      .ofList ('/' :: ((("/".intercalate segments).toList ++ '/' :: []))) := by
    rw [← String.toList_inj, join]
    simp
  constructor
  · rw [text, Text.pieces_cons, String.ofList_toList]
    exact Text.pieces_intercalate plain
  · rw [closed, Text.pieces_cons, Text.pieces_append_cons, Text.pieces_nil, List.append_nil,
      String.ofList_toList]
    exact Text.pieces_intercalate plain

theorem eq_nil_of_join_eq {segments : List String}
    (plain : ∀ s ∈ segments, s ≠ "" ∧ '/' ∉ s.toList) (root : join segments = "/") :
    segments = [] := by
  have nothing : Text.pieces '/' "/" = [] := by decide
  rw [← nothing, ← root]
  exact (pieces_join_append plain).1.symm

/-- Segments that are written with slashes around them are the segments of what is written. -/
theorem split_written {segments : List String}
    (plain : ∀ s ∈ segments, s ≠ "" ∧ '/' ∉ s.toList)
    (bare : ∀ s ∈ segments, '?' ∉ s.toList ∧ '#' ∉ s.toList) :
    split (Text.trim (join segments ++ "/")) = segments := by
  have cut : Text.pieces '/' (join segments ++ "/") = segments := (pieces_join_append plain).2
  have trimmed := trim_written segments
  have absent {c : Char} (other : c ≠ '/') (missing : ∀ s ∈ segments, c ∉ s.toList) :
      c ∉ (join segments ++ "/").toList := by
    rw [Text.mem_iff_exists_mem_pieces other, cut]
    rintro ⟨s, mem, inside⟩
    exact missing s mem inside
  rw [trimmed, split_of_plain, trimmed, cut]
  · exact trimmed.symm ▸ absent (by decide) fun s mem => (bare s mem).1
  · exact trimmed.symm ▸ absent (by decide) fun s mem => (bare s mem).2

section Normal

theorem head?_collapse (cs : List Char) : (collapse cs).head? = cs.head? := by
  induction cs with
  | nil => rfl
  | cons c rest ih =>
    rw [collapse]
    split
    · rename_i doubled
      obtain ⟨slash, again⟩ := Bool.and_eq_true_iff.mp doubled
      rw [ih, beq_iff_eq.mp again, beq_iff_eq.mp slash]
      rfl
    · rfl

/-- Of two characters that follow one another at most one is a slash. -/
def Spread (cs : List Char) : Prop :=
  cs.IsChain fun c d => ¬ (c = '/' ∧ d = '/')

theorem spread_collapse (cs : List Char) : Spread (collapse cs) := by
  induction cs with
  | nil => exact .nil
  | cons c rest ih =>
    rw [collapse]
    split
    · exact ih
    · rename_i single
      refine List.isChain_cons.mpr ⟨fun d first both => single ?_, ih⟩
      rw [head?_collapse, Option.mem_def, both.2] at first
      rw [both.1, first]
      rfl

/-- Where at most every other character is a slash, and the last one is none, no piece after the
first is empty. -/
theorem nil_not_mem_tail_splitOn {cs : List Char} (spread : Spread cs)
    (final : cs.getLast? ≠ some '/') : [] ∉ (cs.splitOn '/').tail := by
  induction cs with
  | nil => exact List.not_mem_nil
  | cons c rest ih =>
    obtain ⟨single, below⟩ := List.isChain_cons.mp spread
    cases rest with
    | nil =>
      have other : c ≠ '/' := by simpa using final
      simp [List.splitOn_cons_eq_if_modifyHead, other]
    | cons d more =>
      have later : [] ∉ ((d :: more).splitOn '/').tail :=
        ih below (by rwa [List.getLast?_cons_cons] at final)
      rw [List.splitOn_cons_eq_if_modifyHead]
      split
      · rename_i slash
        have other : d ≠ '/' := fun same => single d rfl ⟨beq_iff_eq.mp slash, same⟩
        rw [List.splitOn_cons_eq_if_modifyHead, if_neg (by simpa using other)] at later ⊢
        cases whole : more.splitOn '/' with
        | nil => exact absurd whole (List.splitOn_ne_nil '/' more)
        | cons head pieces => simpa [whole] using later
      · cases whole : (d :: more).splitOn '/' with
        | nil => exact absurd whole (List.splitOn_ne_nil '/' (d :: more))
        | cons head pieces => simpa [whole] using later

/-- A path in normal form starts with a slash, has no doubled one, and ends with one only when
nothing else is there. -/
structure Normal (cs : List Char) : Prop where
  root : cs.head? = some '/'
  spread : Spread cs
  final : cs.tail ≠ [] -> cs.getLast? ≠ some '/'

theorem normal_withoutFinalSlash {cs : List Char} (root : cs.head? = some '/')
    (spread : Spread cs) : Normal (withoutFinalSlash cs) := by
  rw [withoutFinalSlash]
  split
  · rename_i closed
    obtain ⟨long, last⟩ := Bool.and_eq_true_iff.mp closed
    have whole : cs.dropLast ++ ['/'] = cs :=
      List.dropLast_append_getLast? '/' (by simpa using last)
    refine ⟨?_, spread.prefix (List.dropLast_prefix cs), fun _ again => ?_⟩
    · cases cs with
      | nil => cases root
      | cons c rest =>
        cases rest with
        | nil => simp at long
        | cons d more => simpa using root
    · rw [Spread, ← whole] at spread
      exact (List.isChain_append.mp spread).2.2 '/' again '/' rfl ⟨rfl, rfl⟩
  · rename_i open_end
    refine ⟨root, spread, fun more last => open_end ?_⟩
    cases cs with
    | nil => cases root
    | cons c rest =>
      cases rest with
      | nil => exact absurd rfl more
      | cons d more => simpa using last

theorem join_pieces_of_normal {cs : List Char} (normal : Normal cs) :
    join (Text.pieces '/' (.ofList cs)) = .ofList cs := by
  obtain ⟨root, spread, final⟩ := normal
  cases cs with
  | nil => cases root
  | cons c rest =>
    obtain rfl : c = '/' := by simpa using root
    by_cases nothing : rest = []
    · subst nothing
      decide
    · have filled : [] ∉ rest.splitOn '/' := by
        have later := nil_not_mem_tail_splitOn spread (final nothing)
        rwa [List.splitOn_cons_eq_if_modifyHead, if_pos (beq_self_eq_true '/'),
          List.tail_cons] at later
      have kept : Text.pieces '/' (.ofList rest) = (rest.splitOn '/').map String.ofList := by
        rw [Text.pieces, Text.split_eq_splitOn, String.toList_ofList, List.filter_eq_self]
        intro piece mem
        obtain ⟨w, among, rfl⟩ := List.mem_map.mp mem
        have written : w ≠ [] := fun empty => filled (empty ▸ among)
        simpa using written
      rw [Text.pieces_cons, kept, join, ← String.toList_inj, String.toList_append,
        String.toList_intercalate, List.map_map]
      simp [Function.comp_def, List.intercalate_splitOn]

/-- The characters of a path before its query and its fragment, with a slash in front. -/
def located (path : String) : List Char :=
  rooted (Text.before '?' (Text.before '#' (Text.trim path))).toList

theorem normalize_eq (path : String) :
    normalize path = .ofList (withoutFinalSlash (collapse (located path))) := by
  rw [normalize]
  split
  · rename_i empty
    rw [located, empty]
    decide
  · rfl

theorem normal_normalize (path : String) : Normal (normalize path).toList := by
  rw [normalize_eq, String.toList_ofList]
  refine normal_withoutFinalSlash ?_ (spread_collapse _)
  rw [head?_collapse, located, head?_rooted]

/-- The normal form of a path is made of its segments. -/
theorem normalize_eq_join (path : String) : normalize path = join (split path) := by
  have made := join_pieces_of_normal (normal_normalize path)
  rw [String.ofList_toList] at made
  exact made.symm

theorem normalize_eq_iff {path other : String} :
    normalize path = normalize other ↔ split path = split other := by
  constructor
  · intro same
    rw [split, split, same]
  · intro same
    rw [normalize_eq_join, normalize_eq_join, same]

end Normal

/-- Two slashes follow one another somewhere. -/
def Doubled (cs : List Char) : Prop :=
  ['/', '/'] <:+: cs

/-- One pass from left to right: of two slashes that follow one another one is left. -/
def halve : List Char -> List Char
  | '/' :: '/' :: rest => '/' :: halve rest
  | c :: rest => c :: halve rest
  | [] => []

/-- Passes are made as long as a slash is doubled, and end with some characters. -/
inductive PassesEnd : List Char -> List Char -> Prop
  | done {cs : List Char} : ¬ Doubled cs -> PassesEnd cs cs
  | pass {cs final : List Char} : Doubled cs -> PassesEnd (halve cs) final -> PassesEnd cs final

section Passes

variable {cs rest other final : List Char} {c : Char}

theorem doubled_cons_iff :
    Doubled (c :: rest) ↔ (c = '/' ∧ rest.head? = some '/') ∨ Doubled rest := by
  have first : ['/'] <+: rest ↔ rest.head? = some '/' := by
    cases rest <;> simp [List.cons_prefix_cons, eq_comm]
  rw [Doubled, List.infix_cons_iff, List.cons_prefix_cons, first, ← Doubled, eq_comm]

theorem not_doubled_nil : ¬ Doubled [] := by
  simp [Doubled]

theorem spread_iff_not_doubled : Spread cs ↔ ¬ Doubled cs := by
  induction cs with
  | nil => exact iff_of_true .nil not_doubled_nil
  | cons c rest ih =>
    rw [doubled_cons_iff, not_or, ← ih, Spread, List.isChain_cons, ← Spread]
    refine and_congr_left fun _ => ⟨fun apart both => ?_, fun apart d first both => ?_⟩
    · exact apart '/' both.2 ⟨both.1, rfl⟩
    · exact apart ⟨both.1, both.2 ▸ first⟩

theorem head?_halve (cs : List Char) : (halve cs).head? = cs.head? := by
  fun_cases halve cs <;> rfl

theorem length_halve_le (cs : List Char) : (halve cs).length ≤ cs.length := by
  fun_induction halve cs with
  | case1 rest ih => exact Nat.succ_le_succ (Nat.le_succ_of_le ih)
  | case2 c rest _ ih => exact Nat.succ_le_succ ih
  | case3 => exact Nat.le_refl 0

/-- A pass makes the path shorter as long as a slash is doubled. -/
theorem length_halve_lt (doubled : Doubled cs) : (halve cs).length < cs.length := by
  fun_induction halve cs with
  | case1 rest =>
    exact Nat.succ_lt_succ (Nat.lt_succ_of_le (length_halve_le rest))
  | case2 c rest single ih =>
    rcases doubled_cons_iff.mp doubled with ⟨slash, again⟩ | later
    · obtain ⟨more, rfl⟩ := List.head?_eq_some_iff.mp again
      exact absurd rfl (single more slash)
    · exact Nat.succ_lt_succ (ih later)
  | case3 => exact absurd doubled not_doubled_nil

theorem collapse_cons_congr (first : rest.head? = other.head?)
    (same : collapse rest = collapse other) : collapse (c :: rest) = collapse (c :: other) := by
  rw [collapse, collapse, first, same]

/-- A pass does not change what all runs of slashes collapse to. -/
theorem collapse_halve (cs : List Char) : collapse (halve cs) = collapse cs := by
  fun_induction halve cs with
  | case1 rest ih =>
    have doubled : collapse ('/' :: '/' :: rest) = collapse ('/' :: rest) := by
      rw [collapse]
      simp
    rw [doubled]
    exact collapse_cons_congr (head?_halve rest) ih
  | case2 c rest _ ih => exact collapse_cons_congr (head?_halve rest) ih
  | case3 => rfl

theorem collapse_of_not_doubled (single : ¬ Doubled cs) : collapse cs = cs := by
  induction cs with
  | nil => rfl
  | cons c rest ih =>
    rw [doubled_cons_iff, not_or] at single
    rw [collapse, if_neg (by simpa using single.1), ih single.2]

/-- The passes end, whatever the path, and only with every run of slashes collapsed. -/
theorem passesEnd_iff : PassesEnd cs final ↔ final = collapse cs := by
  constructor
  · intro ends
    induction ends with
    | done single => exact (collapse_of_not_doubled single).symm
    | pass _ _ ih => rw [ih, collapse_halve]
  · rintro rfl
    -- every pass makes the path shorter
    induction length : cs.length using Nat.strongRecOn generalizing cs with
    | ind n ih =>
      by_cases doubled : Doubled cs
      · refine .pass doubled ?_
        rw [← collapse_halve]
        exact ih _ (length ▸ length_halve_lt doubled) rfl
      · rw [collapse_of_not_doubled doubled]
        exact .done doubled

end Passes

/-- A normal path starts with a slash, has no doubled slash, no query and no fragment, and ends with a
slash only if it is nothing else. Its segments have characters and no slashes, and joined they make
it again. It is what the passes over the path end with, without a final slash. -/
theorem normalize_shape (path : String) :
    ((normalize path).toList.head? = some '/' ∧ ¬ Doubled (normalize path).toList ∧
      '?' ∉ (normalize path).toList ∧ '#' ∉ (normalize path).toList ∧
      ((normalize path).toList.getLast? = some '/' -> normalize path = "/")) ∧
    (∀ segment ∈ split path, segment ≠ "" ∧ '/' ∉ segment.toList) ∧
    join (split path) = normalize path ∧
    ∃ final, PassesEnd (located path) final ∧ normalize path = .ofList (withoutFinalSlash final) := by
  obtain ⟨root, spread, final⟩ := normal_normalize path
  have bare {c : Char} (other : c ≠ '/') (absent : ∀ s ∈ split path, c ∉ s.toList) :
      c ∉ (normalize path).toList := by
    rw [Text.mem_iff_exists_mem_pieces other]
    rintro ⟨s, mem, inside⟩
    exact absent s mem inside
  refine ⟨⟨root, spread_iff_not_doubled.mp spread, ?_, ?_, fun last => ?_⟩,
    fun s mem => Text.mem_pieces mem, (normalize_eq_join path).symm, _, passesEnd_iff.mpr rfl,
    normalize_eq path⟩
  · exact bare (by decide) fun s mem => (not_mem_of_mem_split mem).1
  · exact bare (by decide) fun s mem => (not_mem_of_mem_split mem).2
  · have alone : (normalize path).toList.tail = [] := by
      by_contra more
      exact final more last
    obtain ⟨rest, whole⟩ := List.head?_eq_some_iff.mp root
    rw [whole, List.tail_cons] at alone
    rw [← String.toList_inj, whole, alone]
    rfl

end ViewDoc.RoutePath
