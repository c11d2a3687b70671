import Mathlib.Data.List.Infix
import ViewDoc.Package
import ViewDoc.Proofs.Text.Split
/-!
The packages that specifiers name. The name goes up to a slash or to the end, and has a slash inside
only after a scope; this says which name it is.
-/

set_option autoImplicit false

namespace ViewDoc.PackageImport

theorem isBare_iff (source : String) :
    isBare source = true ↔
      ∀ stem ∈ [".", "/", "http://", "https://"], ¬ stem.toList <+: source.toList := by
  change (!(".".toList.isPrefixOf source.toList || "/".toList.isPrefixOf source.toList ||
    "http://".toList.isPrefixOf source.toList || "https://".toList.isPrefixOf source.toList)) =
      true ↔ _
  rw [Bool.not_eq_true', ← Bool.not_eq_true]
  simp only [Bool.or_eq_true, List.isPrefixOf_iff_prefix, not_or, and_assoc, List.forall_mem_cons,
    List.not_mem_nil, IsEmpty.forall_iff, implies_true, and_true]

/-- A part of a list from its start, up to a slash or to the end. -/
def IsFront (cs front : List Char) : Prop :=
  cs = front ∨ ∃ rest, cs = front ++ '/' :: rest

/-- There is one front with a number of slashes inside. -/
theorem IsFront.eq_of_count {cs front other : List Char} (isFront : IsFront cs front)
    (isFront' : IsFront cs other) (same : front.count '/' = other.count '/') : front = other := by
  have shorter {front other : List Char} (isFront : IsFront cs front) (isFront' : IsFront cs other)
      (same : front.count '/' = other.count '/') (short : front.length ≤ other.length) :
      front = other := by
    have before : front <+: cs := by
      obtain rfl | ⟨rest, rfl⟩ := isFront
      · exact List.prefix_rfl
      · exact List.prefix_append _ _
    have before' : other <+: cs := by
      obtain rfl | ⟨rest, rfl⟩ := isFront'
      · exact List.prefix_rfl
      · exact List.prefix_append _ _
    obtain ⟨more, rfl⟩ := List.prefix_of_prefix_length_le before before' short
    -- what the longer one has beyond the shorter one would start with a slash
    cases more with
    | nil => exact (List.append_nil front).symm
    | cons c more =>
      obtain ⟨tail, whole⟩ := before'
      obtain rfl | ⟨rest, rfl⟩ := isFront
      · simp at whole
      · rw [List.append_assoc, List.append_cancel_left_eq] at whole
        obtain rfl : c = '/' := (List.cons.inj whole).1
        rw [List.count_append, List.count_cons_self] at same
        omega
  obtain short | short := Nat.le_total front.length other.length
  · exact shorter isFront isFront' same short
  · exact (shorter isFront' isFront same.symm short).symm

/-- A package is named by a bare specifier: the name is a front of it, with one slash inside if there
is a scope with something after it, else with none. -/
structure Names (source package : String) : Prop where
  bare : isBare source = true
  front : IsFront source.toList package.toList
  slashes : package.toList.count '/' =
    if source.toList.head? = some '@' then min 1 (source.toList.count '/') else 0

theorem Names.unique {source package other : String} (names : Names source package)
    (names' : Names source other) : package = other :=
  String.toList_injective
    (names.front.eq_of_count names'.front (names.slashes.trans names'.slashes.symm))

theorem packageName?_eq_none_iff (source : String) :
    packageName? source = none ↔ isBare source = false := by
  rw [packageName?]
  cases isBare source with
  | false => simp
  | true =>
    have some_piece := List.splitOn_ne_nil '/' source.toList
    simp only [Bool.not_true, Bool.false_eq_true, if_false, Text.split_eq_splitOn]
    split
    · simp
    · simp [some_piece]

/-- The first piece is a front. -/
theorem isFront_head (first : List Char) (rest : List (List Char)) :
    IsFront (['/'].intercalate (first :: rest)) first := by
  cases rest with
  | nil => exact .inl List.intercalate_singleton
  | cons second rest =>
    refine .inr ⟨['/'].intercalate (second :: rest), ?_⟩
    rw [List.intercalate_cons_cons, List.append_assoc, List.singleton_append]

/-- The first two pieces are a front. -/
theorem isFront_pair (first second : List Char) (rest : List (List Char)) :
    IsFront (['/'].intercalate (first :: second :: rest)) (first ++ '/' :: second) := by
  rw [List.intercalate_cons_cons, List.append_assoc, List.singleton_append]
  obtain whole | ⟨more, whole⟩ := isFront_head second rest
  · exact .inl (by rw [whole])
  · exact .inr ⟨more, by rw [whole, List.append_assoc, List.cons_append]⟩

theorem isPrefixOf_at_iff (source : String) :
    "@".toList.isPrefixOf source.toList = true ↔ source.toList.head? = some '@' := by
  rw [List.isPrefixOf_iff_prefix, List.head?_eq_some_iff]
  exact ⟨fun ⟨rest, chars⟩ => ⟨rest, chars.symm⟩, fun ⟨rest, chars⟩ => ⟨rest, chars.symm⟩⟩

section

variable {source package : String} {pieces : List (List Char)} (bare : isBare source = true)
  (plain : ∀ piece ∈ pieces, piece.count '/' = 0)
  (whole : ['/'].intercalate pieces = source.toList)

include bare plain whole

/-- The first two pieces are the package when there is a scope, or the one piece if it is alone. -/
theorem names_of_scope (scope : source.toList.head? = some '@')
    (found : package.toList = ['/'].intercalate (pieces.take 2)) : Names source package := by
  match pieces with
  | [] =>
    rw [← whole] at scope
    cases scope
  | [first] =>
    rw [List.intercalate_singleton] at whole
    have same : package.toList = source.toList := found.trans (List.intercalate_singleton.trans whole)
    refine ⟨bare, .inl same.symm, ?_⟩
    rw [if_pos scope, same, ← whole, plain first List.mem_cons_self]
    rfl
  | first :: second :: rest =>
    have alone : first.count '/' = 0 := plain first List.mem_cons_self
    have single : second.count '/' = 0 :=
      plain second (List.mem_cons_of_mem first List.mem_cons_self)
    have chars : package.toList = first ++ '/' :: second := by
      simpa [List.intercalate_cons_cons] using found
    have slash : '/' ∈ source.toList := by
      rw [← whole, List.intercalate_cons_cons]
      simp
    have some_slash := List.count_pos_iff.mpr slash
    refine ⟨bare, chars ▸ whole ▸ isFront_pair first second rest, ?_⟩
    rw [if_pos scope, chars, List.count_append, List.count_cons_self, alone, single]
    omega

/-- The first piece is the package when there is no scope. -/
theorem names_of_no_scope (scope : ¬ source.toList.head? = some '@')
    (found : pieces.head? = some package.toList) : Names source package := by
  obtain ⟨rest, rfl⟩ := List.head?_eq_some_iff.mp found
  refine ⟨bare, whole ▸ isFront_head package.toList rest, ?_⟩
  rw [if_neg scope, plain package.toList List.mem_cons_self]

end

theorem names_packageName? {source package : String} (found : packageName? source = some package) :
    Names source package := by
  have bare : isBare source = true := by
    by_contra other
    rw [(packageName?_eq_none_iff source).mpr (Bool.eq_false_iff.mpr other)] at found
    cases found
  have whole : ['/'].intercalate (source.toList.splitOn '/') = source.toList :=
    List.intercalate_splitOn '/'
  have plain : ∀ piece ∈ source.toList.splitOn '/', piece.count '/' = 0 := fun piece mem =>
    List.count_eq_zero.mpr (Text.not_mem_of_mem_splitOn mem)
  rw [packageName?, bare, Text.split_eq_splitOn] at found
  simp only [Bool.not_true, Bool.false_eq_true, if_false] at found
  split at found
  · rename_i scope
    refine names_of_scope bare plain whole ((isPrefixOf_at_iff source).mp scope) ?_
    rw [← Option.some.inj found, String.toList_intercalate, ← List.map_take, List.map_map]
    simp [Function.comp_def]
  · rename_i scope
    refine names_of_no_scope bare plain whole (mt (isPrefixOf_at_iff source).mpr scope) ?_
    rw [List.head?_map] at found
    obtain ⟨first, head, rfl⟩ := Option.map_eq_some_iff.mp found
    rw [head, String.toList_ofList]

theorem packageName?_eq_some_iff (source package : String) :
    packageName? source = some package ↔ Names source package := by
  refine ⟨names_packageName?, fun names => ?_⟩
  cases found : packageName? source with
  | none => exact absurd ((packageName?_eq_none_iff source).mp found) (by simp [names.bare])
  | some other => exact congrArg some ((names_packageName? found).unique names)

theorem exists_names {source : String} (bare : isBare source = true) :
    ∃ package, Names source package := by
  cases found : packageName? source with
  | none => exact absurd ((packageName?_eq_none_iff source).mp found) (by simp [bare])
  | some package => exact ⟨package, names_packageName? found⟩

/-- A specifier that is not empty names no empty package. -/
theorem Names.nonempty {source package : String} (names : Names source package)
    (written : source ≠ "") : package ≠ "" := by
  rintro rfl
  obtain empty | ⟨rest, rooted⟩ := names.front
  · exact written (String.toList_injective empty)
  · refine (isBare_iff source).mp names.bare "/" (by simp) ?_
    exact ⟨rest, rooted.symm⟩

end ViewDoc.PackageImport
