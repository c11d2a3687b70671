import Mathlib.Data.List.TakeWhile
import ViewDoc.Text.Split
/-!
Texts cut at separators. The main statement is that texts without a separator, joined by it, are cut
into the same texts again.
-/

set_option autoImplicit false

namespace ViewDoc.Text

/-- What is left of a text between its breaks has the characters that are no breaks. -/
theorem all_splitWhere (isBreak p : Char -> Bool) (cs : List Char) :
    (splitWhere isBreak cs).all (·.all p) = cs.all fun c => isBreak c || p c := by
  induction cs with
  | nil => rfl
  | cons c rest ih =>
    rw [splitWhere, List.all_cons, ← ih]
    split
    · rename_i stops
      rw [List.all_cons, stops]
      rfl
    · rename_i goes
      rw [Bool.eq_false_iff.mpr goes, Bool.false_or]
      split
      · rename_i nothing
        exact absurd nothing (splitWhere_ne_nil isBreak rest)
      · rename_i piece pieces whole
        rw [whole, List.all_cons, List.all_cons, List.all_cons, Bool.and_assoc]

theorem splitWhere_eq_splitOnP (p : Char -> Bool) (cs : List Char) :
    splitWhere p cs = cs.splitOnP p := by
  induction cs with
  | nil => rfl
  | cons c rest ih =>
    rw [splitWhere, ih, List.splitOnP_cons_eq_if_modifyHead]
    split
    · rfl
    · split
      · rename_i nothing
        exact absurd nothing (List.splitOnP_ne_nil p rest)
      · rename_i whole
        rw [whole, List.modifyHead_cons]

theorem split_eq_splitOn (sep : Char) (s : String) :
    split sep s = (s.toList.splitOn sep).map String.ofList := by
  rw [split, splitWhere_eq_splitOnP, List.splitOn_eq_splitOnP]

/-- What stands between separators has none in it. -/
theorem not_mem_of_mem_splitOn {sep : Char} {cs piece : List Char}
    (mem : piece ∈ cs.splitOn sep) : sep ∉ piece := by
  induction cs generalizing piece with
  | nil =>
    obtain rfl := List.mem_singleton.mp mem
    exact List.not_mem_nil
  | cons c rest ih =>
    rw [List.splitOn_cons_eq_if_modifyHead] at mem
    split at mem
    · rcases List.mem_cons.mp mem with rfl | mem
      · exact List.not_mem_nil
      · exact ih mem
    · rename_i plain
      have first : c ≠ sep := by simpa using plain
      cases whole : rest.splitOn sep with
      | nil => exact absurd whole (List.splitOn_ne_nil sep rest)
      | cons head pieces =>
        rw [whole] at ih
        rw [whole, List.modifyHead_cons] at mem
        rcases List.mem_cons.mp mem with rfl | mem
        · rw [List.mem_cons, not_or]
          exact ⟨Ne.symm first, ih List.mem_cons_self⟩
        · exact ih (List.mem_cons_of_mem head mem)

theorem mem_pieces {sep : Char} {s piece : String} (mem : piece ∈ pieces sep s) :
    piece ≠ "" ∧ sep ∉ piece.toList := by
  rw [pieces, List.mem_filter, split_eq_splitOn] at mem
  obtain ⟨mem, nonempty⟩ := mem
  obtain ⟨cs, among, rfl⟩ := List.mem_map.mp mem
  refine ⟨by simpa using nonempty, ?_⟩
  rw [String.toList_ofList]
  exact not_mem_of_mem_splitOn among

theorem split_intercalate {sep : Char} {texts : List String} (written : texts ≠ [])
    (plain : ∀ s ∈ texts, sep ∉ s.toList) :
    split sep ((String.singleton sep).intercalate texts) = texts := by
  have separated : ∀ cs ∈ texts.map String.toList, sep ∉ cs := by
    intro cs mem
    obtain ⟨s, among, rfl⟩ := List.mem_map.mp mem
    exact plain s among
  have cut := List.splitOn_intercalate sep separated (by simpa using written)
  rw [split_eq_splitOn, String.toList_intercalate, String.toList_singleton, cut, List.map_map]
  simp [Function.comp_def]

/-- Nonempty texts without a separator, joined by it, are the pieces of what is joined. -/
theorem pieces_intercalate {sep : Char} {texts : List String}
    (plain : ∀ s ∈ texts, s ≠ "" ∧ sep ∉ s.toList) :
    pieces sep ((String.singleton sep).intercalate texts) = texts := by
  cases texts with
  | nil => rfl
  | cons s rest =>
    rw [pieces, split_intercalate (List.cons_ne_nil s rest) fun t mem => (plain t mem).2,
      List.filter_eq_self]
    exact fun t mem => by simpa using (plain t mem).1

theorem split_of_not_mem {sep : Char} {s : String} (plain : sep ∉ s.toList) : split sep s = [s] := by
  have alone : ∀ t ∈ [s], sep ∉ t.toList := List.forall_mem_singleton.mpr plain
  have whole := split_intercalate (List.cons_ne_nil s []) alone
  rwa [String.intercalate_singleton] at whole

theorem pieces_of_not_mem {sep : Char} {s : String} (plain : sep ∉ s.toList) :
    pieces sep s = [s].filter (· ≠ "") := by
  rw [pieces, split_of_not_mem plain]

theorem split_append_cons (sep : Char) (front rest : List Char) :
    split sep (.ofList (front ++ sep :: rest)) =
      split sep (.ofList front) ++ split sep (.ofList rest) := by
  simp only [split_eq_splitOn, String.toList_ofList, List.splitOn_append_cons_self, List.map_append]

theorem pieces_append_cons (sep : Char) (front rest : List Char) :
    pieces sep (.ofList (front ++ sep :: rest)) =
      pieces sep (.ofList front) ++ pieces sep (.ofList rest) := by
  simp only [pieces, split_eq_splitOn, String.toList_ofList,
    List.splitOn_append_cons_self, List.map_append, List.filter_append]

theorem pieces_nil (sep : Char) : pieces sep (.ofList []) = [] := by
  simp [pieces, split, splitWhere]

theorem pieces_cons (sep : Char) (rest : List Char) :
    pieces sep (.ofList (sep :: rest)) = pieces sep (.ofList rest) := by
  have cut := pieces_append_cons sep [] rest
  rwa [List.nil_append, pieces_nil, List.nil_append] at cut

/-- A character that is no separator stands in a text just when it stands in one of the pieces. -/
theorem mem_iff_exists_mem_pieces {sep c : Char} (other : c ≠ sep) (s : String) :
    c ∈ s.toList ↔ ∃ piece ∈ pieces sep s, c ∈ piece.toList := by
  have inText : (s.toList.all fun d => d == sep || d != c) = true ↔ c ∉ s.toList := by
    rw [List.all_eq_true]
    constructor
    · intro kept mem
      simpa [other] using kept c mem
    · intro absent d mem
      have apart : d ≠ c := fun same => absent (same ▸ mem)
      simp [apart]
  have inPieces : (splitWhere (· == sep) s.toList).all (·.all (· != c)) = true ↔
      ¬ ∃ piece ∈ pieces sep s, c ∈ piece.toList := by
    rw [List.all_eq_true, pieces, split]
    constructor
    · rintro absent ⟨piece, mem, inside⟩
      obtain ⟨cs, among, rfl⟩ := List.mem_map.mp (List.mem_filter.mp mem).1
      rw [String.toList_ofList] at inside
      simpa using List.all_eq_true.mp (absent cs among) c inside
    · intro absent cs among
      rw [List.all_eq_true]
      rintro d inside
      rw [bne_iff_ne]
      rintro rfl
      have written : String.ofList cs ≠ "" := by
        intro empty
        rw [String.ofList_eq_empty_iff.mp empty] at inside
        cases inside
      refine absent ⟨.ofList cs, ?_, by rwa [String.toList_ofList]⟩
      exact List.mem_filter.mpr ⟨List.mem_map_of_mem among, by simpa using written⟩
  rw [← not_iff_not, ← inText, ← inPieces, all_splitWhere]

theorem before_of_not_mem {stop : Char} {s : String} (absent : stop ∉ s.toList) :
    before stop s = s := by
  have all : s.toList.takeWhile (· ≠ stop) = s.toList := by
    rw [List.takeWhile_eq_self_iff]
    intro c mem
    have other : c ≠ stop := fun same => absent (same ▸ mem)
    simpa using other
  rw [before, all, String.ofList_toList]

theorem not_mem_before (stop : Char) (s : String) : stop ∉ (before stop s).toList := by
  rw [before, String.toList_ofList]
  intro mem
  simpa using List.mem_takeWhile_imp mem

theorem mem_of_mem_before {stop c : Char} {s : String} (mem : c ∈ (before stop s).toList) :
    c ∈ s.toList := by
  rw [before, String.toList_ofList] at mem
  exact (List.takeWhile_sublist _).subset mem

end ViewDoc.Text
