import Mathlib.Data.List.DropRight
import ViewDoc.Text.Blank
import ViewDoc.Text.Letter
/-!
Texts without blanks around them. The main statement is that trimming makes one of every text that
is not blank.
-/

set_option autoImplicit false

namespace ViewDoc.Text

/-- A text that holds something and neither starts nor ends with a blank. -/
structure Trimmed (s : String) : Prop where
  nonempty : s ≠ ""
  front : ∀ c ∈ s.toList.head?, isBlank c = false
  back : ∀ c ∈ s.toList.getLast?, isBlank c = false

theorem trimWhere_eq_rdropWhile (p : Char -> Bool) (cs : List Char) :
    trimWhere p cs = (cs.dropWhile p).rdropWhile p :=
  rfl

theorem eq_false_of_mem_head?_dropWhile {p : Char -> Bool} (cs : List Char) {c : Char}
    (first : c ∈ (cs.dropWhile p).head?) : p c = false := by
  have stopped := List.head?_dropWhile_not p cs
  rw [Option.mem_def.mp first] at stopped
  simpa using stopped

theorem trimWhere_eq_nil_iff (p : Char -> Bool) (cs : List Char) :
    trimWhere p cs = [] ↔ cs.all p = true := by
  rw [trimWhere_eq_rdropWhile, List.rdropWhile_eq_nil_iff, List.all_eq_true]
  constructor
  · intro every
    -- a rest would start with a character that does not satisfy `p`
    cases rest : cs.dropWhile p with
    | nil => exact List.dropWhile_eq_nil_iff.mp rest
    | cons c more =>
      have stopped : p c = false := eq_false_of_mem_head?_dropWhile cs (by simp [rest])
      simp [every c (by simp [rest])] at stopped
  · exact fun every c mem => every c ((List.dropWhile_suffix p).subset mem)

theorem trim_eq_empty_iff (s : String) : trim s = "" ↔ isBlankText s = true := by
  rw [trim, isBlankText, ← trimWhere_eq_nil_iff]
  simp

theorem trimmed_trim {s : String} (written : isBlankText s = false) : Trimmed (trim s) := by
  have something : trim s ≠ "" := by simp [trim_eq_empty_iff, written]
  refine ⟨something, fun c first => ?_, fun c last => ?_⟩
  · rw [trim, String.toList_ofList, trimWhere_eq_rdropWhile] at first
    obtain ⟨rest, whole⟩ := List.rdropWhile_prefix isBlank (s.toList.dropWhile isBlank)
    have same : (s.toList.dropWhile isBlank).head? = some c := by
      rw [← whole, List.head?_append, Option.mem_def.mp first]
      rfl
    exact eq_false_of_mem_head?_dropWhile _ same
  · rw [trim, String.toList_ofList, trimWhere, List.getLast?_reverse] at last
    exact eq_false_of_mem_head?_dropWhile _ last

theorem trimmed?_getD (s other : String) :
    (trimmed? s).getD other = if trim s = "" then other else trim s := by
  rw [trimmed?]
  by_cases blank : isBlankText s = true
  · rw [if_pos blank, if_pos ((trim_eq_empty_iff s).mpr blank)]
    rfl
  · rw [if_neg blank, if_neg (mt (trim_eq_empty_iff s).mp blank)]
    rfl

theorem trimmed_getD {s other : String} (stands : Trimmed other) :
    Trimmed ((trimmed? s).getD other) := by
  rw [trimmed?]
  split
  · exact stands
  · rename_i written
    exact trimmed_trim (Bool.eq_false_iff.mpr written)

theorem trimmed_of_forall {s : String} (nonempty : s ≠ "")
    (visible : ∀ c ∈ s.toList, isBlank c = false) : Trimmed s :=
  ⟨nonempty, fun c mem => visible c (List.mem_of_mem_head? mem),
    fun c mem => visible c (List.mem_of_mem_getLast? mem)⟩

theorem mem_dropWhile_of_mem {p : Char -> Bool} {cs : List Char} {c : Char} (mem : c ∈ cs)
    (stays : p c = false) : c ∈ cs.dropWhile p := by
  rw [← List.takeWhile_append_dropWhile (p := p) (l := cs), List.mem_append] at mem
  rcases mem with before | after
  · have dropped : p c = true := List.mem_takeWhile_imp before
    rw [stays] at dropped
    cases dropped
  · exact after

/-- Trimming takes nothing away but blanks. -/
theorem mem_trim_of_mem {s : String} {c : Char} (mem : c ∈ s.toList)
    (visible : isBlank c = false) : c ∈ (trim s).toList := by
  rw [trim, String.toList_ofList, trimWhere, List.mem_reverse]
  refine mem_dropWhile_of_mem ?_ visible
  rw [List.mem_reverse]
  exact mem_dropWhile_of_mem mem visible

/-- Trimming adds nothing. -/
theorem mem_of_mem_trim {s : String} {c : Char} (mem : c ∈ (trim s).toList) : c ∈ s.toList := by
  rw [trim, String.toList_ofList, trimWhere_eq_rdropWhile] at mem
  exact (List.dropWhile_suffix isBlank).subset ((List.rdropWhile_prefix isBlank _).subset mem)

/-- Of a text without blanks around it nothing is taken away where nothing but blanks would be. -/
theorem trimWhere_of_trimmed {p : Char -> Bool} {s : String} (trimmed : Trimmed s)
    (stays : ∀ c, isBlank c = false -> p c = false) : trimWhere p s.toList = s.toList := by
  have front : s.toList.dropWhile p = s.toList := by
    cases chars : s.toList with
    | nil => rfl
    | cons c rest =>
      have first : p c = false := stays c (trimmed.front c (by rw [chars]; rfl))
      exact List.dropWhile_cons_of_neg (by simp [first])
  have back : s.toList.rdropWhile p = s.toList := by
    rw [List.rdropWhile_eq_self_iff]
    intro written
    have last : p (s.toList.getLast written) = false :=
      stays _ (trimmed.back _ (List.getLast?_eq_getLast_of_ne_nil written))
    simp [last]
  rw [trimWhere_eq_rdropWhile, front, back]

theorem trim_of_trimmed {s : String} (trimmed : Trimmed s) : trim s = s := by
  rw [trim, trimWhere_of_trimmed trimmed fun _ visible => visible, String.ofList_toList]

/-- The text without the blanks at its end. -/
def withoutFinalBlanks (s : String) : String :=
  .ofList (s.toList.rdropWhile isBlank)

theorem withoutFinalBlanks_eq_self_iff {s : String} :
    withoutFinalBlanks s = s ↔ ∀ c ∈ s.toList.getLast?, isBlank c = false := by
  rw [withoutFinalBlanks, ← String.toList_inj, String.toList_ofList, List.rdropWhile_eq_self_iff]
  constructor
  · intro stays c last
    obtain ⟨written, rfl⟩ := List.mem_getLast?_eq_getLast last
    simpa using stays written
  · intro visible written
    simpa using visible _ (List.getLast?_eq_getLast_of_ne_nil written)

/-- What is taken away at the end goes no further than a character that stays. -/
theorem rdropWhile_append_cons {p : Char -> Bool} {c : Char} (stays : p c = false)
    (front rest : List Char) :
    (front ++ c :: rest).rdropWhile p = front ++ c :: rest.rdropWhile p := by
  induction rest using List.reverseRecOn with
  | nil =>
    rw [List.rdropWhile_nil]
    exact List.rdropWhile_concat_neg p front c (by simp [stays])
  | append_singleton rest d ih =>
    rw [← List.cons_append, ← List.append_assoc, List.rdropWhile_concat, List.rdropWhile_concat, ih]
    split
    · rfl
    · rw [List.append_assoc, List.cons_append]

/-- Where no blank stands in front, trimming only takes away what stands at the end. -/
theorem trim_of_head? {s : String} (front : ∀ c ∈ s.toList.head?, isBlank c = false) :
    trim s = withoutFinalBlanks s := by
  rw [trim, trimWhere_eq_rdropWhile, withoutFinalBlanks]
  cases chars : s.toList with
  | nil => rfl
  | cons c rest =>
    have first : isBlank c = false := front c (by rw [chars]; rfl)
    rw [List.dropWhile_cons_of_neg (by simp [first])]

theorem mem_of_mem_withoutFinalBlanks {s : String} {c : Char}
    (mem : c ∈ (withoutFinalBlanks s).toList) : c ∈ s.toList := by
  rw [withoutFinalBlanks, String.toList_ofList] at mem
  exact (List.rdropWhile_prefix isBlank _).subset mem

theorem isBlank_eq_false {c : Char} (low : 32 < c.toNat) (high : c.toNat < 133) :
    isBlank c = false := by
  simp [isBlank, blankRanges, inRanges]
  omega

theorem isBlank_of_isAsciiLetter {c : Char} (letter : isAsciiLetter c = true) :
    isBlank c = false := by
  simp only [isAsciiLetter, Bool.or_eq_true, Bool.and_eq_true, decide_eq_true_eq, Char.le_def,
    UInt32.le_iff_toNat_le] at letter
  change (97 ≤ c.toNat ∧ c.toNat ≤ 122) ∨ (65 ≤ c.toNat ∧ c.toNat ≤ 90) at letter
  exact isBlank_eq_false (by omega) (by omega)

theorem isBlank_of_isAsciiDigit {c : Char} (digit : isAsciiDigit c = true) :
    isBlank c = false := by
  simp only [isAsciiDigit, Bool.and_eq_true, decide_eq_true_eq, Char.le_def,
    UInt32.le_iff_toNat_le] at digit
  change 48 ≤ c.toNat ∧ c.toNat ≤ 57 at digit
  exact isBlank_eq_false (by omega) (by omega)

end ViewDoc.Text
