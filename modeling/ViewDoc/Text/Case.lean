import ViewDoc.Text.CaseTable
import ViewDoc.Text.Letter
/-!
Upper and lower case of texts. A character may become several, and a sigma that ends a word has a
lower case of its own.
-/

set_option autoImplicit false

namespace ViewDoc.Text

/-- The image of a code point under the first row that covers it. -/
def shiftBy : List (Nat × Nat × Nat × Nat) -> Nat -> Nat
  | [], n => n
  | (first, last, stride, image) :: rest, n =>
    if n < first then n
    else if n ≤ last then (if (n - first) % stride == 0 then image + (n - first) else n)
    else shiftBy rest n

private def mapped (sequences : List (Nat × List Nat)) (shifts : List (Nat × Nat × Nat × Nat))
    (c : Char) : List Char :=
  match sequences.find? (·.1 == c.toNat) with
  | some (_, image) => image.map Char.ofNat
  | none => [Char.ofNat (shiftBy shifts c.toNat)]

/-- The upper case of a character. -/
def upperOf (c : Char) : List Char :=
  mapped upperSequences upperShifts c

/-- The lower case of a character that is not a sigma at the end of a word. -/
def lowerOf (c : Char) : List Char :=
  mapped lowerSequences lowerShifts c

private def startsCased (cs : List Char) : Bool :=
  match cs.dropWhile fun c => inRanges caseIgnorableRanges c.toNat with
  | [] => false
  | c :: _ => inRanges casedRanges c.toNat

private def lowerFrom (before : List Char) : List Char -> List Char
  | [] => []
  | c :: rest =>
    if c == 'Σ' then
      (if startsCased before && !startsCased rest then 'ς' else 'σ') :: lowerFrom (c :: before) rest
    else lowerOf c ++ lowerFrom (c :: before) rest

/-- The text in lower case. -/
def lower (s : String) : String :=
  .ofList (lowerFrom [] s.toList)

/-- The text with its first character in upper case. -/
def capitalized (s : String) : String :=
  match s.toList with
  | [] => ""
  | c :: rest => .ofList (upperOf c ++ rest)

/-- Whether the rows of a table lead to characters that have a property just where their sources
have it. -/
def shiftsKeep (p : Nat -> Bool) (rows : List (Nat × Nat × Nat × Nat)) : Bool :=
  rows.all fun r => (List.range (r.2.1 + 1 - r.1)).all fun k =>
    k % r.2.2.1 != 0 || decide (r.2.2.2 + k).isValidChar && p (r.2.2.2 + k) == p (r.1 + k)

/-- The same for mappings to several characters, all of which have to have the property. -/
def sequencesKeep (p : Nat -> Bool) (sequences : List (Nat × List Nat)) : Bool :=
  sequences.all fun s => s.2.all (fun n => decide n.isValidChar) && s.2.all p == p s.1

theorem toNat_ofNat {n : Nat} (valid : n.isValidChar) : (Char.ofNat n).toNat = n := by
  rw [Char.ofNat, dif_pos valid]
  rfl

theorem shiftBy_keeps {p : Nat -> Bool} {rows : List (Nat × Nat × Nat × Nat)}
    (kept : shiftsKeep p rows = true) {n : Nat} (valid : n.isValidChar) :
    (shiftBy rows n).isValidChar ∧ p (shiftBy rows n) = p n := by
  induction rows with
  | nil => exact ⟨valid, rfl⟩
  | cons row rest ih =>
    obtain ⟨first, last, stride, image⟩ := row
    rw [shiftsKeep, List.all_cons, Bool.and_eq_true] at kept
    obtain ⟨own, others⟩ := kept
    rw [shiftBy]
    split
    · exact ⟨valid, rfl⟩
    · split
      · split
        · rename_i above within stepped
          have inside : n - first ∈ List.range (last + 1 - first) := by
            rw [List.mem_range]
            omega
          have row := List.all_eq_true.mp own _ inside
          have whole : first + (n - first) = n := by omega
          simp only [beq_iff_eq.mp stepped, bne_self_eq_false, Bool.false_or, whole,
            Bool.and_eq_true, decide_eq_true_eq, beq_iff_eq] at row
          exact row
        · exact ⟨valid, rfl⟩
      · exact ih others

/-- Case mapping keeps a property of characters if its tables do. -/
private theorem all_mapped {p : Nat -> Bool} {sequences : List (Nat × List Nat)}
    {shifts : List (Nat × Nat × Nat × Nat)} (several : sequencesKeep p sequences = true)
    (single : shiftsKeep p shifts = true) (c : Char) :
    (mapped sequences shifts c).all (fun d => p d.toNat) = p c.toNat := by
  rw [mapped]
  split
  · rename_i n image found
    have source : n = c.toNat := by simpa using List.find?_some found
    have own := List.all_eq_true.mp several _ (List.mem_of_find?_eq_some found)
    simp only [Bool.and_eq_true, beq_iff_eq, List.all_eq_true, decide_eq_true_eq] at own
    rw [List.all_map, ← source, ← own.2, Bool.eq_iff_iff, List.all_eq_true, List.all_eq_true]
    refine forall₂_congr fun m mem => ?_
    rw [Function.comp_apply, toNat_ofNat (own.1 m mem)]
  · have point : c.toNat.isValidChar := c.valid
    obtain ⟨valid, same⟩ := shiftBy_keeps single point
    rw [List.all_cons, List.all_nil, Bool.and_true, toNat_ofNat valid]
    exact same

theorem all_upperOf {p : Nat -> Bool} (several : sequencesKeep p upperSequences = true)
    (single : shiftsKeep p upperShifts = true) (c : Char) :
    (upperOf c).all (fun d => p d.toNat) = p c.toNat :=
  all_mapped several single c

theorem all_lowerOf {p : Nat -> Bool} (several : sequencesKeep p lowerSequences = true)
    (single : shiftsKeep p lowerShifts = true) (c : Char) :
    (lowerOf c).all (fun d => p d.toNat) = p c.toNat :=
  all_mapped several single c

theorem all_capitalized {p : Char -> Bool} (kept : ∀ c, (upperOf c).all p = p c) (s : String) :
    (capitalized s).toList.all p = s.toList.all p := by
  rw [capitalized]
  cases chars : s.toList with
  | nil => rfl
  | cons c rest => rw [String.toList_ofList, List.all_append, kept, List.all_cons]

private theorem all_lowerFrom {p : Char -> Bool} (kept : ∀ c, (lowerOf c).all p = p c)
    (sigma : p 'σ' = p 'Σ' ∧ p 'ς' = p 'Σ') (before cs : List Char) :
    (lowerFrom before cs).all p = cs.all p := by
  induction cs generalizing before with
  | nil => rfl
  | cons c rest ih =>
    rw [lowerFrom]
    split
    · rename_i same
      rw [List.all_cons, List.all_cons, ih, beq_iff_eq.mp same]
      split
      · rw [sigma.2]
      · rw [sigma.1]
    · rw [List.all_append, kept, ih, List.all_cons]

theorem all_lower {p : Char -> Bool} (kept : ∀ c, (lowerOf c).all p = p c)
    (sigma : p 'σ' = p 'Σ' ∧ p 'ς' = p 'Σ') (s : String) :
    (lower s).toList.all p = s.toList.all p := by
  rw [lower, String.toList_ofList]
  exact all_lowerFrom kept sigma [] s.toList

end ViewDoc.Text
