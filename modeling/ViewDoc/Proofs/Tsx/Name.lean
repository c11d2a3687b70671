import Mathlib.Data.List.Nodup
import Mathlib.Data.List.Perm.Subperm
import ViewDoc.Proofs.Canonical.Place
import ViewDoc.Tsx.Name
/-!
Names in generated code: every text becomes a name, a name stays as it is, the setters of two names
agree where the names agree but for the case of the first character, and a fresh name is one that is
not taken.
-/

set_option autoImplicit false

namespace ViewDoc.Tsx

/-- A text that is a name as it stands. -/
def IsName (s : String) : Prop :=
  ∃ c rest, s.toList = c :: rest ∧ isNameStart c = true ∧ ∀ d ∈ rest, isNameChar d = true

theorem isNameChar_of_isNameStart {c : Char} (start : isNameStart c = true) :
    isNameChar c = true := by
  rw [isNameChar, start, Bool.true_or]

/-- The character that stands for another in a name. -/
def nameChar (c : Char) : Char :=
  if isNameChar c then c else '_'

theorem isNameChar_nameChar (c : Char) : isNameChar (nameChar c) = true := by
  rw [nameChar]
  split
  · assumption
  · rfl

theorem identifier_eq (s : String) :
    identifier s = match s.toList.map nameChar with
      | [] => "_"
      | c :: rest => .ofList (if isNameStart c then c :: rest else '_' :: c :: rest) :=
  rfl

theorem isName_identifier (s : String) : IsName (identifier s) := by
  have each : ∀ d ∈ s.toList.map nameChar, isNameChar d = true := by
    intro d mem
    obtain ⟨c, -, rfl⟩ := List.mem_map.mp mem
    exact isNameChar_nameChar c
  rw [identifier_eq]
  cases shown : s.toList.map nameChar with
  | nil => exact ⟨'_', [], rfl, rfl, List.forall_mem_nil _⟩
  | cons c rest =>
    rw [shown] at each
    obtain ⟨head, tail⟩ := List.forall_mem_cons.mp each
    dsimp only
    split
    · rename_i start
      exact ⟨c, rest, String.toList_ofList, start, tail⟩
    · exact ⟨'_', c :: rest, String.toList_ofList, rfl, each⟩

theorem identifier_eq_self {s : String} (name : IsName s) : identifier s = s := by
  obtain ⟨c, rest, chars, start, tail⟩ := name
  have kept : s.toList.map nameChar = c :: rest := by
    have same (d : Char) (ok : isNameChar d = true) : nameChar d = d := if_pos ok
    rw [chars, List.map_cons, same c (isNameChar_of_isNameStart start),
      List.map_congr_left fun d mem => same d (tail d mem), List.map_id']
  rw [identifier_eq, kept]
  dsimp only
  rw [if_pos start, ← chars, String.ofList_toList]

theorem identifier_identifier (s : String) : identifier (identifier s) = identifier s :=
  identifier_eq_self (isName_identifier s)

/-- The characters of a text with the first in upper case. -/
def capitalized (s : String) : List Char :=
  match s.toList with
  | [] => []
  | c :: rest => c.toUpper :: rest

theorem toList_setter (s : String) : (setter s).toList = "set".toList ++ capitalized s := by
  rw [setter, String.toList_append, capitalized]
  cases s.toList with
  | nil => rfl
  | cons c rest => exact congrArg ("set".toList ++ ·) String.toList_ofList

theorem setter_eq_iff (s t : String) : setter s = setter t ↔ capitalized s = capitalized t := by
  rw [← String.toList_inj, toList_setter, toList_setter, List.append_cancel_left_eq]

theorem setter_prefix (s : String) : "set".toList <+: (setter s).toList := by
  rw [toList_setter]
  exact List.prefix_append _ _

theorem prefix_numbered (base : String) (n : Nat) :
    base.toList <+: (numbered base n).toList := by
  rw [numbered]
  split
  · exact List.prefix_rfl
  · rw [String.toList_append]
    exact List.prefix_append _ _

theorem numbered_injective (base : String) {m n : Nat}
    (same : numbered base m = numbered base n) : m = n := by
  have grown (k : Nat) : numbered base (k + 1) ≠ base := by
    intro same
    have chars := congrArg String.toList same
    rw [numbered, if_neg (Nat.succ_ne_zero k), String.toList_append, Text.toList_ofNat] at chars
    exact Nat.toDigits_ne_nil (List.append_right_eq_self.mp chars)
  cases m with
  | zero =>
    cases n with
    | zero => rfl
    | succ n => exact absurd same.symm (grown n)
  | succ m =>
    cases n with
    | zero => exact absurd same (grown m)
    | succ n =>
      rw [numbered, numbered, if_neg (Nat.succ_ne_zero m), if_neg (Nat.succ_ne_zero n)] at same
      have digits := congrArg String.toList same
      rw [String.toList_append, String.toList_append] at digits
      exact Text.ofNat_injective (String.toList_injective (List.append_cancel_left digits))

theorem numbered_item_ne_index (m n : Nat) : numbered "item" m ≠ numbered "index" n := by
  intro same
  have item := prefix_numbered "item" m
  rw [same] at item
  have short := List.prefix_of_prefix_length_le item (prefix_numbered "index" n) (by decide)
  exact absurd short (by decide)

/-- One of the numbered names is free, as there are more of them than names taken. -/
theorem freshName_not_mem (taken : List String) (base : String) :
    freshName taken base ∉ taken := by
  rw [freshName]
  cases free : ((List.range (taken.length + 1)).map (numbered base)).find?
      fun name => !taken.contains name with
  | some name => simpa using List.find?_some free
  | none =>
    exfalso
    have distinct : ((List.range (taken.length + 1)).map (numbered base)).Nodup :=
      List.nodup_range.map fun _ _ same => numbered_injective base same
    have each : (List.range (taken.length + 1)).map (numbered base) ⊆ taken := by
      intro name mem
      simpa using List.find?_eq_none.mp free name mem
    have short := (List.subperm_of_subset distinct each).length_le
    rw [List.length_map, List.length_range] at short
    omega

/-- A name that is not taken is kept as it is. -/
theorem freshName_eq_self {taken : List String} {base : String} (free : base ∉ taken) :
    freshName taken base = base := by
  rw [freshName, List.range_succ_eq_map, List.map_cons, List.find?_cons_of_pos]
  · rfl
  · simpa [numbered] using free

end ViewDoc.Tsx
