import Mathlib.Algebra.Order.Field.Rat
import Mathlib.Data.Int.Cast.Lemmas
import ViewDoc.Proofs.Value.Distinct
import ViewDoc.Value.Key
/-!
Loose equality of values. Numbers are compared by the rational numbers that they are, with the truth
values as zero and one, and objects by their members. The main statement is that this is what the
comparison of two values decides. Every value of JSON is loosely equal to itself.
-/

set_option autoImplicit false

namespace ViewDoc

namespace Binary64

/-- The significand with its sign. -/
def signed (negative : Bool) (significand : Nat) : Int :=
  if negative then -significand else significand

/-- The rational number that a finite number is. -/
def toRat? : Binary64 -> Option ℚ
  | .finite s m e => some (signed s m * 2 ^ e)
  | _ => none

/-- On a grid that is fine enough for it, a finite number is a multiple of the step. -/
theorem signed_mul_zpow (s : Bool) (m : Nat) {e g : Int} (fine : g ≤ e) :
    (signed s m : ℚ) * 2 ^ e = (signed s (m * twoTo (e - g).toNat) : Int) * 2 ^ g := by
  have step : (2 : ℚ) ^ e = 2 ^ (e - g).toNat * 2 ^ g := by
    rw [← zpow_natCast, ← zpow_add₀ two_ne_zero, Int.toNat_of_nonneg (Int.sub_nonneg.mpr fine),
      Int.sub_add_cancel]
  have two : twoTo (e - g).toNat = 2 ^ (e - g).toNat := rfl
  cases s <;> simp [signed, step, two, mul_assoc]

theorem eqNumber_finite_iff (s t : Bool) (m n : Nat) (e f : Int) :
    eqNumber (.finite s m e) (.finite t n f) = true ↔
      toRat? (.finite s m e) = toRat? (.finite t n f) := by
  have grid : eqNumber (.finite s m e) (.finite t n f) =
      (signed s (m * twoTo (e - min e f).toNat) == signed t (n * twoTo (f - min e f).toNat)) := rfl
  have step : (2 : ℚ) ^ min e f ≠ 0 := zpow_ne_zero _ two_ne_zero
  rw [grid, beq_iff_eq, toRat?, toRat?, Option.some.injEq, signed_mul_zpow s m (min_le_left e f),
    signed_mul_zpow t n (min_le_right e f), mul_left_inj' step, Int.cast_inj]

theorem signed_mul (s : Bool) (m n : Nat) : signed s (m * n) = signed s m * n := by
  cases s <;> simp [signed]

/-- A number divided by a divisor is an integer just when the division leaves no rest. -/
theorem quotient_eq_some_iff (s : Bool) (m : Nat) {d : Nat} (pos : 0 < d) (i : Int) :
    (if m % d = 0 then some (signed s (m / d)) else none) = some i ↔ signed s m = i * d := by
  have cancel : (d : Int) ≠ 0 := by omega
  split
  · rename_i exact
    have whole : signed s m = signed s (m / d) * d := by
      rw [← signed_mul, Nat.div_mul_cancel (Nat.dvd_of_mod_eq_zero exact)]
    rw [whole, Option.some.injEq, mul_left_inj' cancel]
  · rename_i rest
    have other : ¬ signed s m = i * d := by
      intro same
      refine rest (Nat.mod_eq_zero_of_dvd (Int.natCast_dvd_natCast.mp ?_))
      have divides : (d : Int) ∣ signed s m := ⟨i, by rw [same, mul_comm]⟩
      cases s with
      | false => exact divides
      | true => exact (Int.dvd_neg).mp divides
    simp [other]

theorem toInt?_finite (s : Bool) (m : Nat) (e : Int) :
    toInt? (.finite s m e) =
      if 0 ≤ e then some (signed s (m * twoTo e.toNat))
      else if m % twoTo (-e).toNat = 0 then some (signed s (m / twoTo (-e).toNat)) else none := by
  rw [toInt?]
  by_cases coarse : 0 ≤ e
  · simp [coarse, signed]
  · by_cases exact : m % twoTo (-e).toNat = 0 <;> cases s <;> simp [coarse, exact, signed]

theorem eqInt_finite_iff (s : Bool) (m : Nat) (e i : Int) :
    eqInt (.finite s m e) i = true ↔ toRat? (.finite s m e) = some (i : ℚ) := by
  rw [eqInt, beq_iff_eq, toInt?_finite, toRat?, Option.some.injEq]
  split
  · rename_i coarse
    rw [signed_mul_zpow s m coarse, Int.sub_zero, zpow_zero, mul_one, Option.some.injEq,
      Int.cast_inj]
  · rename_i fine
    have pos : 0 < twoTo (-e).toNat := Nat.two_pow_pos _
    have step : (2 : ℚ) ^ e = (twoTo (-e).toNat : ℚ)⁻¹ := by
      have two : (twoTo (-e).toNat : ℚ) = 2 ^ (-e).toNat := by simp [twoTo]
      rw [two, ← zpow_natCast, ← zpow_neg, Int.toNat_of_nonneg (by omega), neg_neg]
    have nonzero : (twoTo (-e).toNat : ℚ) ≠ 0 := Nat.cast_ne_zero.mpr pos.ne'
    rw [quotient_eq_some_iff s m pos, step, ← div_eq_mul_inv, div_eq_iff nonzero]
    exact_mod_cast Iff.rfl

theorem eqInt_iff (x : Binary64) (i : Int) : x.eqInt i = true ↔ x.toRat? = some (i : ℚ) := by
  cases x with
  | finite s m e => exact eqInt_finite_iff s m e i
  | _ => simp [eqInt, toInt?, toRat?]

theorem eqNumber_iff (x y : Binary64) :
    x.eqNumber y = true ↔
      (∃ q, x.toRat? = some q ∧ y.toRat? = some q) ∨ ∃ b, x = .infinity b ∧ y = .infinity b := by
  cases x with
  | finite s m e =>
    cases y with
    | finite t n f =>
      rw [eqNumber_finite_iff]
      simp [toRat?, eq_comm]
    | _ => simp [eqNumber, toRat?]
  | infinity s =>
    cases y with
    | infinity t => simp [eqNumber, toRat?, eq_comm (a := s)]
    | _ => simp [eqNumber, toRat?]
  | nan => cases y <;> simp [eqNumber, toRat?]

end Binary64

namespace Value

/-- The number that a value amounts to. Truth values count as zero and one. -/
def amount? : Value -> Option ℚ
  | .bool b => some ((if b then 1 else 0 : Int) : ℚ)
  | .int i => some (i : ℚ)
  | .float x => x.toRat?
  | _ => none

/-- A value that has no parts and amounts to no number. -/
def isWord : Value -> Bool
  | .null | .str _ | .handler _ | .float (.infinity _) => true
  | _ => false

/-- Two values are equal up to the kinds of numbers and the order of entries. -/
inductive LooselyEqual : Value -> Value -> Prop
  | number {v w : Value} {q : ℚ} (left : v.amount? = some q) (right : w.amount? = some q) :
      LooselyEqual v w
  | word {v : Value} (own : v.isWord = true) : LooselyEqual v v
  | list {as bs : List Value} (length : as.length = bs.length)
      (items : ∀ p ∈ as.zip bs, LooselyEqual p.1 p.2) : LooselyEqual (.list as) (.list bs)
  | object {es fs : Entries} (length : es.length = fs.length)
      (present : ∀ e ∈ es, Entries.has fs e.1 = true)
      (members : ∀ e ∈ es, LooselyEqual e.2 (Entries.get fs e.1)) :
      LooselyEqual (.object es) (.object fs)
  | mapping {es fs : List (Key × Value)} (length : es.length = fs.length)
      (present : ∀ e ∈ es, (Keyed.get? fs e.1).isSome = true)
      (members : ∀ e ∈ es, LooselyEqual e.2 ((Keyed.get? fs e.1).getD .null)) :
      LooselyEqual (.mapping es) (.mapping fs)

theorem looselyEqual_of_meets {k l : Key} (met : k.meets l = true) :
    LooselyEqual k.toValue l.toValue := by
  cases k <;> cases l <;> simp only [Key.meets, Key.whole?, Bool.false_eq_true, beq_iff_eq,
    Binary64.eqInt_iff, Binary64.eqNumber_iff] at met
  case null.null => exact .word rfl
  case text.text | handler.handler => exact met ▸ .word rfl
  case bool.bool | bool.int | int.bool | int.int =>
    exact .number (congrArg (some ∘ Int.cast) met) rfl
  case float.bool | float.int => exact .number met rfl
  case bool.float | int.float => exact .number rfl met
  case float.float x y =>
    obtain ⟨q, left, right⟩ | ⟨b, rfl, rfl⟩ := met
    · exact .number left right
    · exact .word rfl

theorem meets_self_of_isWord {k : Key} (word : k.toValue.isWord = true) : k.meets k = true := by
  cases k with
  | float x => cases x <;> simp_all [Key.toValue, isWord, Key.meets, Binary64.eqNumber]
  | _ => simp_all [Key.toValue, isWord, Key.meets]

theorem meets_of_amount? {k l : Key} {q : ℚ} (left : k.toValue.amount? = some q)
    (right : l.toValue.amount? = some q) : k.meets l = true := by
  cases k <;> cases l <;>
    simp only [Key.toValue, amount?, Option.some.injEq, reduceCtorEq] at left right
  case float.float => exact (Binary64.eqNumber_iff _ _).mpr (.inl ⟨q, left, right⟩)
  case float.bool | float.int => exact (Binary64.eqInt_iff _ _).mpr (by rw [left, right])
  case bool.float | int.float => exact (Binary64.eqInt_iff _ _).mpr (by rw [left, right])
  case bool.bool | bool.int | int.bool | int.int =>
    exact beq_iff_eq.mpr (Int.cast_injective (left.trans right.symm))

theorem toValue_injective {k l : Key} (same : k.toValue = l.toValue) : k = l := by
  simpa only [key?_toValue, Option.some.injEq] using congrArg key? same

/-- Two keys are one just when they are loosely equal as values. -/
theorem key_meets_iff (k l : Key) : k.meets l = true ↔ LooselyEqual k.toValue l.toValue := by
  refine ⟨looselyEqual_of_meets, fun same => ?_⟩
  generalize left : k.toValue = v at same
  generalize right : l.toValue = w at same
  cases same with
  | number first second => exact meets_of_amount? (left ▸ first) (right ▸ second)
  | word own =>
    rw [toValue_injective (right.trans left.symm)]
    exact meets_self_of_isWord (left ▸ own)
  | _ => cases k <;> cases left

/-- Nothing but the text itself is loosely equal to a text. -/
theorem looselyEqual_str_iff {v : Value} {s : String} : LooselyEqual v (.str s) ↔ v = .str s := by
  constructor
  · intro same
    cases same with
    | number _ right => cases right
    | word => rfl
  · rintro rfl
    exact .word rfl

theorem LooselyEqual.list_iff {as : List Value} {w : Value} :
    LooselyEqual (.list as) w ↔
      ∃ bs, w = .list bs ∧ as.length = bs.length ∧ ∀ p ∈ as.zip bs, LooselyEqual p.1 p.2 := by
  constructor
  · intro same
    cases same with
    | number left => cases left
    | word own => cases own
    | list length items => exact ⟨_, rfl, length, items⟩
  · rintro ⟨bs, rfl, length, items⟩
    exact .list length items

theorem LooselyEqual.object_iff {es : Entries} {w : Value} :
    LooselyEqual (.object es) w ↔
      ∃ fs, w = .object fs ∧ es.length = fs.length ∧
        ∀ e ∈ es, Entries.has fs e.1 = true ∧ LooselyEqual e.2 (Entries.get fs e.1) := by
  constructor
  · intro same
    cases same with
    | number left => cases left
    | word own => cases own
    | object length present members =>
      exact ⟨_, rfl, length, fun e mem => ⟨present e mem, members e mem⟩⟩
  · rintro ⟨fs, rfl, length, members⟩
    exact .object length (fun e mem => (members e mem).1) fun e mem => (members e mem).2

theorem LooselyEqual.mapping_iff {es : List (Key × Value)} {w : Value} :
    LooselyEqual (.mapping es) w ↔
      ∃ fs, w = .mapping fs ∧ es.length = fs.length ∧
        ∀ e ∈ es, (Keyed.get? fs e.1).isSome = true ∧
          LooselyEqual e.2 ((Keyed.get? fs e.1).getD .null) := by
  constructor
  · intro same
    cases same with
    | number left => cases left
    | word own => cases own
    | mapping length present members =>
      exact ⟨_, rfl, length, fun e mem => ⟨present e mem, members e mem⟩⟩
  · rintro ⟨fs, rfl, length, members⟩
    exact .mapping length (fun e mem => (members e mem).1) fun e mem => (members e mem).2

theorem isKey_iff (v : Value) (k : Key) : v.isKey k = true ↔ LooselyEqual k.toValue v := by
  cases v with
  | list _ | object _ | mapping _ =>
    refine ⟨Bool.noConfusion, fun same => ?_⟩
    cases k <;> cases same <;> rename_i right <;> cases right
  | null => exact key_meets_iff k .null
  | bool b => exact key_meets_iff k (.bool b)
  | int i => exact key_meets_iff k (.int i)
  | float x => exact key_meets_iff k (.float x)
  | str s => exact key_meets_iff k (.text s)
  | handler name => exact key_meets_iff k (.handler name)

mutual

/-- Loose equality is decided by comparing numbers by what they amount to, and objects by their
members. -/
theorem equal_iff (v w : Value) : v.equal w = true ↔ LooselyEqual v w := by
  cases v with
  | list as =>
    rw [LooselyEqual.list_iff]
    cases w with
    | list bs => simp [equal, equalItems_iff as bs]
    | _ => simp [equal]
  | object es =>
    rw [LooselyEqual.object_iff]
    cases w with
    | object fs => simp [equal, equalEntries_iff es fs]
    | _ => simp [equal]
  | mapping es =>
    rw [LooselyEqual.mapping_iff]
    cases w with
    | mapping fs => simp [equal, equalKeyed_iff es fs]
    | _ => simp [equal]
  | null => rw [equal, isKey_iff]; rfl
  | bool b => rw [equal, isKey_iff]; rfl
  | int i => rw [equal, isKey_iff]; rfl
  | float x => rw [equal, isKey_iff]; rfl
  | str s => rw [equal, isKey_iff]; rfl
  | handler name => rw [equal, isKey_iff]; rfl
termination_by structural v

theorem equalItems_iff (as bs : List Value) :
    equalItems as bs = true ↔ as.length = bs.length ∧ ∀ p ∈ as.zip bs, LooselyEqual p.1 p.2 := by
  cases as with
  | nil => cases bs <;> simp [equalItems]
  | cons a as =>
    cases bs with
    | nil => simp [equalItems]
    | cons b bs =>
      rw [equalItems, Bool.and_eq_true, equal_iff a b, equalItems_iff as bs]
      simp [and_left_comm]
termination_by structural as

theorem equalEntries_iff (es : List (String × Value)) (fs : Entries) :
    equalEntries es fs = true ↔
      ∀ e ∈ es, Entries.has fs e.1 = true ∧ LooselyEqual e.2 (Entries.get fs e.1) := by
  cases es with
  | nil => simp [equalEntries]
  | cons e es =>
    obtain ⟨key, a⟩ := e
    have read : Entries.get fs key = (Entries.get? fs key).getD .null := rfl
    rw [equalEntries, Bool.and_eq_true, equalEntries_iff es fs, List.forall_mem_cons, Entries.has,
      read]
    refine and_congr_left fun _ => ?_
    cases Entries.get? fs key with
    | none => simp
    | some b => simpa using equal_iff a b
termination_by structural es

theorem equalKeyed_iff (es fs : List (Key × Value)) :
    equalKeyed es fs = true ↔
      ∀ e ∈ es, (Keyed.get? fs e.1).isSome = true ∧
        LooselyEqual e.2 ((Keyed.get? fs e.1).getD .null) := by
  cases es with
  | nil => simp [equalKeyed]
  | cons e es =>
    obtain ⟨key, a⟩ := e
    rw [equalKeyed, Bool.and_eq_true, equalKeyed_iff es fs, List.forall_mem_cons]
    refine and_congr_left fun _ => ?_
    cases Keyed.get? fs key with
    | none => simp
    | some b => simpa using equal_iff a b
termination_by structural es

end

mutual

/-- A value of JSON: its numbers are finite, and its objects have distinct keys that are texts. -/
def isJson : Value -> Bool
  | .float x => x.isFinite
  | .list items => itemsAreJson items
  | .object es => decide (Entries.keys es).Nodup && membersAreJson es
  | .mapping _ | .handler _ => false
  | _ => true

/-- The same for items. -/
def itemsAreJson : List Value -> Bool
  | [] => true
  | v :: rest => v.isJson && itemsAreJson rest

/-- The same for the values of entries. -/
def membersAreJson : List (String × Value) -> Bool
  | [] => true
  | (_, v) :: rest => v.isJson && membersAreJson rest

end

theorem isJson_object {es : Entries} :
    (object es).isJson = true ↔ (Entries.keys es).Nodup ∧ membersAreJson es = true := by
  rw [isJson, Bool.and_eq_true, decide_eq_true_iff]

mutual

theorem looselyEqual_self {v : Value} (json : v.isJson = true) : LooselyEqual v v := by
  cases v with
  | null | str _ => exact .word rfl
  | bool _ | int _ => exact .number rfl rfl
  | float x =>
    cases x with
    | finite s m e => exact .number rfl rfl
    | _ => cases json
  | list items =>
    rw [isJson] at json
    refine .list rfl fun p mem => ?_
    rw [List.zip_eq_zipWith, List.zipWith_self] at mem
    obtain ⟨v, among, rfl⟩ := List.mem_map.mp mem
    exact looselyEqual_self_of_mem json v among
  | object es =>
    rw [isJson_object] at json
    have found {e : String × Value} (mem : e ∈ es) : Entries.get? es e.1 = some e.2 :=
      Entries.get?_of_mem json.1 mem
    refine .object rfl (fun e mem => ?_) fun e mem => ?_
    · rw [Entries.has, found mem]
      rfl
    · have read : Entries.get es e.1 = e.2 := congrArg (Option.getD · Value.null) (found mem)
      rw [read]
      exact looselyEqual_self_of_member json.2 e mem
  | mapping _ | handler _ => cases json
termination_by structural v

theorem looselyEqual_self_of_mem {items : List Value} (json : itemsAreJson items = true) :
    ∀ v ∈ items, LooselyEqual v v := by
  cases items with
  | nil => exact fun v mem => (List.not_mem_nil mem).elim
  | cons v rest =>
    rw [itemsAreJson, Bool.and_eq_true] at json
    exact List.forall_mem_cons.mpr ⟨looselyEqual_self json.1, looselyEqual_self_of_mem json.2⟩
termination_by structural items

theorem looselyEqual_self_of_member {es : List (String × Value)} (json : membersAreJson es = true) :
    ∀ e ∈ es, LooselyEqual e.2 e.2 := by
  cases es with
  | nil => exact fun v mem => (List.not_mem_nil mem).elim
  | cons e rest =>
    obtain ⟨key, v⟩ := e
    rw [membersAreJson, Bool.and_eq_true] at json
    exact List.forall_mem_cons.mpr ⟨looselyEqual_self json.1, looselyEqual_self_of_member json.2⟩
termination_by structural es

end

end Value

end ViewDoc
