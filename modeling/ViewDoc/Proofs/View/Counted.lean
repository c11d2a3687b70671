import ViewDoc.Action.BuiltIn
import ViewDoc.Proofs.Value.Distinct
import ViewDoc.View.Session
/-!
States after increments. The increment looks for its variable anew each time. The main statements are
that it finds the same one again, whatever it counted before, and that nothing else changes.
-/

set_option autoImplicit false

namespace ViewDoc

namespace Entries

variable {α : Type}

theorem set_of_get? {es : List (String × α)} {key : String} {a : α}
    (found : get? es key = some a) : set es key a = es := by
  induction es with
  | nil => cases found
  | cons head rest ih =>
    obtain ⟨k, b⟩ := head
    rw [get?] at found
    rw [set]
    split
    · rename_i same
      rw [if_pos same] at found
      cases found
      rw [same]
    · rename_i other
      rw [if_neg other] at found
      rw [ih found]

theorem set_set (es : List (String × α)) (key : String) (a b : α) :
    set (set es key a) key b = set es key b := by
  induction es with
  | nil => exact if_pos rfl
  | cons head rest ih =>
    obtain ⟨k, c⟩ := head
    rw [set, set]
    split
    · exact if_pos rfl
    · rename_i other
      rw [set, if_neg other, ih]

theorem get?_of_find? {es : List (String × α)} {p : String × α -> Bool} {key : String} {a : α}
    (distinct : (keys es).Nodup) (found : es.find? p = some (key, a)) : get? es key = some a := by
  induction es with
  | nil => cases found
  | cons head rest ih =>
    obtain ⟨k, b⟩ := head
    obtain ⟨fresh, distinct⟩ := List.nodup_cons.mp distinct
    rw [List.find?_cons] at found
    split at found
    · cases found
      exact if_pos rfl
    · have later : key ∈ keys rest :=
        List.mem_map_of_mem (f := Prod.fst) (List.mem_of_find?_eq_some found)
      have other : k ≠ key := fun same => fresh (same ▸ later)
      rw [get?, if_neg other, ih distinct found]

/-- What is put in the place of the first entry that meets a condition is the first to meet it. -/
theorem find?_set {es : List (String × α)} {p : String × α -> Bool} {key : String} {a b : α}
    (distinct : (keys es).Nodup) (found : es.find? p = some (key, a)) (holds : p (key, b) = true) :
    (set es key b).find? p = some (key, b) := by
  induction es with
  | nil => cases found
  | cons head rest ih =>
    obtain ⟨k, c⟩ := head
    obtain ⟨fresh, distinct⟩ := List.nodup_cons.mp distinct
    rw [List.find?_cons] at found
    split at found
    · cases found
      rw [set, if_pos rfl, List.find?_cons, holds]
    · rename_i fails
      have later : key ∈ keys rest :=
        List.mem_map_of_mem (f := Prod.fst) (List.mem_of_find?_eq_some found)
      have other : k ≠ key := fun same => fresh (same ▸ later)
      rw [set, if_neg other, List.find?_cons, fails, ih distinct found]

end Entries

/-- An integer with one added to it is not loosely equal to what it was. -/
theorem Value.equal_int_succ (i : Int) : (Value.int i).equal (.int (i + 1)) = false := by
  have other : i ≠ i + 1 := by omega
  simp only [equal, isKey, key?, Key.meets, Key.whole?]
  exact beq_eq_false_iff_ne.mpr other

namespace Increment

variable {initial state : Entries} {key : String}

/-- The state variable that the increment finds is `count`, or the first of all that hold a number
where `count` holds none. -/
theorem target?_eq_some_iff :
    target? state = some key ↔
      (Entries.get state "count").isNumber = true ∧ key = "count" ∨
        (Entries.get state "count").isNumber = false ∧
          ∃ v, state.find? (fun e => e.2.isNumber) = some (key, v) := by
  rw [target?]
  split
  · rename_i number
    simp [number, eq_comm]
  · rename_i other
    simp [other]

theorem isNumber_of_target? (distinct : (Entries.keys state).Nodup)
    (counts : target? state = some key) : (Entries.get state key).isNumber = true := by
  rcases target?_eq_some_iff.mp counts with ⟨number, rfl⟩ | ⟨-, v, found⟩
  · exact number
  · rw [Entries.get, Entries.get?_of_find? distinct found]
    have holds := List.find?_some found
    exact holds

/-- With a number in the place of another, the increment finds its variable again. -/
theorem target?_set (distinct : (Entries.keys state).Nodup) (counts : target? state = some key)
    (i : Int) : target? (Entries.set state key (.int i)) = some key := by
  have number := isNumber_of_target? distinct counts
  rw [target?_eq_some_iff]
  rcases target?_eq_some_iff.mp counts with ⟨-, rfl⟩ | ⟨other, v, found⟩
  · refine .inl ⟨?_, rfl⟩
    rw [Entries.get, Entries.get?_set_self]
    rfl
  · have apart : "count" ≠ key := by
      rintro rfl
      rw [number] at other
      cases other
    refine .inr ⟨?_, .int i, Entries.find?_set distinct found rfl⟩
    rw [Entries.get, Entries.get?_set_of_ne _ _ apart]
    exact other

/-- A state is an initial one after a number of increments: its variable has that much more, and all
others are as they were. -/
def Counted (initial : Entries) (n : Nat) (state : Entries) : Prop :=
  match target? initial with
  | some key =>
    ∃ i, Entries.get? initial key = some (.int i) ∧ state = Entries.set initial key (.int (i + n))
  | none => state = initial

/-- States of distinct variables, of which those that hold numbers hold integers. -/
structure Integral (state : Entries) : Prop where
  distinct : (Entries.keys state).Nodup
  integers : ∀ e ∈ state, e.2.isNumber = true -> ∃ i, e.2 = .int i

namespace Integral

variable (h : Integral initial)

include h

theorem get?_target (counts : target? initial = some key) :
    ∃ i, Entries.get? initial key = some (.int i) := by
  have number := isNumber_of_target? h.distinct counts
  rw [Entries.get] at number
  cases found : Entries.get? initial key with
  | none =>
    rw [found] at number
    cases number
  | some v =>
    rw [found] at number
    obtain ⟨i, rfl⟩ := h.integers _ (Entries.mem_of_get? found) number
    exact ⟨i, rfl⟩

theorem counted_zero : Counted initial 0 initial := by
  rw [Counted]
  split
  · rename_i key counts
    obtain ⟨i, found⟩ := h.get?_target counts
    refine ⟨i, found, ?_⟩
    rw [Int.natCast_zero, Int.add_zero, Entries.set_of_get? found]
  · rfl

/-- After any number of increments the next one finds the same variable. -/
theorem target?_of_counted {n : Nat} (counted : Counted initial n state) :
    target? state = target? initial := by
  rw [Counted] at counted
  split at counted
  · rename_i key counts
    obtain ⟨i, -, rfl⟩ := counted
    rw [target?_set h.distinct counts, counts]
  · rw [counted]

end Integral

/-- One more increment is counted. -/
theorem counted_succ {n : Nat} (counted : Counted initial n state)
    (counts : target? initial = some key) :
    Counted initial (n + 1)
      (Entries.merge state (Session.changes state [(key, next (Entries.get state key))])) := by
  rw [Counted, counts] at counted ⊢
  obtain ⟨i, found, rfl⟩ := counted
  have own : Entries.get? (Entries.set initial key (.int (i + n))) key = some (.int (i + n)) :=
    Entries.get?_set_self ..
  have changed : Session.changes (Entries.set initial key (.int (i + n)))
      [(key, next (Entries.get (Entries.set initial key (.int (i + n))) key))] =
      [(key, .int (i + n + 1))] := by
    rw [Entries.get, own]
    simp [Session.changes, own, next, Value.equal_int_succ]
  refine ⟨i, found, ?_⟩
  rw [changed]
  show Entries.set (Entries.set initial key _) key _ = _
  rw [Entries.set_set, Int.natCast_succ, Int.add_assoc]

end Increment

end ViewDoc
