import ViewDoc.Proofs.Ref.Resolved
import ViewDoc.Proofs.Value.Distinct
/-!
References inside of values. Steps lead from a value to its items and its members, and so to the
references in it. The main statements are that a reference on the levels which are resolved becomes
what it reads, in its place, and that a deeper one stays as it stands.
-/

set_option autoImplicit false

namespace ViewDoc.Value

/-- What a step leads to: an item of a list, or the member of an object under a key. -/
def part? : Value -> Path.Step -> Option Value
  | .list items, .index i => items[i]?
  | .object es, .key key => Entries.get? es key
  | _, _ => none

/-- What steps lead to. -/
def at? : Value -> List Path.Step -> Option Value
  | v, [] => some v
  | v, s :: rest => (v.part? s).bind fun w => w.at? rest

/-- Steps lead to a reference, and to none before. -/
inductive Occurs (r : Ref) : Value -> List Path.Step -> Prop
  | here {v : Value} (ref : Ref.ofValue? v = some r) : Occurs r v []
  | inside {v w : Value} {s : Path.Step} {rest : List Path.Step} (plain : Ref.ofValue? v = none)
      (part : v.part? s = some w) (occurs : Occurs r w rest) : Occurs r v (s :: rest)

/-- Every value above the end of the steps contains a reference down to the usual depth, counted
from this value. -/
def RefsAbove : Value -> List Path.Step -> Prop
  | _, [] => True
  | v, s :: rest =>
    v.containsRef defaultDepth = true ∧ ∀ w, v.part? s = some w -> w.RefsAbove rest

variable {ctx : Context} {level : Nat} {v w : Value} {r : Ref} {s : Path.Step}
  {steps : List Path.Step}

/-- What is no reference has, where a step leads, what stood there resolved on one level less. -/
theorem part?_resolveContents (plain : Ref.ofValue? v = none)
    (done : resolveContents ctx level v = .ok w) (s : Path.Step) :
    Option.Rel (fun x y => resolveLevels ctx level x = .ok y) (v.part? s) (w.part? s) := by
  cases v with
  | list items =>
    obtain ⟨ws, rfl, made⟩ := resolveContents_list done
    cases s with
    | key key => exact .none
    | index i => exact getElem?_of_forall₂ made i
  | object es =>
    obtain ⟨ws, rfl, made⟩ := resolveContents_object plain done
    cases s with
    | key key => exact Entries.get?_of_forall₂ made key
    | index i => exact .none
  | mapping es =>
    obtain ⟨ws, rfl, -⟩ := resolveContents_mapping done
    exact .none
  | _ =>
    cases done
    exact .none

theorem exists_part_of_resolveLevels (plain : Ref.ofValue? v = none)
    (done : resolveLevels ctx (level + 1) v = .ok w) {x : Value} (part : v.part? s = some x) :
    ∃ y, w.part? s = some y ∧ resolveLevels ctx level x = .ok y := by
  have below := part?_resolveContents plain (resolveLevels_plain plain done) s
  rw [part] at below
  cases stands : w.part? s with
  | none =>
    rw [stands] at below
    cases below
  | some y =>
    rw [stands] at below
    cases below with
    | some resolved => exact ⟨y, rfl, resolved⟩

theorem hasDistinctKeys_of_part (distinct : v.hasDistinctKeys = true) (part : v.part? s = some w) :
    w.hasDistinctKeys = true := by
  cases v with
  | list items =>
    cases s with
    | key key => cases part
    | index i => exact hasDistinctKeys_of_mem_items distinct (List.mem_of_getElem? part)
  | object es =>
    cases s with
    | key key =>
      exact hasDistinctKeys_of_mem ((hasDistinctKeys_object es).mp distinct).2
        (Entries.mem_of_get? part)
    | index i => cases part
  | _ => cases part

theorem containsRefIn_of_part (part : v.part? s = some w) (inside : containsRefIn level w = true) :
    containsRefIn (level + 1) v = true := by
  cases v with
  | list items =>
    cases s with
    | key key => cases part
    | index i =>
      rw [containsRefIn, Bool.or_eq_true]
      exact .inr (List.any_eq_true.mpr ⟨w, List.mem_of_getElem? part, inside⟩)
  | object es =>
    cases s with
    | key key =>
      rw [containsRefIn, Bool.or_eq_true]
      exact .inr (List.any_eq_true.mpr ⟨(key, w), Entries.mem_of_get? part, inside⟩)
    | index i => cases part
  | _ => cases part

namespace Occurs

theorem containsRefIn (occurs : v.Occurs r steps) (near : steps.length < level) :
    containsRefIn level v = true := by
  induction occurs generalizing level with
  | here ref =>
    cases level with
    | zero => exact absurd near (Nat.not_lt_zero _)
    | succ level =>
      rw [Value.containsRefIn.eq_def]
      dsimp only
      rw [ref, Option.isSome_some, Bool.true_or]
  | inside _ part _ ih =>
    cases level with
    | zero => exact absurd near (Nat.not_lt_zero _)
    | succ level => exact containsRefIn_of_part part (ih (Nat.lt_of_succ_lt_succ near))

/-- Above a reference that is not too deep every value contains one that is not too deep. -/
theorem refsAbove (occurs : v.Occurs r steps) (near : (steps.length : Int) ≤ defaultDepth) :
    v.RefsAbove steps := by
  induction occurs with
  | here => trivial
  | @inside v w s rest plain part occurs ih =>
    have shorter : (rest.length : Int) ≤ defaultDepth := by
      rw [List.length_cons] at near
      omega
    have within : (s :: rest).length < levels defaultDepth := by
      rw [levels]
      omega
    refine ⟨(inside plain part occurs).containsRefIn within, fun x same => ?_⟩
    obtain rfl : w = x := Option.some.inj (part.symm.trans same)
    exact ih shorter

/-- A reference on the levels that are resolved becomes what it reads, in its place. -/
theorem at?_resolveLevels (occurs : v.Occurs r steps) (near : steps.length < level)
    (done : resolveLevels ctx level v = .ok w) :
    ∃ u x, r.resolve ctx = .ok u ∧
      resolveContents ctx (level - (steps.length + 1)) u = .ok x ∧ w.at? steps = some x := by
  induction occurs generalizing level w with
  | here ref =>
    cases level with
    | zero => exact absurd near (Nat.not_lt_zero _)
    | succ level =>
      obtain ⟨u, found, contents⟩ := resolveLevels_ref ref done
      exact ⟨u, w, found, contents, rfl⟩
  | @inside v x s rest plain part _ ih =>
    cases level with
    | zero => exact absurd near (Nat.not_lt_zero _)
    | succ level =>
      obtain ⟨y, stands, resolved⟩ := exists_part_of_resolveLevels plain done part
      obtain ⟨u, z, found, contents, leads⟩ := ih (Nat.lt_of_succ_lt_succ near) resolved
      refine ⟨u, z, found, ?_, ?_⟩
      · rwa [List.length_cons, Nat.add_sub_add_right]
      · rw [at?, stands]
        exact leads

/-- A reference below the levels that are resolved stays as it stands. -/
theorem at?_resolveLevels_of_le (occurs : v.Occurs r steps) (far : level ≤ steps.length)
    (done : resolveLevels ctx level v = .ok w) : w.at? steps = v.at? steps := by
  induction occurs generalizing level w with
  | here ref =>
    obtain rfl := Nat.le_zero.mp far
    cases done
    rfl
  | inside plain part _ ih =>
    cases level with
    | zero =>
      cases done
      rfl
    | succ level =>
      obtain ⟨y, stands, resolved⟩ := exists_part_of_resolveLevels plain done part
      rw [at?, at?, stands, part]
      exact ih (Nat.le_of_succ_le_succ far) resolved

end Occurs

end ViewDoc.Value
