import ViewDoc.Proofs.Ref.Occurrence
import ViewDoc.Proofs.Tsx.Inherits
/-!
References inside of values in generated code. The main statement compares where the expression for a
value has the expressions for its references with where these are resolved in a view: down to the
usual depth both are the same. A deeper reference is never resolved, and has its expression in code
exactly if every value around it contains a reference down to the usual depth.
-/

set_option autoImplicit false

namespace ViewDoc

open Tsx (Declared Draft Expr Note Scope)

namespace Tsx.Expr

/-- What a step leads to: an item of an array, or the member of an object under a key. -/
def part? : Expr -> Path.Step -> Option Expr
  | .array items, .index i => items[i]?
  | .object es, .key key => Entries.get? es key
  | _, _ => none

/-- What steps lead to. -/
def at? : Expr -> List Path.Step -> Option Expr
  | e, [] => some e
  | e, s :: rest => (e.part? s).bind fun f => f.at? rest

end Tsx.Expr

namespace Tsx.Draft

variable {names : Declared} {scope : Scope} {path : String} {v w : Value} {r : Ref}
  {s : Path.Step} {steps : List Path.Step} {e : Option Expr} {notes : List Note}

/-- The document path of what a step leads to. -/
def placeBelow (path : String) : Path.Step -> String
  | .index i => path ++ "[" ++ Text.ofNat i ++ "]"
  | .key key => path ++ "." ++ key

/-- The expression for a reference stands where steps lead to. -/
def Replaces (names : Declared) (scope : Scope) (path : String) (r : Ref) (steps : List Path.Step)
    (e : Option Expr) : Prop :=
  ∃ x notes, e.bind (fun f => f.at? steps) = some x ∧
    reference names scope (steps.foldl placeBelow path) r = .ok (x, notes)

theorem exists_of_valueItems {i : Nat} {items : List Value} {es : List Expr}
    (done : valueItems names scope path i items = .ok (es, notes)) {j : Nat}
    (among : items[j]? = some v) :
    ∃ e more, value names scope (path ++ "[" ++ Text.ofNat (i + j) ++ "]") v = .ok (e, more) ∧
      es[j]? = some (e.getD .undefined) := by
  induction items generalizing i es notes j with
  | nil => cases among
  | cons w rest ih =>
    rw [valueItems] at done
    obtain ⟨⟨e, _⟩, _, own, done⟩ := Noted.exists_of_bind_ok done
    obtain ⟨⟨others, _⟩, _, later, done⟩ := Noted.exists_of_bind_ok done
    obtain rfl : es = _ := Noted.eq_of_pure_ok done
    cases j with
    | zero =>
      obtain rfl : w = v := Option.some.inj among
      exact ⟨e, _, own, rfl⟩
    | succ j =>
      obtain ⟨f, more, made, stands⟩ := ih later among
      rw [Nat.add_right_comm] at made
      exact ⟨f, more, made, stands⟩

theorem keys_valueEntries_subset {es : Entries} {fields : List (String × Expr)}
    (done : valueEntries names scope path es = .ok (fields, notes)) :
    Entries.keys fields ⊆ Entries.keys es := by
  induction es generalizing fields notes with
  | nil =>
    rw [valueEntries] at done
    obtain rfl : fields = _ := Noted.eq_of_pure_ok done
    exact List.Subset.refl _
  | cons head rest ih =>
    obtain ⟨key, v⟩ := head
    rw [valueEntries] at done
    obtain ⟨⟨e, _⟩, _, own, done⟩ := Noted.exists_of_bind_ok done
    obtain ⟨⟨others, _⟩, _, later, done⟩ := Noted.exists_of_bind_ok done
    obtain rfl : fields = _ := Noted.eq_of_pure_ok done
    cases e with
    | none => exact List.subset_cons_of_subset _ (ih later)
    | some x => exact List.cons_subset_cons _ (ih later)

/-- With distinct keys, the member for a key is the expression for what stood there. -/
theorem get?_of_valueEntries {es : Entries} {fields : List (String × Expr)}
    (distinct : (Entries.keys es).Nodup)
    (done : valueEntries names scope path es = .ok (fields, notes)) {key : String}
    (found : Entries.get? es key = some v) :
    ∃ e more, value names scope (path ++ "." ++ key) v = .ok (e, more) ∧
      Entries.get? fields key = e := by
  induction es generalizing fields notes with
  | nil => cases found
  | cons head rest ih =>
    obtain ⟨k, w⟩ := head
    obtain ⟨fresh, distinct⟩ := List.nodup_cons.mp distinct
    rw [valueEntries] at done
    obtain ⟨⟨e, _⟩, _, own, done⟩ := Noted.exists_of_bind_ok done
    obtain ⟨⟨others, _⟩, _, later, done⟩ := Noted.exists_of_bind_ok done
    obtain rfl : fields = _ := Noted.eq_of_pure_ok done
    by_cases same : k = key
    · subst same
      rw [Entries.get?, if_pos rfl] at found
      obtain rfl : w = v := Option.some.inj found
      refine ⟨e, _, own, ?_⟩
      cases e with
      | none =>
        have absent : k ∉ Entries.keys others :=
          fun mem => fresh (keys_valueEntries_subset later mem)
        exact Entries.get?_eq_none_iff.mpr absent
      | some x => exact if_pos rfl
    · rw [Entries.get?, if_neg same] at found
      obtain ⟨f, more, made, stands⟩ := ih distinct later found
      refine ⟨f, more, made, ?_⟩
      cases e with
      | none => exact stands
      | some x => exact (if_neg same).trans stands

theorem exists_reference_of_value (ref : Ref.ofValue? v = some r)
    (done : value names scope path v = .ok (e, notes)) :
    ∃ x more, e = some x ∧ reference names scope path r = .ok (x, more) := by
  cases v with
  | object es =>
    rw [value.eq_def] at done
    simp only [ref] at done
    obtain ⟨⟨x, _⟩, _, made, done⟩ := Noted.exists_of_bind_ok done
    exact ⟨x, _, Noted.eq_of_pure_ok done, made⟩
  | _ => cases ref

/-- Nothing stands inside of a literal. -/
theorem at?_of_literal {place : String} (done : literal place v = .ok (e, notes)) :
    e.bind (fun f => f.at? (s :: steps)) = none := by
  rcases eq_literal_of_literal done with rfl | ⟨rfl, -⟩ <;> rfl

/-- The expression for a value with references has, where a step leads, the expression for what
stands there; what is left out of a list is undefined. -/
theorem exists_part_of_value (distinct : v.hasDistinctKeys = true) (plain : Ref.ofValue? v = none)
    (part : v.part? s = some w) (done : value names scope path v = .ok (e, notes)) :
    if v.containsRef Value.defaultDepth = true then
      ∃ f x more, e = some f ∧ value names scope (placeBelow path s) w = .ok (x, more) ∧
        (f.part? s = x ∨ x = none ∧ f.part? s = some .undefined)
    else ∀ rest, e.bind (fun f => f.at? (s :: rest)) = none := by
  cases v with
  | list items =>
    cases s with
    | key key => cases part
    | index i =>
      rw [value.eq_def] at done
      dsimp only at done
      split
      · rename_i refers
        rw [if_pos refers] at done
        obtain ⟨⟨es, _⟩, _, made, done⟩ := Noted.exists_of_bind_ok done
        obtain rfl : e = _ := Noted.eq_of_pure_ok done
        obtain ⟨x, more, own, stands⟩ := exists_of_valueItems made part
        rw [Nat.zero_add] at own
        refine ⟨_, x, more, rfl, own, ?_⟩
        cases x with
        | none => exact .inr ⟨rfl, stands⟩
        | some x => exact .inl stands
      · rename_i bare
        rw [if_neg bare] at done
        exact fun rest => at?_of_literal done
  | object es =>
    cases s with
    | key key =>
      rw [value.eq_def] at done
      simp only [plain] at done
      split
      · rename_i refers
        rw [if_pos refers] at done
        obtain ⟨⟨fields, _⟩, _, made, done⟩ := Noted.exists_of_bind_ok done
        obtain rfl : e = _ := Noted.eq_of_pure_ok done
        have keys := ((Value.hasDistinctKeys_object es).mp distinct).1
        obtain ⟨x, more, own, stands⟩ := get?_of_valueEntries keys made part
        exact ⟨_, x, more, rfl, own, .inl stands⟩
      · rename_i bare
        rw [if_neg bare] at done
        exact fun rest => at?_of_literal done
    | index i => cases part
  | _ => cases part

end Tsx.Draft

namespace Value.Occurs

open Tsx.Draft (Replaces value reference placeBelow)

variable {names : Declared} {scope : Scope} {path : String} {v : Value} {r : Ref}
  {steps : List Path.Step} {e : Option Expr} {notes : List Note}

theorem replaces_iff (occurs : v.Occurs r steps) (distinct : v.hasDistinctKeys = true)
    (done : value names scope path v = .ok (e, notes)) :
    Replaces names scope path r steps e ↔ v.RefsAbove steps := by
  induction occurs generalizing path e notes with
  | here ref =>
    obtain ⟨x, more, rfl, made⟩ := Tsx.Draft.exists_reference_of_value ref done
    exact ⟨fun _ => trivial, fun _ => ⟨x, more, rfl, made⟩⟩
  | @inside v w s rest plain part occurs ih =>
    have parts := Tsx.Draft.exists_part_of_value distinct plain part done
    split at parts
    · rename_i refers
      obtain ⟨f, x, more, rfl, own, stands⟩ := parts
      have below := ih (hasDistinctKeys_of_part distinct part) own
      have above : v.RefsAbove (s :: rest) ↔ w.RefsAbove rest := by
        refine ⟨fun h => h.2 w part, fun h => ⟨refers, fun y same => ?_⟩⟩
        exact Option.some.inj (part.symm.trans same) ▸ h
      rw [above, ← below]
      have leads : (some f).bind (fun f => f.at? (s :: rest)) = x.bind fun f => f.at? rest := by
        rcases stands with stands | ⟨rfl, stands⟩
        · rw [← stands]
          rfl
        · -- a reference is never left out, so what is left out is above it
          cases occurs with
          | here ref =>
            obtain ⟨y, _, absent, -⟩ := Tsx.Draft.exists_reference_of_value ref own
            cases absent
          | inside =>
            show (f.part? s).bind _ = _
            rw [stands]
            rfl
      rw [Replaces, leads]
      rfl
    · rename_i bare
      refine ⟨fun ⟨x, _, stands, _⟩ => ?_, fun above => absurd above.1 bare⟩
      rw [parts rest] at stands
      cases stands

/-- A reference on the usual levels becomes what it reads, and has its expression in code. A deeper
one stays as it stands, and has its expression in code exactly if every value above it contains a
reference down to the usual depth. -/
theorem resolved_and_replaced (occurs : v.Occurs r steps) (distinct : v.hasDistinctKeys = true)
    (drafted : value names scope path v = .ok (e, notes)) :
    ((steps.length : Int) ≤ defaultDepth ->
      (∀ ctx w, v.resolve ctx defaultDepth = .ok w -> ∃ u x, r.resolve ctx = .ok u ∧
        resolveContents ctx (levels defaultDepth - (steps.length + 1)) u = .ok x ∧
        w.at? steps = some x) ∧
      Replaces names scope path r steps e) ∧
    (defaultDepth < steps.length ->
      (∀ ctx w, v.resolve ctx defaultDepth = .ok w -> w.at? steps = v.at? steps) ∧
      (Replaces names scope path r steps e ↔ v.RefsAbove steps)) := by
  constructor
  · intro near
    have within : steps.length < levels defaultDepth := by
      rw [levels]
      omega
    exact ⟨fun ctx w done => occurs.at?_resolveLevels within done,
      (occurs.replaces_iff distinct drafted).mpr (occurs.refsAbove near)⟩
  · intro far
    have beyond : levels defaultDepth ≤ steps.length := by
      rw [levels]
      omega
    exact ⟨fun ctx w done => occurs.at?_resolveLevels_of_le beyond done,
      occurs.replaces_iff distinct drafted⟩

end Value.Occurs

namespace Value

open Tsx.Draft (Replaces value)

/-- A reference to a parameter inside of this many lists. -/
def wrappedRef : Nat -> Value
  | 0 => .object [("$param", .str "x")]
  | n + 1 => .list [wrappedRef n]

theorem occurs_wrappedRef (n : Nat) :
    (wrappedRef n).Occurs (.param "x") (List.replicate n (.index 0)) := by
  induction n with
  | zero => exact .here rfl
  | succ n ih => exact .inside rfl rfl ih

/-- A deep reference that stands alone is neither resolved nor has it its expression. -/
theorem wrappedRef_left :
    ∃ e notes, value {} {} "value" (wrappedRef 13) = .ok (e, notes) ∧
      (∀ ctx w, (wrappedRef 13).resolve ctx defaultDepth = .ok w ->
        w.at? (List.replicate 13 (.index 0)) = some (wrappedRef 0)) ∧
      ¬ Replaces {} {} "value" (.param "x") (List.replicate 13 (.index 0)) e := by
  have done : value {} {} "value" (wrappedRef 13) = .ok (some (.literal (wrappedRef 13)), []) := rfl
  obtain ⟨stays, replaces⟩ :=
    ((occurs_wrappedRef 13).resolved_and_replaced rfl done).2 (by decide)
  refine ⟨_, _, done, stays, fun h => ?_⟩
  have refers := (replaces.mp h).1
  revert refers
  decide

/-- A deep reference beside one that is not. -/
def besideNear : Value :=
  .object [("near", wrappedRef 0), ("far", wrappedRef 12)]

/-- A reference beside it is enough for a deep reference to have its expression, though it is not
resolved. -/
theorem besideNear_apart :
    ∃ e notes steps, value {} {} "value" besideNear = .ok (e, notes) ∧
      besideNear.Occurs (.param "x") steps ∧ ¬ (steps.length : Int) ≤ defaultDepth ∧
      (∀ ctx w, besideNear.resolve ctx defaultDepth = .ok w ->
        w.at? steps = some (wrappedRef 0)) ∧
      Replaces {} {} "value" (.param "x") steps e := by
  have occurs : besideNear.Occurs (.param "x") (.key "far" :: List.replicate 12 (.index 0)) :=
    .inside rfl rfl (occurs_wrappedRef 12)
  have above : besideNear.RefsAbove (.key "far" :: List.replicate 12 (.index 0)) := by
    refine ⟨rfl, fun w part => ?_⟩
    obtain rfl : wrappedRef 12 = w := Option.some.inj part
    exact (occurs_wrappedRef 12).refsAbove (by decide)
  cases done : value {} {} "value" besideNear with
  | error fault => cases done
  | ok r =>
    refine ⟨_, _, _, rfl, occurs, by decide, fun ctx w resolved => ?_,
      (occurs.replaces_iff rfl done).mpr above⟩
    exact occurs.at?_resolveLevels_of_le (by decide) resolved

end Value

end ViewDoc
