import ViewDoc.Noted
import ViewDoc.Proofs.Ref.Steps
import ViewDoc.Scope.ListPlan
/-!
Computations that never give up for the depth of nesting, closed under the ways in which
computations are put together. Reading values, resolving references and planning lists are such
computations.
-/

set_option autoImplicit false

namespace ViewDoc

/-- A computation may stop, but not for the depth of nesting. -/
def Shallow {α : Type} (x : Except Fault α) : Prop :=
  x ≠ .error .tooDeep

namespace Shallow

variable {α β : Type}

theorem ok (a : α) : Shallow (.ok a : Except Fault α) := by
  simp [Shallow]

theorem error {f : Fault} (other : f ≠ .tooDeep) : Shallow (.error f : Except Fault α) := by
  simpa [Shallow] using other

theorem bind {x : Except Fault α} {f : α -> Except Fault β} (first : Shallow x)
    (next : ∀ a, Shallow (f a)) : Shallow (x >>= f) := by
  cases x with
  | error fault => exact fun same => first (congrArg Except.error (Except.error.inj same))
  | ok a => exact next a

theorem mapM {f : α -> Except Fault β} {l : List α} (each : ∀ a ∈ l, Shallow (f a)) :
    Shallow (l.mapM f) := by
  induction l with
  | nil => exact ok []
  | cons a rest ih =>
    rw [List.mapM_cons]
    obtain ⟨head, tail⟩ := List.forall_mem_cons.mp each
    exact bind head fun b => bind (ih tail) fun bs => ok (b :: bs)

end Shallow

namespace Noted

variable {ν α β : Type}

/-- The same with notes. -/
def Shallow (x : Noted ν α) : Prop :=
  ViewDoc.Shallow (x : Except Fault (α × List ν))

namespace Shallow

theorem pure (a : α) : Shallow (Pure.pure a : Noted ν α) :=
  ViewDoc.Shallow.ok (a, [])

theorem note (n : ν) : Shallow (note n) :=
  ViewDoc.Shallow.ok ((), [n])

theorem ofExcept {x : Except Fault α} (within : ViewDoc.Shallow x) :
    Shallow (ofExcept x : Noted ν α) := by
  cases x with
  | error fault => exact fun same => within (congrArg Except.error (Except.error.inj same))
  | ok a => exact pure a

theorem bind {x : Noted ν α} {f : α -> Noted ν β} (first : Shallow x)
    (next : ∀ a, Shallow (f a)) : Shallow (x >>= f) := by
  cases x with
  | error fault => exact fun same => first (congrArg Except.error (Except.error.inj same))
  | ok r =>
    have later := next r.1
    show ViewDoc.Shallow (andThen (.ok r) f)
    rw [andThen]
    cases shown : f r.1 with
    | error fault =>
      rw [shown] at later
      exact fun same => later (congrArg Except.error (Except.error.inj same))
    | ok q => exact ViewDoc.Shallow.ok _

theorem map (f : α -> β) {x : Noted ν α} (within : Shallow x) : Shallow (f <$> x) := by
  rw [map_eq_pure_bind]
  exact bind within fun a => pure (f a)

/-- What comes after a result that needs no notes may rely on it. -/
theorem bind_ofExcept {x : Except Fault α} {f : α -> Noted ν β} (first : ViewDoc.Shallow x)
    (next : ∀ a, x = .ok a -> Shallow (f a)) : Shallow (Noted.ofExcept x >>= f) := by
  cases x with
  | error fault => exact fun same => first (congrArg Except.error (Except.error.inj same))
  | ok a =>
    show Shallow ((Pure.pure a : Noted ν α) >>= f)
    rw [pure_bind]
    exact next a rfl

theorem mapM {f : α -> Noted ν β} {l : List α} (each : ∀ a ∈ l, Shallow (f a)) :
    Shallow (l.mapM f) := by
  induction l with
  | nil => exact pure []
  | cons a rest ih =>
    rw [List.mapM_cons]
    obtain ⟨head, tail⟩ := List.forall_mem_cons.mp each
    exact bind head fun b => bind (ih tail) fun bs => pure (b :: bs)

theorem forM_note (f : α -> ν) (l : List α) : Shallow (l.forM fun a => Noted.note (f a)) := by
  induction l with
  | nil => exact pure ()
  | cons a rest ih => exact bind (note (f a)) fun _ => ih

end Shallow

end Noted

namespace Path

/-- What stops at digits that write no number does not give up for the depth of nesting. -/
theorem Numeric.shallow {α : Type} {x : Except Fault α} (numeric : Numeric x) : Shallow x := by
  intro deep
  obtain ⟨digits, other⟩ := numeric .tooDeep deep
  cases other

theorem shallow_parse (path : String) : Shallow (parse path) :=
  (numeric_parse path).shallow

theorem shallow_read (v : Value) (path : String) : Shallow (read v path) :=
  (numeric_read v path).shallow

end Path

theorem Ref.shallow_resolve (ctx : Context) (r : Ref) : Shallow (r.resolve ctx) := by
  cases r with
  | index => exact Shallow.ok _
  | _ => exact Path.shallow_read _ _

namespace Value

theorem shallow_resolveOne (ctx : Context) (v : Value) : Shallow (v.resolveOne ctx) := by
  rw [resolveOne]
  split
  · exact Ref.shallow_resolve ctx _
  · exact Shallow.ok v

theorem shallow_resolveLevels (ctx : Context) (level : Nat) (v : Value) :
    Shallow (resolveLevels ctx level v) := by
  induction level generalizing v with
  | zero => exact Shallow.ok v
  | succ level ih =>
    refine Shallow.bind (shallow_resolveOne ctx v) fun found => ?_
    have entries {κ : Type} (es : List (κ × Value)) :
        Shallow (es.mapM fun e => do return (e.1, ← resolveLevels ctx level e.2)) :=
      Shallow.mapM fun e _ => Shallow.bind (ih e.2) fun _ => Shallow.ok _
    cases found with
    | list items => exact Shallow.bind (Shallow.mapM fun w _ => ih w) fun _ => Shallow.ok _
    | object es =>
      dsimp only
      split
      · exact Shallow.ok _
      · exact Shallow.bind (entries es) fun _ => Shallow.ok _
    | mapping es => exact Shallow.bind (entries es) fun _ => Shallow.ok _
    | _ => exact Shallow.ok _

theorem shallow_resolve (ctx : Context) (maxDepth : Int) (v : Value) :
    Shallow (v.resolve ctx maxDepth) :=
  shallow_resolveLevels ctx (levels maxDepth) v

theorem shallow_pairOf (v : Value) : Shallow (pairOf v) := by
  rw [pairOf]
  split
  · exact Shallow.error (by simp)
  · split
    · exact Shallow.ok _
    · exact Shallow.error (by simp)
  · exact Shallow.error (by simp)

theorem shallow_entries (v : Value) : Shallow v.entries := by
  rw [entries]
  split
  · exact Shallow.ok _
  · exact Shallow.bind (Shallow.mapM fun w _ => shallow_pairOf w) fun _ => Shallow.ok _
  · exact Shallow.error (by simp)

end Value

namespace DataDecl

variable (d : DataDecl) (ctx : Context) (maxDepth : Int)

theorem shallow_baseScope (preview : Bool) : Shallow (d.baseScope ctx preview maxDepth) := by
  have later (other live : Value) : Shallow (if !live.isNull then pure live
      else if !(d.design preview).isNull then (d.design preview).resolve ctx maxDepth
      else pure other) := by
    split
    · exact Shallow.ok live
    · split
      · exact Value.shallow_resolve ctx maxDepth _
      · exact Shallow.ok other
  rw [baseScope]
  split
  · exact Shallow.bind (Value.shallow_resolveOne ctx d.source) (later .null)
  · exact Shallow.bind (Shallow.ok _) (later ctx.data)

theorem shallow_extended (scope : Value) : Shallow (d.extended ctx maxDepth scope) := by
  rw [extended]
  split
  · refine Shallow.bind (Value.shallow_resolve ctx maxDepth _) fun shown => ?_
    exact Shallow.bind (Value.shallow_entries shown) fun _ => Shallow.ok _
  · exact Shallow.ok _

theorem shallow_picked (scope : Value) : Shallow (d.picked scope) := by
  rw [picked]
  split
  · exact Path.shallow_read _ _
  · exact Shallow.ok _

theorem shallow_scope (preview : Bool) : Shallow (d.scope ctx preview maxDepth) :=
  Shallow.bind (d.shallow_baseScope ctx maxDepth preview) fun base =>
    Shallow.bind (d.shallow_extended ctx maxDepth base) d.shallow_picked

end DataDecl

theorem shallow_dataScope (decl : Option DataDecl) (ctx : Context) (preview : Bool)
    (maxDepth : Int) : Shallow (dataScope decl ctx preview maxDepth) := by
  cases decl with
  | none => exact Shallow.ok _
  | some d => exact d.shallow_scope ctx maxDepth preview

namespace ListDecl

theorem shallow_sourceValue (d : ListDecl) (scope : Value) (ctx : Context) :
    Shallow (d.sourceValue scope ctx) := by
  rw [sourceValue]
  split
  · exact Value.shallow_resolveOne _ _
  · split
    · exact Path.shallow_read _ _
    · exact Shallow.ok _

theorem shallow_keyOf (keyBy : Option String) (item : Value) (index : Nat) :
    Shallow (keyOf keyBy item index) := by
  cases keyBy with
  | none => exact Shallow.ok _
  | some path => exact Shallow.bind (Path.shallow_read item path) fun _ => Shallow.ok _

theorem shallow_entriesFrom (d : ListDecl) (ctx : Context) (i : Nat) (items : List Value) :
    Shallow (d.entriesFrom ctx i items) := by
  induction items generalizing i with
  | nil => exact Shallow.ok []
  | cons item rest ih =>
    refine Shallow.bind (shallow_keyOf _ item i) fun key => ?_
    exact Shallow.bind (ih (i + 1)) fun _ => Shallow.ok _

theorem shallow_plan (d : ListDecl) (scope : Value) (ctx : Context) :
    Shallow (d.plan scope ctx) := by
  refine Shallow.bind (d.shallow_sourceValue scope ctx) fun v => ?_
  split
  · exact Shallow.bind (d.shallow_entriesFrom _ 0 _) fun _ => Shallow.ok _
  · exact Shallow.ok _

end ListDecl

end ViewDoc
