import ViewDoc.Proofs.Nesting.Values
import ViewDoc.Tsx.Element
/-!
What the steps of drafting keep. Expressions, statements, texts and loops are drafted in steps that
report, that read a parameter without a declaration, or that need no notes. A property of such steps
that following one another keeps is one of all these drafts.
-/

set_option autoImplicit false

namespace ViewDoc.Tsx.Draft

/-- A property of drafts that single steps have and that following one another keeps. -/
structure Stepwise (P : (α : Type) -> Draft α -> Prop) : Prop where
  pure : ∀ {α : Type} (a : α), P α (Pure.pure a)
  report : ∀ d, P Unit (Noted.note (.report d))
  undeclared : ∀ param path, P Unit (Noted.note (.undeclared param path))
  ofExcept : ∀ {α : Type} {x : Except Fault α}, Shallow x -> P α (Noted.ofExcept x)
  bind : ∀ {α β : Type} {x : Draft α} {f : α -> Draft β}, P α x -> (∀ a, P β (f a)) ->
    P β (x >>= f)

namespace Stepwise

variable {P : (α : Type) -> Draft α -> Prop} (steps : Stepwise P)
include steps

theorem map {α β : Type} (f : α -> β) {x : Draft α} (own : P α x) : P β (f <$> x) := by
  rw [map_eq_pure_bind]
  exact steps.bind own fun a => steps.pure (f a)

theorem mapM {α β : Type} {f : α -> Draft β} {l : List α} (each : ∀ a ∈ l, P β (f a)) :
    P (List β) (l.mapM f) := by
  induction l with
  | nil => exact steps.pure []
  | cons a rest ih =>
    rw [List.mapM_cons]
    obtain ⟨head, tail⟩ := List.forall_mem_cons.mp each
    exact steps.bind head fun b => steps.bind (ih tail) fun bs => steps.pure (b :: bs)

theorem forM_report (ds : List Diagnostic) :
    P PUnit (ds.forM fun d => Noted.note (.report d)) := by
  induction ds with
  | nil => exact steps.pure PUnit.unit
  | cons d rest ih => exact steps.bind (steps.report d) fun _ => ih

theorem warn (code message path : String) (severity : Severity) :
    P Unit (warn code message path severity) :=
  steps.report _

variable (names : Declared) (scope : Scope) (path : String)

theorem outOfScope (tag : String) : P Expr (outOfScope tag path) :=
  steps.bind (steps.warn _ _ _ _) fun _ => steps.pure _

theorem param (read : List Path.Step) : P Expr (param names path read) := by
  rw [Draft.param.eq_def]
  split
  · dsimp only
    split
    · exact steps.bind (steps.undeclared _ _) fun _ => steps.pure _
    · exact steps.pure _
  · exact steps.pure _

theorem missing (written : String) : P Expr (stateVariable.missing path written) :=
  steps.bind (steps.warn _ _ _ _) fun _ => steps.pure _

theorem stateVariable (written : String) (read : List Path.Step) :
    P Expr (stateVariable names path written read) := by
  rw [Draft.stateVariable.eq_def]
  split
  · split
    · exact steps.pure _
    · exact steps.missing path written
  · exact steps.missing path written

theorem reference (r : Ref) : P Expr (reference names scope path r) := by
  cases r with
  | index =>
    rw [Draft.reference]
    split
    · exact steps.pure _
    · exact steps.outOfScope path _
  | param p => exact steps.bind (steps.ofExcept (Path.shallow_parse p)) (steps.param names path)
  | state p =>
    exact steps.bind (steps.ofExcept (Path.shallow_parse p)) (steps.stateVariable names path p)
  | item p =>
    refine steps.bind (steps.ofExcept (Path.shallow_parse p)) fun read => ?_
    split
    · exact steps.pure _
    · exact steps.outOfScope path _
  | data p => exact steps.bind (steps.ofExcept (Path.shallow_parse p)) fun _ => steps.pure _

theorem literal (v : Value) : P (Option Expr) (literal path v) := by
  rw [Draft.literal]
  split
  · exact steps.pure _
  · exact steps.bind (steps.warn _ _ _ _) fun _ => steps.pure _

mutual

theorem value (path : String) (v : Value) : P (Option Expr) (value names scope path v) := by
  cases v with
  | list items =>
    rw [Draft.value]
    split
    · exact steps.bind (valueItems path 0 items) fun _ => steps.pure _
    · exact steps.literal path _
  | object es =>
    rw [Draft.value]
    split
    · exact steps.bind (steps.reference names scope path _) fun _ => steps.pure _
    · split
      · exact steps.bind (valueEntries path es) fun _ => steps.pure _
      · exact steps.literal path _
  | _ => exact steps.literal path _
termination_by structural v

theorem valueItems (path : String) (i : Nat) (items : List Value) :
    P (List Expr) (valueItems names scope path i items) := by
  cases items with
  | nil => exact steps.pure []
  | cons v rest =>
    refine steps.bind (value _ v) fun e => ?_
    exact steps.bind (valueItems path (i + 1) rest) fun _ => steps.pure _
termination_by structural items

theorem valueEntries (path : String) (es : List (String × Value)) :
    P (List (String × Expr)) (valueEntries names scope path es) := by
  cases es with
  | nil => exact steps.pure []
  | cons head rest =>
    obtain ⟨key, v⟩ := head
    refine steps.bind (value _ v) fun e => ?_
    exact steps.bind (valueEntries path rest) fun _ => steps.pure _
termination_by structural es

end

theorem source (v : Value) : P (Option Expr) (source names scope path v) := by
  rw [Draft.source]
  split
  · exact steps.pure _
  · exact steps.pure _
  · exact steps.bind (steps.reference names scope path _) fun _ => steps.pure _

theorem baseOf (d : DataDecl) (live design : Option Expr) :
    P Expr (match live, design with
      | some e, some f => return .orElse e f
      | some e, none => return e
      | none, some f => return f
      | none, none => return if (Ref.ofValue? d.source).isSome then .undefined else scope.data) := by
  split <;> exact steps.pure _

theorem baseScope (d : DataDecl) : P Expr (baseScope names scope path d) := by
  refine steps.bind (steps.source names scope _ _) fun live => ?_
  have later (design : Option Expr) := steps.baseOf scope d live design
  dsimp only
  split
  · exact steps.bind (steps.value names scope _ _) later
  · exact steps.bind (steps.pure none) later

theorem picked (d : DataDecl) (whole : Expr) :
    P Expr (match d.pick.word? with
      | some p => do return .members whole (← Noted.ofExcept (Path.parse p))
      | none => return whole) := by
  split
  · exact steps.bind (steps.ofExcept (Path.shallow_parse _)) fun _ => steps.pure _
  · exact steps.pure _

theorem dataScope (decl : Option DataDecl) : P Expr (dataScope names scope path decl) := by
  cases decl with
  | none => exact steps.pure _
  | some d =>
    refine steps.bind (steps.baseScope names scope path d) fun base => ?_
    dsimp only
    split
    · exact steps.bind (steps.map _ (steps.valueEntries names scope _ _)) (steps.picked d)
    · exact steps.bind (steps.pure base) (steps.picked d)

omit steps in
theorem shallow_state (v : Value) : Shallow (Navigation.state v) := by
  rw [Navigation.state.eq_def]
  split
  · split
    · exact .ok _
    · split
      · exact .ok _
      · exact .ok _
      · exact .error (by simp)
  · exact .ok _

theorem navigation (params : Entries) :
    P (List Statement) (navigation names scope path params) := by
  refine steps.bind (steps.ofExcept (shallow_state _)) fun state => ?_
  dsimp only
  split
  · split
    · exact steps.pure _
    · exact steps.pure _
    · exact steps.bind (steps.warn _ _ _ _) fun _ => steps.pure _
  · refine steps.bind (steps.value names scope _ _) fun e => ?_
    split <;> exact steps.pure _

theorem dispatch (nodeId action : String) (params : Entries) :
    P (List Statement) (dispatch names scope path nodeId action params) := by
  refine steps.bind (steps.value names scope _ _) fun passed => ?_
  dsimp only
  split
  · exact steps.pure _
  · split <;> exact steps.pure _

theorem statements (n : CanonicalFields) (key : String) (e : EventBinding) :
    P (List Statement) (statements names scope n key e) := by
  rw [Draft.statements]
  split
  · exact steps.pure _
  · dsimp only
    split
    · exact steps.pure _
    · split
      · exact steps.navigation names scope _ _
      · exact steps.dispatch names scope _ _ _ _

theorem handlers (n : CanonicalFields) (found : List (String × List Statement))
    (events : List (String × EventBinding)) :
    P (List (String × List Statement)) (handlers names scope n found events) := by
  induction events generalizing found with
  | nil => exact steps.pure found
  | cons e rest ih =>
    obtain ⟨key, e⟩ := e
    exact steps.bind (steps.statements names scope n key e) fun more => ih _

omit steps in
theorem shallow_isFiniteNumber (v : Value) : Shallow (isFiniteNumber v) := by
  cases v with
  | int i =>
    rw [isFiniteNumber]
    split
    · exact .ok _
    · exact .error (by simp)
  | _ => exact .ok _

theorem text (v : Value) : P (Option Markup) (text names scope path v) := by
  rw [Draft.text.eq_def]
  split
  · exact steps.pure _
  · dsimp only
    split
    · exact steps.pure _
    · split <;> exact steps.pure _
  · split
    · exact steps.bind (steps.reference names scope _ _) fun _ => steps.pure _
    · refine steps.bind (steps.ofExcept (shallow_isFiniteNumber _)) fun finite => ?_
      split
      · exact steps.pure _
      · exact steps.bind (steps.warn _ _ _ _) fun _ => steps.pure _

theorem listSource (l : ListDecl) : P Expr (listSource names scope path l) := by
  refine steps.bind (steps.source names scope _ _) fun e => ?_
  split
  · exact steps.pure _
  · split
    · exact steps.bind (steps.ofExcept (Path.shallow_parse _)) fun _ => steps.pure _
    · exact steps.pure _

theorem loop (l : ListDecl) : P Loop (loop names scope path l) := by
  refine steps.bind (steps.listSource names scope path l) fun source => ?_
  dsimp only
  split
  · exact steps.bind (steps.map some (steps.ofExcept (Path.shallow_parse _))) fun _ => steps.pure _
  · exact steps.bind (steps.pure none) fun _ => steps.pure _

end Stepwise

end ViewDoc.Tsx.Draft
