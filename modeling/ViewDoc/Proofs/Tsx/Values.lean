import ViewDoc.Proofs.Tsx.Free
import ViewDoc.Proofs.Value.Distinct
import ViewDoc.Tsx.Reference
/-!
Drafts that read parameters. A draft is said to read a list of parameters when its notes mention the
undeclared ones among them, in order, and nothing else reports a parameter as undeclared. What holds
of its result may rely on these parameters being bound.

References and values read parameters, and the expressions for them are made of names of the scope,
of declarations, and of these parameters.
-/

set_option autoImplicit false

namespace ViewDoc

namespace Tsx

/-- Those among the parameters that are not declared. -/
def Declared.missing (names : Declared) (params : List String) : List String :=
  params.filter fun p => !Entries.has names.props p

theorem Declared.missing_append (names : Declared) (params more : List String) :
    names.missing (params ++ more) = names.missing params ++ names.missing more :=
  List.filter_append params more

namespace Note

/-- The code of reports on parameters that are not declared. -/
def undeclaredCode : String := "CODEGEN_UNDECLARED_PARAM"

/-- The parameters that notes mention as undeclared, each time. -/
def mentioned (notes : List Note) : List String :=
  notes.filterMap fun n => match n with
    | .undeclared param _ => some param
    | _ => none

theorem mentioned_append (notes more : List Note) :
    mentioned (notes ++ more) = mentioned notes ++ mentioned more :=
  List.filterMap_append

end Note

namespace Draft

variable {α β : Type} {names : Declared} {bound : List String} {foreign : Diagnostic -> Prop}
  {params more : List String} {P : α -> Prop} {Q : β -> Prop}

/-- What is known of a result with its notes: `foreign` are the reports that components make. -/
structure Account (names : Declared) (bound : List String) (foreign : Diagnostic -> Prop)
    (params : List String) (P : α -> Prop) (a : α) (notes : List Note) : Prop where
  mentioned : Note.mentioned notes = names.missing params
  reports : ∀ d, .report d ∈ notes -> d.code = Note.undeclaredCode -> foreign d
  result : (∀ p ∈ names.missing params, identifier p ∈ bound) -> P a

/-- A draft reads these parameters, and where they are bound its result has a property. -/
def Reads (names : Declared) (bound : List String) (foreign : Diagnostic -> Prop)
    (params : List String) (P : α -> Prop) (x : Draft α) : Prop :=
  ∀ a notes, x = .ok (a, notes) -> Account names bound foreign params P a notes

namespace Reads

theorem pure {a : α} (holds : P a) : Reads names bound foreign [] P (pure a) := by
  intro _ _ done
  cases done
  exact ⟨rfl, fun _ mem => (List.not_mem_nil mem).elim, fun _ => holds⟩

/-- A note that mentions no parameter. -/
theorem note {n : Note} (silent : Note.mentioned [n] = [])
    (report : ∀ d, n = .report d -> d.code = Note.undeclaredCode -> foreign d) :
    Reads names bound foreign [] (fun _ => True) (Noted.note n) := by
  intro _ _ done
  cases done
  exact ⟨silent, fun d mem => report d (List.mem_singleton.mp mem).symm, fun _ => trivial⟩

theorem warn {code : String} (other : code ≠ Note.undeclaredCode) (message path : String)
    (severity : Severity) :
    Reads names bound foreign [] (fun _ => True) (warn code message path severity) := by
  refine note rfl fun d same isCode => ?_
  cases same
  exact absurd isCode other

theorem ofExcept {x : Except Fault α} (holds : ∀ a, x = .ok a -> P a) :
    Reads names bound foreign [] P (Noted.ofExcept x) := by
  intro a notes done
  cases x with
  | error fault => cases done
  | ok b =>
    cases done
    exact ⟨rfl, fun _ mem => (List.not_mem_nil mem).elim, fun _ => holds _ rfl⟩

/-- Two steps, of which the second may rely on how the first ends. -/
theorem bind_of_ok {x : Draft α} {f : α -> Draft β} (first : Reads names bound foreign params P x)
    (next : ∀ a notes, x = .ok (a, notes) ->
      Reads names bound foreign more (fun b => P a -> Q b) (f a)) :
    Reads names bound foreign (params ++ more) Q (x >>= f) := by
  intro b notes done
  cases x with
  | error fault => cases done
  | ok p =>
    have later := next p.1 p.2 rfl
    have own := first p.1 p.2 rfl
    change Noted.andThen (.ok p) f = .ok (b, notes) at done
    rw [Noted.andThen] at done
    cases rest : f p.1 with
    | error fault =>
      rw [rest] at done
      cases done
    | ok q =>
      rw [rest] at done
      cases done
      have others := later q.1 q.2 rest
      refine ⟨?_, fun d mem isCode => ?_, fun known => ?_⟩
      · rw [Note.mentioned_append, names.missing_append, own.mentioned, others.mentioned]
      · obtain mem | mem := List.mem_append.mp mem
        · exact own.reports d mem isCode
        · exact others.reports d mem isCode
      · rw [names.missing_append] at known
        obtain ⟨here, there⟩ := List.forall_mem_append.mp known
        exact others.result there (own.result here)

theorem bind {x : Draft α} {f : α -> Draft β} (first : Reads names bound foreign params P x)
    (next : ∀ a, Reads names bound foreign more (fun b => P a -> Q b) (f a)) :
    Reads names bound foreign (params ++ more) Q (x >>= f) :=
  bind_of_ok first fun a _ _ => next a

/-- The same after a step that reads nothing. -/
theorem bind_silent {x : Draft α} {f : α -> Draft β} (first : Reads names bound foreign [] P x)
    (next : ∀ a, Reads names bound foreign more (fun b => P a -> Q b) (f a)) :
    Reads names bound foreign more Q (x >>= f) :=
  bind first next

theorem bind_silent_of_ok {x : Draft α} {f : α -> Draft β}
    (first : Reads names bound foreign [] P x)
    (next : ∀ a notes, x = .ok (a, notes) ->
      Reads names bound foreign more (fun b => P a -> Q b) (f a)) :
    Reads names bound foreign more Q (x >>= f) :=
  bind_of_ok first next

/-- The same before a step that reads nothing. -/
theorem bind_last {x : Draft α} {f : α -> Draft β} (first : Reads names bound foreign params P x)
    (next : ∀ a, Reads names bound foreign [] (fun b => P a -> Q b) (f a)) :
    Reads names bound foreign params Q (x >>= f) := by
  have whole := bind first next
  rwa [List.append_nil] at whole

theorem bind_pure {x : Draft α} {f : α -> β} (first : Reads names bound foreign params P x)
    (next : ∀ a, P a -> Q (f a)) :
    Reads names bound foreign params Q (x >>= fun a => Pure.pure (f a)) :=
  bind_last first fun a => pure (next a)

/-- What follows a result that needs no notes may rely on it. -/
theorem bind_ofExcept {x : Except Fault α} {f : α -> Draft β}
    (next : ∀ a, x = .ok a -> Reads names bound foreign params Q (f a)) :
    Reads names bound foreign params Q (Noted.ofExcept x >>= f) := by
  cases x with
  | error fault => exact fun _ _ done => nomatch done
  | ok a =>
    show Reads names bound foreign params Q ((Pure.pure a : Draft α) >>= f)
    rw [LawfulMonad.pure_bind]
    exact next a rfl

theorem map {x : Draft α} {f : α -> β} (first : Reads names bound foreign params P x)
    (next : ∀ a, P a -> Q (f a)) : Reads names bound foreign params Q (f <$> x) := by
  rw [map_eq_pure_bind]
  exact bind_pure first next

theorem imp {P' : α -> Prop} {x : Draft α} (first : Reads names bound foreign params P x)
    (next : ∀ a, P a -> P' a) : Reads names bound foreign params P' x := by
  intro a notes done
  have own := first a notes done
  exact ⟨own.mentioned, own.reports, fun known => next a (own.result known)⟩

/-- A result that holds where more is bound holds where less is. -/
theorem narrow {wider : List String} {x : Draft α} (within : bound ⊆ wider)
    (first : Reads names wider foreign params P x) : Reads names bound foreign params P x := by
  intro a notes done
  have own := first a notes done
  exact ⟨own.mentioned, own.reports, fun known => own.result fun p mem => within (known p mem)⟩

/-- What is known of a result once some names are bound may be told before it is known that they
are. -/
theorem assuming {given : List String} {R : List String -> α -> Prop} {x : Draft α}
    (each : ∀ wider, bound ⊆ wider -> given ⊆ wider ->
      Reads names wider foreign params (R wider) x) :
    Reads names bound foreign params (fun a => given ⊆ bound -> R bound a) x := by
  intro a notes done
  have all := each (bound ++ given) (List.subset_append_left _ _) (List.subset_append_right _ _)
  have own := all a notes done
  refine ⟨own.mentioned, own.reports, fun known inside => ?_⟩
  exact (each bound (List.Subset.refl _) inside a notes done).result known

theorem mapM {f : α -> Draft β} {reads : α -> List String} {l : List α}
    (each : ∀ a ∈ l, Reads names bound foreign (reads a) Q (f a)) :
    Reads names bound foreign (l.flatMap reads) (fun bs => ∀ b ∈ bs, Q b) (l.mapM f) := by
  induction l with
  | nil => exact pure (List.forall_mem_nil Q)
  | cons a rest ih =>
    obtain ⟨head, tail⟩ := List.forall_mem_cons.mp each
    rw [List.mapM_cons]
    refine bind head fun b => bind_pure (ih tail) fun bs others own => ?_
    exact List.forall_mem_cons.mpr ⟨own, others⟩

theorem forM_report {ds : List Diagnostic}
    (foreign_of_mem : ∀ d ∈ ds, d.code = Note.undeclaredCode -> foreign d) :
    Reads names bound foreign [] (fun _ => True) (ds.forM fun d => Noted.note (.report d)) := by
  induction ds with
  | nil => exact pure trivial
  | cons d rest ih =>
    obtain ⟨head, tail⟩ := List.forall_mem_cons.mp foreign_of_mem
    have own : Reads names bound foreign [] (fun _ => True) (Noted.note (Note.report d)) :=
      note rfl fun e same isCode => by
        cases same
        exact head isCode
    exact bind_silent own fun _ => imp (ih tail) fun _ _ _ => trivial

end Reads

end Draft

end Tsx

/-- The parameter that a reference reads, if it is one to a parameter. -/
def Ref.reads (r : Ref) : List String :=
  r.paramName.toOption.getD []

namespace Value

/-- The parameter that a value reads where it is nothing but a reference. -/
def pointed (v : Value) : List String :=
  match Ref.ofValue? v with
  | some r => r.reads
  | none => []

mutual

/-- The parameters that a value reads through the references that are followed in it. -/
def reads : Value -> List String
  | .list items => if (Value.list items).containsRef defaultDepth then readsOfItems items else []
  | .object es =>
    match Ref.ofValue? (.object es) with
    | some r => r.reads
    | none => if (Value.object es).containsRef defaultDepth then readsOfEntries es else []
  | _ => []

/-- The parameters that items read. -/
def readsOfItems : List Value -> List String
  | [] => []
  | v :: rest => reads v ++ readsOfItems rest

/-- The parameters that entries read. -/
def readsOfEntries : List (String × Value) -> List String
  | [] => []
  | (_, v) :: rest => reads v ++ readsOfEntries rest

end

end Value

namespace Tsx

/-- The names under which declarations are read. -/
def Declared.own (names : Declared) : List String :=
  (Entries.keys names.props).map identifier ++ (Entries.keys names.state).map identifier

namespace Declared

variable {names : Declared}

theorem prop_mem_own {p : String} (mem : p ∈ Entries.keys names.props) :
    identifier p ∈ names.own :=
  List.mem_append_left _ (List.mem_map_of_mem mem)

theorem state_mem_own {s : String} (mem : s ∈ Entries.keys names.state) :
    identifier s ∈ names.own :=
  List.mem_append_right _ (List.mem_map_of_mem mem)

end Declared

namespace Scope

/-- The variables of loops that a scope refers to. -/
def loopNames (scope : Scope) : List String :=
  scope.item.toList ++ scope.index.toList ++ scope.aliases.map (·.2)

/-- The names through which a scope is read. -/
def names (scope : Scope) : List String :=
  scope.data.names ++ scope.loopNames

variable {scope : Scope} {bound : List String}

theorem data_subset (inside : scope.names ⊆ bound) : scope.data.names ⊆ bound :=
  (List.append_subset.mp inside).1

theorem loopNames_subset (inside : scope.names ⊆ bound) : scope.loopNames ⊆ bound :=
  (List.append_subset.mp inside).2

theorem item_mem (inside : scope.names ⊆ bound) {x : String} (item : scope.item = some x) :
    x ∈ bound := by
  refine loopNames_subset inside (List.mem_append_left _ (List.mem_append_left _ ?_))
  exact Option.mem_toList.mpr item

theorem index_mem (inside : scope.names ⊆ bound) {x : String} (index : scope.index = some x) :
    x ∈ bound := by
  refine loopNames_subset inside (List.mem_append_left _ (List.mem_append_right _ ?_))
  exact Option.mem_toList.mpr index

theorem alias_mem (inside : scope.names ⊆ bound) {e : String × String} (mem : e ∈ scope.aliases) :
    e.2 ∈ bound :=
  loopNames_subset inside (List.mem_append_right _ (List.mem_map.mpr ⟨e, mem, rfl⟩))

end Scope

namespace Draft

variable {names : Declared} {bound : List String} {foreign : Diagnostic -> Prop} {scope : Scope}

theorem reads_outOfScope (tag path : String) :
    Reads names bound foreign [] (fun e => e.names ⊆ bound) (outOfScope tag path) :=
  .bind_pure (.warn (by decide) _ _ _) fun _ _ => List.nil_subset _

theorem reads_missing (path written : String) :
    Reads names bound foreign [] (fun e => e.names ⊆ bound) (stateVariable.missing path written) :=
  .bind_pure (.warn (by decide) _ _ _) fun _ _ => List.nil_subset _

theorem reads_stateVariable (own : names.own ⊆ bound) (path written : String)
    (steps : List Path.Step) :
    Reads names bound foreign [] (fun e => e.names ⊆ bound)
      (stateVariable names path written steps) := by
  rw [stateVariable.eq_def]
  split
  · split
    · rename_i has
      have declared := Declared.state_mem_own ((Entries.has_iff_mem_keys _ _).mp has)
      exact .pure (Expr.members_subset (own declared))
    · exact reads_missing path written
  · exact reads_missing path written

/-- An undeclared parameter is mentioned, so that it is bound as a declared one is. -/
theorem reads_key (own : names.own ⊆ bound) (path name : String) (rest : List Path.Step) :
    Reads names bound foreign [name] (fun e => e.names ⊆ bound)
      (param names path (.key name :: rest)) := by
  rw [param]
  cases has : Entries.has names.props name with
  | true =>
    have missing : names.missing [name] = [] := by simp [Declared.missing, has]
    intro _ _ done
    cases done
    refine ⟨missing.symm, fun _ mem => (List.not_mem_nil mem).elim, fun _ => ?_⟩
    exact Expr.members_subset (own (Declared.prop_mem_own ((Entries.has_iff_mem_keys _ _).mp has)))
  | false =>
    have missing : names.missing [name] = [name] := by simp [Declared.missing, has]
    intro _ _ done
    cases done
    refine ⟨missing.symm, by simp, fun known => ?_⟩
    rw [missing] at known
    exact Expr.members_subset (known name List.mem_cons_self)

theorem reads_param (own : names.own ⊆ bound) (path written : String) {steps : List Path.Step}
    (parsed : Path.parse written = .ok steps) :
    Reads names bound foreign (Ref.param written).reads (fun e => e.names ⊆ bound)
      (param names path steps) := by
  cases steps with
  | nil =>
    have reads : (Ref.param written).reads = [] := by rw [Ref.reads, Ref.paramName, parsed]; rfl
    exact reads ▸ .pure (List.nil_subset _)
  | cons step rest =>
    cases step with
    | index n =>
      have reads : (Ref.param written).reads = [] := by rw [Ref.reads, Ref.paramName, parsed]; rfl
      exact reads ▸ .pure (List.nil_subset _)
    | key name =>
      have reads : (Ref.param written).reads = [name] := by
        rw [Ref.reads, Ref.paramName, parsed]
        rfl
      rw [reads]
      exact reads_key own path name rest

theorem names_inData_subset (inside : scope.names ⊆ bound) (steps : List Path.Step) :
    (inData scope steps).names ⊆ bound := by
  rw [inData]
  split
  · exact List.nil_subset _
  · split <;> exact scope.data_subset inside

theorem names_dataMember_subset (inside : scope.names ⊆ bound) (steps : List Path.Step) :
    (dataMember scope steps).names ⊆ bound := by
  rw [dataMember.eq_def]
  split
  · split
    · rename_i found
      exact Expr.members_subset (scope.alias_mem inside (Entries.mem_of_get? found))
    · exact names_inData_subset inside _
  · exact names_inData_subset inside _

theorem reads_reference (own : names.own ⊆ bound) (inside : scope.names ⊆ bound) (path : String)
    (r : Ref) :
    Reads names bound foreign r.reads (fun e => e.names ⊆ bound) (reference names scope path r) := by
  cases r with
  | index =>
    rw [reference]
    split
    · rename_i index
      exact .pure fun _ same => List.mem_singleton.mp same ▸ scope.index_mem inside index
    · exact reads_outOfScope "$index" path
  | param p => exact .bind_ofExcept fun steps parsed => reads_param own path p parsed
  | state p => exact .bind_ofExcept fun steps _ => reads_stateVariable own path p steps
  | item p =>
    refine .bind_ofExcept fun steps _ => ?_
    split
    · rename_i item
      exact .pure (Expr.members_subset (scope.item_mem inside item))
    · exact reads_outOfScope "$item" path
  | data p => exact .bind_ofExcept fun steps _ => .pure (names_dataMember_subset inside steps)

theorem reads_literal (path : String) (v : Value) :
    Reads names bound foreign [] (fun o => ∀ e ∈ o, e.names ⊆ bound) (literal path v) := by
  rw [literal]
  split
  · exact .pure (by simp [Expr.names])
  · exact .bind_pure (.warn (by decide) _ _ _) (by simp)

mutual

theorem reads_value (own : names.own ⊆ bound) (inside : scope.names ⊆ bound) (path : String)
    (v : Value) :
    Reads names bound foreign v.reads (fun o => ∀ e ∈ o, e.names ⊆ bound)
      (value names scope path v) := by
  cases v with
  | list items =>
    rw [value, Value.reads]
    split
    · refine .bind_pure (reads_valueItems own inside path 0 items) fun es each => ?_
      exact fun e same => Option.mem_some.mp same ▸ Expr.namesOfItems_subset each
    · exact reads_literal path _
  | object es =>
    rw [value, Value.reads]
    cases Ref.ofValue? (.object es) with
    | some r =>
      refine .bind_pure (reads_reference own inside path r) fun e within => ?_
      exact fun x same => Option.mem_some.mp same ▸ within
    | none =>
      dsimp only
      split
      · refine .bind_pure (reads_valueEntries own inside path es) fun fields each => ?_
        exact fun e same => Option.mem_some.mp same ▸ Expr.namesOfEntries_subset each
      · exact reads_literal path _
  | _ => exact reads_literal path _
termination_by structural v

theorem reads_valueItems (own : names.own ⊆ bound) (inside : scope.names ⊆ bound) (path : String)
    (i : Nat) (items : List Value) :
    Reads names bound foreign (Value.readsOfItems items) (fun es => ∀ e ∈ es, e.names ⊆ bound)
      (valueItems names scope path i items) := by
  cases items with
  | nil => exact .pure (List.forall_mem_nil _)
  | cons v rest =>
    refine .bind (reads_value own inside _ v) fun o => ?_
    refine .bind_pure (reads_valueItems own inside path (i + 1) rest) fun es others head => ?_
    refine List.forall_mem_cons.mpr ⟨?_, others⟩
    cases o with
    | none => exact List.nil_subset _
    | some e => exact head e rfl
termination_by structural items

theorem reads_valueEntries (own : names.own ⊆ bound) (inside : scope.names ⊆ bound) (path : String)
    (es : List (String × Value)) :
    Reads names bound foreign (Value.readsOfEntries es) (fun es => ∀ e ∈ es, e.2.names ⊆ bound)
      (valueEntries names scope path es) := by
  cases es with
  | nil => exact .pure (List.forall_mem_nil _)
  | cons entry rest =>
    obtain ⟨key, v⟩ := entry
    refine .bind (reads_value own inside _ v) fun o => ?_
    refine .bind_pure (reads_valueEntries own inside path rest) fun es others head => ?_
    refine List.forall_mem_append.mpr ⟨fun e mem => ?_, others⟩
    cases o with
    | none => exact (List.not_mem_nil mem).elim
    | some x => exact List.mem_singleton.mp mem ▸ head x rfl
termination_by structural es

end

theorem reads_source (own : names.own ⊆ bound) (inside : scope.names ⊆ bound) (path : String)
    (v : Value) :
    Reads names bound foreign v.pointed (fun o => ∀ e ∈ o, e.names ⊆ bound)
      (source names scope path v) := by
  rw [source, Value.pointed]
  cases Ref.ofValue? v with
  | none => exact .pure (by simp)
  | some r =>
    cases r with
    | index => exact .pure (by simp)
    | _ =>
      refine .bind_pure (reads_reference own inside path _) fun e within => ?_
      exact fun x same => Option.mem_some.mp same ▸ within

end Draft

end Tsx

end ViewDoc
