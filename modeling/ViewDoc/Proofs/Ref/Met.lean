import ViewDoc.Proofs.Ref.Resolved
import ViewDoc.Proofs.Value.Distinct
/-!
Which references are met when a value is resolved: those that stand in the value, and those in what
parameters hold where it refers to these. The main statement is that the resolved value depends on
the parameters alone just when no other reference is met. Other references in what the parameters
hold are met too, so that it is not enough that there are none in the value.
-/

set_option autoImplicit false

namespace ViewDoc

theorem Fault.mapM_congr {α β : Type} {f g : α -> Except Fault β} {l : List α}
    (each : ∀ a ∈ l, f a = g a) : l.mapM f = l.mapM g := by
  induction l with
  | nil => rfl
  | cons a rest ih =>
    obtain ⟨first, later⟩ := List.forall_mem_cons.mp each
    rw [List.mapM_cons, List.mapM_cons, first, ih later]

theorem Keyed.exists_mem_of_get? {α : Type} {es : List (Key × α)} {key : Key} {a : α}
    (found : get? es key = some a) : ∃ k, (k, a) ∈ es := by
  induction es with
  | nil => cases found
  | cons e rest ih =>
    obtain ⟨k, b⟩ := e
    rw [get?] at found
    split at found
    · obtain rfl := Option.some.inj found
      exact ⟨k, List.mem_cons_self⟩
    · obtain ⟨l, mem⟩ := ih found
      exact ⟨l, List.mem_cons_of_mem _ mem⟩

/-- The context that holds nothing but parameters. -/
def Context.ofParams (params : Entries) : Context :=
  { params }

/-- A reference reads parameters. -/
def Ref.IsParam (r : Ref) : Prop :=
  ∃ path, r = .param path

/-- Entries that hold something where steps lead. -/
def Path.holding : List Step -> Entries
  | [] => [("held", .bool true)]
  | s :: rest => [(s.name, .object (holding rest))]

theorem Path.read_holding {path : String} {steps : List Step} (parsed : parse path = .ok steps) :
    read (.object (holding steps)) path = .ok (.object (holding [])) := by
  have led (steps : List Step) :
      readSteps (.object (holding steps)) steps = .ok (.object (holding [])) := by
    induction steps with
    | nil => rfl
    | cons s rest ih =>
      have first : s.read (.object (holding (s :: rest))) = .ok (.object (holding rest)) := by
        simp [Step.read, holding, Entries.get, Entries.get?]
      rw [readSteps, first]
      exact ih
  rw [read, parsed]
  exact led steps

namespace Ref

variable {params : Entries} {r : Ref} {u : Value}

/-- Where there are only parameters, a reference to anything else reads null or an object without
entries. -/
theorem resolve_ofParams (other : ¬ r.IsParam) (done : r.resolve (.ofParams params) = .ok u) :
    u = .null ∨ u = .object [] := by
  have fromNull {path : String} (read : Path.read .null path = .ok u) : u = .null := by
    obtain ⟨steps, -, read⟩ := Path.exists_of_read_ok read
    rw [Path.readSteps_null] at read
    exact (Except.ok.inj read).symm
  cases r with
  | param path => exact absurd ⟨path, rfl⟩ other
  | state path =>
    obtain ⟨steps, -, read⟩ := Path.exists_of_read_ok done
    have empty : Path.readSteps (.object []) steps = .ok u := read
    rw [Path.readSteps_empty] at empty
    cases empty
    split
    · exact .inr rfl
    · exact .inl rfl
  | data path => exact .inl (fromNull done)
  | item path => exact .inl (fromNull done)
  | index => exact .inl (Except.ok.inj done).symm

/-- A reference to anything but parameters reads something in some context with the same ones. -/
theorem exists_resolve_isTruthy (other : ¬ r.IsParam)
    (done : r.resolve (.ofParams params) = .ok u) :
    ∃ ctx v, ctx.params = params ∧ r.resolve ctx = .ok v ∧ v.isTruthy = true := by
  cases r with
  | param path => exact absurd ⟨path, rfl⟩ other
  | state path =>
    obtain ⟨steps, parsed, -⟩ := Path.exists_of_read_ok done
    exact ⟨{ params, state := Path.holding steps }, _, rfl, Path.read_holding parsed, rfl⟩
  | data path =>
    obtain ⟨steps, parsed, -⟩ := Path.exists_of_read_ok done
    exact ⟨{ params, data := .object (Path.holding steps) }, _, rfl, Path.read_holding parsed, rfl⟩
  | item path =>
    obtain ⟨steps, parsed, -⟩ := Path.exists_of_read_ok done
    exact ⟨{ params, item := .object (Path.holding steps) }, _, rfl, Path.read_holding parsed, rfl⟩
  | index => exact ⟨{ params, index := some 1 }, .int 1, rfl, rfl, rfl⟩

end Ref

namespace Value

/-- The items of a list, and what an object or a mapping holds. -/
def contents : Value -> List Value
  | .list items => items
  | .object es => es.map (·.2)
  | .mapping es => es.map (·.2)
  | _ => []

/-- A reference is the value itself, or stands somewhere in it. -/
inductive Holds (r : Ref) : Value -> Prop where
  | here {v : Value} : Ref.ofValue? v = some r -> Holds r v
  | inside {v x : Value} : x ∈ v.contents -> Holds r x -> Holds r v

/-- Every reference in a value reads parameters. -/
def OnlyParams (v : Value) : Prop :=
  ∀ r, v.Holds r -> r.IsParam

/-- A reference is met when a value is resolved on a number of levels: it is the value itself, or
stands in what the value is or refers to. References to other things than parameters lead nowhere
here. -/
inductive Meets (params : Entries) (r : Ref) : Nat -> Value -> Prop where
  | here {level : Nat} {v : Value} : Ref.ofValue? v = some r -> Meets params r (level + 1) v
  | inside {level : Nat} {v u x : Value} : v.resolveOne (.ofParams params) = .ok u ->
      Ref.ofValue? u = none -> x ∈ u.contents -> Meets params r level x ->
      Meets params r (level + 1) v

/-- Nothing but references to parameters is met down to a depth. -/
def MeetsOnlyParams (params : Entries) (maxDepth : Int) (v : Value) : Prop :=
  ∀ r, Meets params r (levels maxDepth) v -> r.IsParam

section Congr

variable {ctx ctx' : Context} {level level' : Nat} {u v : Value}

/-- Contents that are resolved alike make values that are. -/
theorem resolveContents_congr (alike : Ref.ofValue? u = none ->
    ∀ x ∈ u.contents, resolveLevels ctx level x = resolveLevels ctx' level' x) :
    resolveContents ctx level u = resolveContents ctx' level' u := by
  have keyed {κ : Type} {es : List (κ × Value)}
      (alike : ∀ x ∈ es.map (·.2), resolveLevels ctx level x = resolveLevels ctx' level' x) :
      (es.mapM fun e => do return (e.1, ← resolveLevels ctx level e.2) : Except Fault _) =
        es.mapM fun e => do return (e.1, ← resolveLevels ctx' level' e.2) :=
    Fault.mapM_congr fun e mem => by rw [alike e.2 (List.mem_map_of_mem mem)]
  cases u with
  | list items =>
    have each : ∀ x ∈ items, resolveLevels ctx level x = resolveLevels ctx' level' x := alike rfl
    rw [resolveContents, resolveContents, Fault.mapM_congr each]
  | object es =>
    rw [resolveContents, resolveContents]
    cases ref : Ref.ofValue? (.object es) with
    | some r => rfl
    | none => rw [keyed (alike ref)]
  | mapping es => rw [resolveContents, resolveContents, keyed (alike rfl)]
  | _ => rfl

/-- A reference to a parameter reads the same in all contexts with the same parameters. -/
theorem resolveOne_of_params (own : ∀ r, Ref.ofValue? v = some r -> r.IsParam) :
    v.resolveOne ctx = v.resolveOne (.ofParams ctx.params) := by
  rw [resolveOne, resolveOne]
  cases ref : Ref.ofValue? v with
  | none => rfl
  | some r =>
    obtain ⟨path, rfl⟩ := own r ref
    rfl

theorem resolveLevels_of_params
    (only : ∀ r, Meets ctx.params r level v -> r.IsParam) :
    resolveLevels ctx level v = resolveLevels (.ofParams ctx.params) level v := by
  induction level generalizing v with
  | zero => rfl
  | succ level ih =>
    rw [resolveLevels_succ, resolveLevels_succ,
      resolveOne_of_params fun r ref => only r (.here ref)]
    cases found : v.resolveOne (.ofParams ctx.params) with
    | error fault => rfl
    | ok u =>
      refine resolveContents_congr fun plain x mem => ih fun r below => ?_
      exact only r (.inside found plain mem below)

end Congr

section Alike

variable {params : Entries} {level : Nat} {v w : Value} {r : Ref}

theorem contents_resolveContents {ctx : Context} {u : Value} (plain : Ref.ofValue? u = none)
    (done : resolveContents ctx level u = .ok w) :
    List.Forall₂ (fun x y => resolveLevels ctx level x = .ok y) u.contents w.contents := by
  cases u with
  | list items =>
    obtain ⟨ws, rfl, made⟩ := resolveContents_list done
    exact made
  | object es =>
    obtain ⟨ws, rfl, made⟩ := resolveContents_object plain done
    exact List.forall₂_map_left_iff.mpr (List.forall₂_map_right_iff.mpr (made.imp fun _ _ h => h.2))
  | mapping es =>
    obtain ⟨ws, rfl, made⟩ := resolveContents_mapping done
    exact List.forall₂_map_left_iff.mpr (List.forall₂_map_right_iff.mpr (made.imp fun _ _ h => h.2))
  | _ =>
    cases done
    exact .nil

/-- A value is resolved alike in all contexts with the given parameters. -/
def ResolvesAlike (params : Entries) (level : Nat) (v w : Value) : Prop :=
  ∀ ctx : Context, ctx.params = params -> resolveLevels ctx level v = .ok w

/-- What is resolved alike has a reference that is met resolved alike. -/
theorem ResolvesAlike.exists_of_meets (alike : ResolvesAlike params level v w)
    (meets : Meets params r level v) :
    ∃ level x y, Ref.ofValue? x = some r ∧ ResolvesAlike params (level + 1) x y := by
  induction meets generalizing w with
  | @here level v ref => exact ⟨level, v, w, ref, alike⟩
  | @inside level v u x found plain mem _ ih =>
    -- other references lead to nothing that has contents
    have same (ctx : Context) (holds : ctx.params = params) : v.resolveOne ctx = .ok u := by
      rw [← found, ← holds]
      refine resolveOne_of_params fun q ref => ?_
      by_contra other
      rw [resolveOne, ref] at found
      rcases Ref.resolve_ofParams other found with rfl | rfl <;> cases mem
    have contents (ctx : Context) (holds : ctx.params = params) :
        List.Forall₂ (fun x y => resolveLevels ctx level x = .ok y) u.contents w.contents := by
      have done := alike ctx holds
      rw [resolveLevels_succ, same ctx holds] at done
      exact contents_resolveContents plain done
    obtain ⟨i, at_i⟩ := List.mem_iff_getElem?.mp mem
    have at_place := getElem?_of_forall₂ (contents (.ofParams params) rfl) i
    rw [at_i] at at_place
    cases stands : w.contents[i]? with
    | none =>
      rw [stands] at at_place
      cases at_place
    | some y =>
      refine ih (w := y) fun ctx holds => ?_
      have there := getElem?_of_forall₂ (contents ctx holds) i
      rw [at_i, stands] at there
      cases there with
      | some resolved => exact resolved

/-- A reference that is resolved alike reads parameters. -/
theorem ResolvesAlike.isParam (alike : ResolvesAlike params (level + 1) v w)
    (ref : Ref.ofValue? v = some r) : r.IsParam := by
  by_contra other
  obtain ⟨u, found, contents⟩ := resolveLevels_ref ref (alike (.ofParams params) rfl)
  obtain ⟨ctx, u', holds, found', something⟩ := Ref.exists_resolve_isTruthy other found
  obtain ⟨u'', same, contents'⟩ := resolveLevels_ref ref (alike ctx holds)
  obtain rfl : u' = u'' := Except.ok.inj (found'.symm.trans same)
  have truthy : w.isTruthy = true := (resolveContents_keeps contents').2.trans something
  rw [(resolveContents_keeps contents).2] at truthy
  rcases Ref.resolve_ofParams other found with rfl | rfl <;> cases truthy

end Alike

section OnlyParams

variable {params : Entries} {v w x : Value}

theorem OnlyParams.of_mem (only : v.OnlyParams) (mem : x ∈ v.contents) : x.OnlyParams :=
  fun r holds => only r (.inside mem holds)

theorem onlyParams_of_contents (own : ∀ r, Ref.ofValue? v = some r -> r.IsParam)
    (inside : ∀ x ∈ v.contents, x.OnlyParams) : v.OnlyParams := by
  intro r holds
  cases holds with
  | here ref => exact own r ref
  | inside mem holds => exact inside _ mem r holds

theorem onlyParams_of_leaf (plain : Ref.ofValue? v = none) (leaf : v.contents = []) :
    v.OnlyParams := by
  refine onlyParams_of_contents (fun r ref => ?_) (fun x mem => ?_)
  · rw [plain] at ref
    cases ref
  · rw [leaf] at mem
    cases mem

theorem onlyParams_list {items : List Value} (inside : ∀ x ∈ items, x.OnlyParams) :
    (Value.list items).OnlyParams :=
  onlyParams_of_contents (fun r ref => by cases ref) inside

theorem onlyParams_param (path : String) : (Ref.param path).toValue.OnlyParams := by
  refine onlyParams_of_contents (fun r ref => ?_) (fun x mem => ?_)
  · rw [Ref.ofValue?_toValue] at ref
    exact ⟨path, (Option.some.inj ref).symm⟩
  · obtain rfl := List.mem_singleton.mp mem
    exact onlyParams_of_leaf rfl rfl

theorem mem_contents_of_child? {s : Path.Step} (stands : s.child? v = some x) : x ∈ v.contents := by
  cases v with
  | list items =>
    rw [Path.Step.child?] at stands
    split at stands
    · exact List.mem_of_getElem? stands
    · cases stands
  | object es => exact List.mem_map_of_mem (Entries.mem_of_get? stands)
  | mapping es =>
    obtain ⟨key, mem⟩ := Keyed.exists_mem_of_get? stands
    exact List.mem_map_of_mem mem
  | _ => cases stands

theorem onlyParams_of_read {s : Path.Step} (only : ∀ x ∈ v.contents, x.OnlyParams)
    (done : s.read v = .ok w) : w.OnlyParams := by
  rw [Path.Step.eq_of_read_ok done]
  cases stands : s.child? v with
  | none => exact onlyParams_of_leaf rfl rfl
  | some x => exact only x (mem_contents_of_child? stands)

/-- What a path reads has contents with no other references than the contents it is read from. -/
theorem onlyParams_of_readSteps {steps : List Path.Step} (only : ∀ x ∈ v.contents, x.OnlyParams)
    (done : Path.readSteps v steps = .ok w) : ∀ x ∈ w.contents, x.OnlyParams := by
  induction steps generalizing v with
  | nil =>
    obtain rfl := Except.ok.inj done
    exact only
  | cons s rest ih =>
    obtain ⟨u, first, done⟩ := Fault.exists_of_bind_ok done
    exact ih (fun x mem => (onlyParams_of_read only first).of_mem mem) done

/-- Where parameters hold no other references than to parameters, a value with such references alone
meets no other. -/
theorem isParam_of_meets {level : Nat} {r : Ref} (given : ∀ e ∈ params, e.2.OnlyParams)
    (only : v.OnlyParams) (meets : Meets params r level v) : r.IsParam := by
  induction meets with
  | here ref => exact only r (.here ref)
  | @inside level v u x found plain mem _ ih =>
    refine ih ?_
    rw [resolveOne] at found
    cases ref : Ref.ofValue? v with
    | none =>
      rw [ref] at found
      obtain rfl := Except.ok.inj found
      exact only.of_mem mem
    | some q =>
      rw [ref] at found
      obtain ⟨path, rfl⟩ := only q (.here ref)
      obtain ⟨steps, -, read⟩ := Path.exists_of_read_ok found
      refine onlyParams_of_readSteps (fun x mem => ?_) read x mem
      obtain ⟨e, among, rfl⟩ := List.mem_map.mp mem
      exact given e among

end OnlyParams

/-- What a value resolves to depends on the parameters alone if nothing but references to parameters
is met, and where it resolves to something also only then. This is so where neither the value nor
the parameters hold other references. -/
theorem resolve_of_params_alone (params : Entries) (maxDepth : Int) (v : Value) :
    (v.MeetsOnlyParams params maxDepth -> ∀ ctx : Context, ctx.params = params ->
        v.resolve ctx maxDepth = v.resolve (.ofParams params) maxDepth) ∧
      (∀ w, (∀ ctx : Context, ctx.params = params -> v.resolve ctx maxDepth = .ok w) ->
        v.MeetsOnlyParams params maxDepth) ∧
      (v.OnlyParams -> (∀ e ∈ params, e.2.OnlyParams) -> v.MeetsOnlyParams params maxDepth) := by
  refine ⟨?_, ?_, fun only given r => isParam_of_meets given only⟩
  · rintro only ctx rfl
    exact resolveLevels_of_params only
  · intro w alike r meets
    obtain ⟨level, x, y, ref, alike⟩ := ResolvesAlike.exists_of_meets alike meets
    exact alike.isParam ref

/-- A name and tags. -/
def labels : Entries :=
  [("name", .str "Ada"), ("tags", .list [.str "a", .str "b"])]

/-- References to a name and to tags. -/
def labelRefs : Value :=
  .list [(Ref.param "name").toValue, (Ref.param "tags").toValue]

theorem labelRefs_resolve :
    labelRefs.MeetsOnlyParams labels defaultDepth ∧
      labelRefs.resolve { params := labels, state := [("name", .str "Bob")] } defaultDepth =
        labelRefs.resolve (.ofParams labels) defaultDepth ∧
      labelRefs.resolve (.ofParams labels) defaultDepth =
        .ok (.list [.str "Ada", .list [.str "a", .str "b"]]) := by
  obtain ⟨alike, -, met⟩ := resolve_of_params_alone labels defaultDepth labelRefs
  have only : labelRefs.MeetsOnlyParams labels defaultDepth := by
    refine met (onlyParams_list fun x mem => ?_) fun e mem => ?_
    · rcases List.mem_pair.mp mem with rfl | rfl <;> exact onlyParams_param _
    · rcases List.mem_pair.mp mem with rfl | rfl
      · exact onlyParams_of_leaf rfl rfl
      · refine onlyParams_list fun x mem => ?_
        rcases List.mem_pair.mp mem with rfl | rfl <;> exact onlyParams_of_leaf rfl rfl
  exact ⟨only, alike only _ rfl, by decide +kernel⟩

/-- A list that a caller passes, with a reference to state in it. -/
def passedRef : Entries :=
  [("p", .list [(Ref.state "secret").toValue])]

/-- A value that refers to nothing but parameters need not depend on these alone: what a caller
passes for one can read the state. -/
theorem passedRef_reads_state :
    (Ref.param "p").toValue.OnlyParams ∧
      (Ref.param "p").toValue.resolve (.ofParams passedRef) defaultDepth = .ok (.list [.null]) ∧
      (Ref.param "p").toValue.resolve { params := passedRef, state := [("secret", .int 1)] }
        defaultDepth = .ok (.list [.int 1]) :=
  ⟨onlyParams_param "p", by decide +kernel, by decide +kernel⟩

end Value

end ViewDoc
