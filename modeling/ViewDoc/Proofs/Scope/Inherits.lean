import ViewDoc.Proofs.Ref.Resolved
import ViewDoc.Scope.Data
/-!
When a declaration leaves the data scope as it was, and when it keeps one name of it. The main
statements name the declarations that give the inherited scope in every context, those that neither
name a source nor a value and those whose source is the whole scope, and tell that a name which a
declaration keeps finds the same in the scope that it makes.
-/

set_option autoImplicit false

namespace ViewDoc

namespace Path

/-- A value in which steps lead to another one. -/
def nested (steps : List Step) (v : Value) : Value :=
  steps.foldr (fun s w => .object [(s.name, w)]) v

theorem readSteps_nested (steps : List Step) (v : Value) :
    readSteps (nested steps v) steps = .ok v := by
  induction steps with
  | nil => rfl
  | cons s rest ih =>
    have taken : s.read (nested (s :: rest) v) = .ok (nested rest v) := by
      cases s <;> simp [nested, Step.read, Step.name, Entries.get, Entries.get?]
    rw [readSteps, taken]
    exact ih

end Path

theorem Value.isNull_eq_false {v : Value} (present : v ≠ .null) : v.isNull = false := by
  cases v with
  | null => exact absurd rfl present
  | _ => rfl

/-- A value has no members, and no steps lead from it to the data of the context. -/
structure Context.Apart (ctx : Context) (v : Value) : Prop where
  present : v ≠ .null
  data : ctx.data ≠ .null
  members : ∀ name, v.member? name = none
  reads : ∀ steps, Path.readSteps v steps ≠ .ok ctx.data

theorem Context.apart_true {ctx : Context} (data : ctx.data ≠ .null)
    (other : ctx.data ≠ .bool true) : ctx.Apart (.bool true) := by
  refine ⟨by simp, data, fun name => rfl, fun steps read => ?_⟩
  rw [Path.readSteps_bool] at read
  split at read
  · exact other (Except.ok.inj read).symm
  · exact data (Except.ok.inj read).symm

theorem Path.eq_of_read_ok {p : String} {steps : List Path.Step} {w x y : Value}
    (parsed : parse p = .ok steps) (reads : readSteps w steps = .ok x) (read : Path.read w p = .ok y) :
    y = x := by
  rw [Path.read, parsed] at read
  exact Except.ok.inj (read.symm.trans reads)

namespace Ref

/-- What a reference reads can be chosen, whatever the data are: it is a path into any entries. -/
def ReadsAny (r : Ref) (p : String) : Prop :=
  ∀ (data : Value) (es : Entries), ∃ ctx : Context,
    ctx.data = data ∧ r.resolve ctx = Path.read (.object es) p

theorem readsAny_param (p : String) : (param p).ReadsAny p :=
  fun data es => ⟨{ params := es, data }, rfl, rfl⟩

theorem readsAny_state (p : String) : (state p).ReadsAny p :=
  fun data es => ⟨{ state := es, data }, rfl, rfl⟩

theorem ReadsAny.exists_apart {r : Ref} {p : String} (any : r.ReadsAny p) :
    ∃ ctx : Context, ∀ live, r.resolve ctx = .ok live -> ctx.Apart live := by
  cases parsed : Path.parse p with
  | error fault =>
    obtain ⟨ctx, -, same⟩ := any .null []
    refine ⟨ctx, fun live done => ?_⟩
    rw [same, Path.read, parsed] at done
    cases done
  | ok steps =>
    cases steps with
    | nil =>
      obtain ⟨ctx, data, same⟩ := any (.bool false) []
      refine ⟨ctx, fun live done => ?_⟩
      rw [same] at done
      obtain rfl := Path.eq_of_read_ok parsed rfl done
      refine ⟨by simp, by simp [data], fun name => rfl, fun steps read => ?_⟩
      rw [Path.readSteps_empty, data] at read
      split at read <;> cases read
    | cons s rest =>
      obtain ⟨ctx, data, same⟩ := any (.bool false) [(s.name, Path.nested rest (.bool true))]
      refine ⟨ctx, fun live done => ?_⟩
      rw [same] at done
      obtain rfl :=
        Path.eq_of_read_ok parsed (Path.readSteps_nested (s :: rest) (.bool true)) done
      exact Context.apart_true (by simp [data]) (by simp [data])

/-- A source that is not the whole data scope leads away from it in some context. -/
theorem exists_apart {v : Value} (source : isSource v = true) (part : ¬ v.IsWhole) :
    ∃ ctx : Context, ∀ live, v.resolveOne ctx = .ok live -> ctx.Apart live := by
  cases ref : ofValue? v with
  | none => simp [isSource, ref] at source
  | some r =>
    have whole (ctx : Context) : v.resolveOne ctx = r.resolve ctx := by
      rw [Value.resolveOne, ref]
    simp only [whole]
    cases r with
    | param p => exact (readsAny_param p).exists_apart
    | state p => exact (readsAny_state p).exists_apart
    | item p =>
      cases parsed : Path.parse p with
      | error fault =>
        refine ⟨{}, fun live done => ?_⟩
        rw [resolve, Path.read, parsed] at done
        cases done
      | ok steps =>
        refine ⟨{ item := Path.nested steps (.bool true), data := .bool false }, fun live done => ?_⟩
        obtain rfl := Path.eq_of_read_ok parsed (Path.readSteps_nested steps (.bool true)) done
        exact Context.apart_true (by simp) (by simp)
    | data p =>
      cases parsed : Path.parse p with
      | error fault =>
        refine ⟨{}, fun live done => ?_⟩
        rw [resolve, Path.read, parsed] at done
        cases done
      | ok steps =>
        cases steps with
        | nil => exact absurd ⟨p, ref, parsed⟩ part
        | cons s rest =>
          refine ⟨{ data := Path.nested (s :: rest) (.bool true) }, fun live done => ?_⟩
          obtain rfl :=
            Path.eq_of_read_ok parsed (Path.readSteps_nested (s :: rest) (.bool true)) done
          exact Context.apart_true (by simp [Path.nested]) (by simp [Path.nested])
    | index => simp [isSource, ref] at source

/-- A reference that reads null wherever there are no data reads the data. -/
theorem exists_data_of_resolve {r : Ref}
    (null : ∀ ctx : Context, ctx.data = .null -> r.resolve ctx = .ok .null) :
    ∃ p steps, r = .data p ∧ Path.parse p = .ok steps := by
  cases r with
  | param p =>
    obtain ⟨ctx, away⟩ := (readsAny_param p).exists_apart
    have found : (param p).resolve ctx = .ok .null := null (ctx.withData .null) rfl
    exact absurd rfl (away .null found).present
  | state p =>
    obtain ⟨ctx, away⟩ := (readsAny_state p).exists_apart
    have found : (state p).resolve ctx = .ok .null := null (ctx.withData .null) rfl
    exact absurd rfl (away .null found).present
  | data p =>
    obtain ⟨steps, parsed, -⟩ := Path.exists_of_read_ok (null {} rfl)
    exact ⟨p, steps, rfl, parsed⟩
  | item p =>
    obtain ⟨steps, parsed, -⟩ := Path.exists_of_read_ok (null {} rfl)
    have found := null { item := Path.nested steps (.bool true) } rfl
    cases Path.eq_of_read_ok parsed (Path.readSteps_nested steps (.bool true)) found
  | index => cases null { index := some 0 } rfl

end Ref

namespace DataDecl

variable {d : DataDecl} {ctx : Context} {maxDepth : Int}

/-- The steps of the path that narrows the scope. -/
def pickSteps (d : DataDecl) : Except Fault (List Path.Step) :=
  match d.pick.word? with
  | some path => Path.parse path
  | none => .ok []

theorem picked_eq (d : DataDecl) (scope : Value) :
    d.picked scope = d.pickSteps >>= Path.readSteps scope := by
  rw [picked, pickSteps]
  cases d.pick.word? <;> rfl

theorem exists_of_scope_ok {preview : Bool} {v : Value}
    (done : d.scope ctx preview maxDepth = .ok v) :
    ∃ base whole steps, d.baseScope ctx preview maxDepth = .ok base ∧
      d.extended ctx maxDepth base = .ok whole ∧ d.pickSteps = .ok steps ∧
      Path.readSteps whole steps = .ok v := by
  obtain ⟨base, made, done⟩ := Fault.exists_of_bind_ok done
  obtain ⟨whole, joined, done⟩ := Fault.exists_of_bind_ok done
  rw [picked_eq] at done
  obtain ⟨steps, parsed, done⟩ := Fault.exists_of_bind_ok done
  exact ⟨base, whole, steps, made, joined, parsed, done⟩

/-- Without a live value the scope is the literal one, or else that of the context unless a source
is named. -/
theorem baseScope_of_dead (dead : Ref.isSource d.source = false) (preview : Bool) :
    d.baseScope ctx preview maxDepth =
      if (d.design preview).isNull then .ok ctx.data
      else (d.design preview).resolve ctx maxDepth := by
  rw [baseScope, dead]
  show (if !(d.design preview).isNull then _ else _) = _
  cases (d.design preview).isNull <;> rfl

theorem baseScope_of_live (source : Ref.isSource d.source = true) {live : Value}
    (found : d.source.resolveOne ctx = .ok live) (present : live ≠ .null) (preview : Bool) :
    d.baseScope ctx preview maxDepth = .ok live := by
  rw [baseScope, source, if_pos rfl, found]
  show (if !live.isNull then _ else _) = _
  rw [Value.isNull_eq_false present]
  rfl

theorem exists_live_of_baseScope_ok (source : Ref.isSource d.source = true) {preview : Bool}
    {base : Value} (done : d.baseScope ctx preview maxDepth = .ok base) :
    ∃ live, d.source.resolveOne ctx = .ok live ∧ (live ≠ .null -> base = live) := by
  rw [baseScope, source, if_pos rfl] at done
  obtain ⟨live, found, -⟩ := Fault.exists_of_bind_ok done
  refine ⟨live, found, fun present => ?_⟩
  have same : d.baseScope ctx preview maxDepth = .ok live :=
    baseScope_of_live source found present preview
  rw [baseScope, source, if_pos rfl] at same
  exact Except.ok.inj (done.symm.trans same)

theorem exists_of_extended_ok {es : Entries} (extend : d.extend = .object es) {base whole : Value}
    (done : d.extended ctx maxDepth base = .ok whole) :
    ∃ u updates, (Value.object es).resolve ctx maxDepth = .ok u ∧ u.entries = .ok updates ∧
      whole = base.overlaid updates := by
  rw [extended, extend] at done
  obtain ⟨u, resolved, done⟩ := Fault.exists_of_bind_ok done
  obtain ⟨updates, made, done⟩ := Fault.exists_of_bind_ok done
  exact ⟨u, updates, resolved, made, (Except.ok.inj done).symm⟩

/-- The declaration gives the scope that it inherits, in every context. -/
def Inherits (d : DataDecl) (maxDepth : Int) : Prop :=
  ∀ ctx, d.scope ctx false maxDepth = .ok ctx.data

/-- A declaration whose scope differs in no context from the inherited one: it neither merges entries
nor narrows the scope, and names no source and no value, or the whole scope as its source with
nothing for the case that this is null but a reference to data. -/
structure Plain (d : DataDecl) : Prop where
  pick : d.pickSteps = .ok []
  extend : ∀ es, d.extend ≠ .object es
  base : (Ref.isSource d.source = false ∧ d.design false = .null) ∨
    d.source.IsWhole ∧ (d.design false = .null ∨
      ∃ p steps, Ref.ofValue? (d.design false) = some (.data p) ∧ Path.parse p = .ok steps)

theorem baseScope_of_isWhole (whole : d.source.IsWhole) (present : ctx.data ≠ .null)
    (preview : Bool) : d.baseScope ctx preview maxDepth = .ok ctx.data :=
  baseScope_of_live whole.isSource (whole.resolveOne_eq ctx) present preview

/-- What is merged under a name that the entries lack is what the base has there. -/
theorem readSteps_overlaid (base : Value) (updates : List (Key × Value)) (s : Path.Step)
    (rest : List Path.Step) :
    Path.readSteps (base.overlaid updates) (s :: rest) =
      Path.readSteps (((base.overlaid updates).member? s.name).getD .null) rest := by
  obtain ⟨es, members⟩ := base.exists_keyed?_overlaid updates
  rw [Path.readSteps, Value.read_of_keyed? members s]
  rfl

section

variable {steps : List Path.Step} (inherits : d.Inherits maxDepth) (parsed : d.pickSteps = .ok steps)

include inherits parsed

theorem Inherits.read (ctx : Context) :
    ∃ base whole, d.baseScope ctx false maxDepth = .ok base ∧
      d.extended ctx maxDepth base = .ok whole ∧ Path.readSteps whole steps = .ok ctx.data := by
  obtain ⟨base, whole, same, made, joined, again, read⟩ := exists_of_scope_ok (inherits ctx)
  cases parsed.symm.trans again
  exact ⟨base, whole, made, joined, read⟩

/-- A source is the whole scope, or there is none, or the scope is made of what lies apart from the
data of some context. -/
theorem Inherits.source_cases :
    Ref.isSource d.source = false ∨ d.source.IsWhole ∨
      ∃ ctx base whole, ctx.Apart base ∧ d.extended ctx maxDepth base = .ok whole ∧
        Path.readSteps whole steps = .ok ctx.data := by
  cases source : Ref.isSource d.source with
  | false => exact .inl rfl
  | true =>
    by_cases whole : d.source.IsWhole
    · exact .inr (.inl whole)
    · obtain ⟨ctx, away⟩ := Ref.exists_apart source whole
      obtain ⟨base, whole, made, joined, read⟩ := inherits.read parsed ctx
      obtain ⟨live, found, same⟩ := exists_live_of_baseScope_ok source made
      have elsewhere : ctx.Apart live := away live found
      obtain rfl := same elsewhere.present
      exact .inr (.inr ⟨ctx, base, whole, elsewhere, joined, read⟩)

/-- A literal value without a source is null, or what is read from the scope made of it is not what
is read from it alone. -/
theorem Inherits.design_eq_null (room : 0 ≤ maxDepth) (dead : Ref.isSource d.source = false)
    (apart : steps.length ≠ maxDepth.toNat)
    (alone : ∀ ctx base whole, ctx.data ≠ .null -> d.extended ctx maxDepth base = .ok whole ->
      Path.readSteps whole steps = .ok ctx.data -> Path.readSteps base steps = .ok ctx.data) :
    d.design false = .null := by
  by_contra present
  have null : (d.design false).isNull = false := Value.isNull_eq_false present
  have leads : (d.design false).LeadsToData (maxDepth.toNat + 1) steps := by
    intro data nonnull
    obtain ⟨base, whole, made, joined, read⟩ := inherits.read parsed (.ofData data)
    rw [baseScope_of_dead dead, null] at made
    have resolved : Value.resolveLevels (.ofData data) (maxDepth.toNat + 1) (d.design false) =
        .ok base := by
      rw [← Value.levels_eq room]
      exact made
    rw [resolved]
    exact alone _ base whole nonnull joined read
  have length : steps.length + 1 = maxDepth.toNat + 1 := leads.length_eq
  exact apart (by omega)

end

/-- In some context entries resolve to nothing that can be merged, or to one entry of this name. -/
def MergesOnly (es : Entries) (name : String) (level : Nat) : Prop :=
  ∃ ctx : Context, ctx.data = .int 0 ∧ ∀ u updates,
    Value.resolveLevels ctx (level + 1) (.object es) = .ok u -> u.entries = .ok updates ->
      updates = Keyed.ofEntries [(name, .bool true)]

section

variable {es : Entries} {r : Ref} (ref : Ref.ofValue? (.object es) = some r) (name : String)
  (level : Nat)

include ref

theorem mergesOnly_of_leaf (data : ctx.data = .int 0)
    (leaf : ∀ w, r.resolve ctx = .ok w -> w = .null ∨ w = .int 0) : MergesOnly es name level := by
  refine ⟨ctx, data, fun u updates resolved made => ?_⟩
  obtain ⟨w, found, contents⟩ := Value.resolveLevels_ref ref resolved
  rcases leaf w found with rfl | rfl <;> cases contents <;> cases made

theorem mergesOnly_of_readsAny {p : String} (any : r.ReadsAny p) : MergesOnly es name level := by
  by_cases whole : Path.parse p = .ok []
  · obtain ⟨ctx, data, same⟩ := any (.int 0) [(name, .bool true)]
    refine ⟨ctx, data, fun u updates resolved made => ?_⟩
    obtain ⟨w, found, contents⟩ := Value.resolveLevels_ref ref resolved
    rw [same] at found
    obtain rfl := Path.eq_of_read_ok whole rfl found
    have stays : u = .object [(name, .bool true)] := by
      rw [Value.resolveContents] at contents
      split at contents
      · exact (Except.ok.inj contents).symm
      · cases level <;> exact (Except.ok.inj contents).symm
    rw [stays] at made
    exact (Except.ok.inj made).symm
  · obtain ⟨ctx, data, same⟩ := any (.int 0) []
    refine mergesOnly_of_leaf ref name level data fun w found => ?_
    rw [same] at found
    obtain ⟨steps, parsed, read⟩ := Path.exists_of_read_ok found
    have part : steps ≠ [] := by
      rintro rfl
      exact whole parsed
    rw [Path.readSteps_empty, if_neg part] at read
    exact .inl (Except.ok.inj read).symm

theorem mergesOnly_of_ref : MergesOnly es name level := by
  have data : (Context.ofData (.int 0)).data = .int 0 := rfl
  cases r with
  | param p => exact mergesOnly_of_readsAny ref name level (Ref.readsAny_param p)
  | state p => exact mergesOnly_of_readsAny ref name level (Ref.readsAny_state p)
  | data p =>
    refine mergesOnly_of_leaf ref name level data fun w found => ?_
    obtain ⟨steps, -, read⟩ := Path.exists_of_read_ok found
    cases steps with
    | nil => exact .inr (Except.ok.inj read).symm
    | cons s rest =>
      have null : Path.readSteps .null rest = .ok w := read
      rw [Path.readSteps_null] at null
      exact .inl (Except.ok.inj null).symm
  | item p =>
    refine mergesOnly_of_leaf ref name level data fun w found => ?_
    obtain ⟨steps, -, read⟩ := Path.exists_of_read_ok found
    have null : Path.readSteps .null steps = .ok w := read
    rw [Path.readSteps_null] at null
    exact .inl (Except.ok.inj null).symm
  | index =>
    refine mergesOnly_of_leaf ref name level data fun w found => ?_
    exact .inl (Except.ok.inj found).symm

end

/-- Below the first step a scope with entries merged goes on in one of them, or else in the base. -/
theorem exists_entry_of_extended_ok (room : 0 ≤ maxDepth) {es : Entries}
    (extend : d.extend = .object es) (plain : Ref.ofValue? (.object es) = none) {base whole : Value}
    (joined : d.extended ctx maxDepth base = .ok whole) (s : Path.Step) (rest : List Path.Step) :
    ∃ entry, Option.Rel (fun x y => Value.resolveLevels ctx maxDepth.toNat x = .ok y)
        (Entries.get? es.reverse s.name) entry ∧
      Path.readSteps whole (s :: rest) =
        Path.readSteps ((entry.or (base.member? s.name)).getD .null) rest := by
  obtain ⟨u, updates, resolved, made, rfl⟩ := exists_of_extended_ok extend joined
  rw [Value.resolve, Value.levels_eq room] at resolved
  obtain ⟨ws, rfl, each⟩ :=
    Value.resolveContents_object plain (Value.resolveLevels_plain plain resolved)
  cases made
  refine ⟨Entries.get? ws.reverse s.name, ?_, ?_⟩
  · exact Entries.get?_of_forall₂ (List.forall₂_reverse_iff.mpr each) s.name
  · rw [readSteps_overlaid, Value.member?_overlaid_ofEntries]

section

variable {es : Entries} (inherits : d.Inherits maxDepth) (extend : d.extend = .object es)

include inherits extend

theorem Inherits.pickSteps_ne_nil : d.pickSteps ≠ .ok [] := by
  intro parsed
  -- the scope is an object, whatever it was before
  obtain ⟨base, whole, -, joined, read⟩ := inherits.read parsed (.ofData (.bool true))
  obtain ⟨u, updates, -, -, rfl⟩ := exists_of_extended_ok extend joined
  obtain ⟨members, keyed⟩ := base.exists_keyed?_overlaid updates
  rw [Except.ok.inj read] at keyed
  cases keyed

variable {s : Path.Step} {rest : List Path.Step} (room : 0 ≤ maxDepth)
  (parsed : d.pickSteps = .ok (s :: rest))

include room parsed

theorem Inherits.extend_plain : Ref.ofValue? (.object es) = none := by
  cases ref : Ref.ofValue? (.object es) with
  | none => rfl
  | some r =>
    obtain ⟨ctx, data, only⟩ := mergesOnly_of_ref ref s.name maxDepth.toNat
    obtain ⟨base, whole, -, joined, read⟩ := inherits.read parsed ctx
    obtain ⟨u, updates, resolved, made, rfl⟩ := exists_of_extended_ok extend joined
    rw [Value.resolve, Value.levels_eq room] at resolved
    rw [only u updates resolved made, readSteps_overlaid, Value.member?_overlaid_ofEntries] at read
    have taken : Entries.get? [(s.name, Value.bool true)].reverse s.name = some (.bool true) := by
      simp [Entries.get?]
    rw [taken, Option.some_or, Option.getD_some, Path.readSteps_bool, data] at read
    split at read <;> cases read

variable (apart : (s :: rest).length ≠ maxDepth.toNat)

include apart

theorem Inherits.not_under_entry : Entries.get? es.reverse s.name = none := by
  have plain := inherits.extend_plain extend room parsed
  cases stands : Entries.get? es.reverse s.name with
  | none => rfl
  | some x =>
    have leads : x.LeadsToData maxDepth.toNat rest := by
      intro data present
      obtain ⟨base, whole, -, joined, read⟩ := inherits.read parsed (.ofData data)
      obtain ⟨entry, related, same⟩ := exists_entry_of_extended_ok room extend plain joined s rest
      rw [stands] at related
      cases related with
      | some resolved =>
        rw [resolved]
        exact same.symm.trans read
    have length : rest.length + 1 = maxDepth.toNat := leads.length_eq
    exact absurd length apart

/-- What is read from the scope is read from the base, where the first step goes to a member. -/
theorem Inherits.read_base {ctx : Context} {base whole : Value} (present : ctx.data ≠ .null)
    (joined : d.extended ctx maxDepth base = .ok whole)
    (read : Path.readSteps whole (s :: rest) = .ok ctx.data) :
    base.member? s.name ≠ none ∧ Path.readSteps base (s :: rest) = .ok ctx.data := by
  have plain := inherits.extend_plain extend room parsed
  have absent := inherits.not_under_entry extend room parsed apart
  obtain ⟨entry, related, same⟩ := exists_entry_of_extended_ok room extend plain joined s rest
  rw [absent] at related
  cases related
  rw [same, Option.none_or] at read
  cases found : base.member? s.name with
  | none =>
    rw [found, Option.getD_none, Path.readSteps_null] at read
    exact absurd (Except.ok.inj read).symm present
  | some w =>
    rw [found, Option.getD_some] at read
    refine ⟨nofun, ?_⟩
    rw [Path.readSteps, Value.read_of_member? found]
    exact read

end

theorem Inherits.not_extended {steps : List Path.Step} (room : 0 ≤ maxDepth)
    (inherits : d.Inherits maxDepth) (parsed : d.pickSteps = .ok steps)
    (apart : steps.length ≠ maxDepth.toNat) (es : Entries) : d.extend ≠ .object es := by
  intro extend
  cases steps with
  | nil => exact inherits.pickSteps_ne_nil extend parsed
  | cons s rest =>
    have inBase {ctx : Context} {base whole : Value} (present : ctx.data ≠ .null)
        (joined : d.extended ctx maxDepth base = .ok whole)
        (read : Path.readSteps whole (s :: rest) = .ok ctx.data) :
        base.member? s.name ≠ none ∧ Path.readSteps base (s :: rest) = .ok ctx.data :=
      inherits.read_base extend room parsed apart present joined read
    have truth : (Context.ofData (.bool true)).data ≠ .null := nofun
    obtain ⟨base, whole, given, joined, read⟩ := inherits.read parsed (.ofData (.bool true))
    obtain dead | isWhole | ⟨ctx, base, whole, elsewhere, joined, read⟩ :=
      inherits.source_cases parsed
    · have null : d.design false = .null :=
        inherits.design_eq_null parsed room dead apart fun ctx base whole present joined read =>
          (inBase present joined read).2
      rw [baseScope_of_dead dead, null] at given
      cases given
      exact (inBase truth joined read).1 rfl
    · rw [baseScope_of_isWhole isWhole truth] at given
      cases given
      exact (inBase truth joined read).1 rfl
    · exact (inBase elsewhere.data joined read).1 (elsewhere.members s.name)

theorem extended_of_none (none : ∀ es, d.extend ≠ .object es) (base : Value) :
    d.extended ctx maxDepth base = .ok base := by
  rw [extended]
  split
  · rename_i es extend
    exact absurd extend (none es)
  · rfl

/-- Where the source is null the scope is the literal one, or null. -/
theorem baseScope_of_null (source : Ref.isSource d.source = true)
    (found : d.source.resolveOne ctx = .ok .null) (preview : Bool) :
    d.baseScope ctx preview maxDepth =
      if (d.design preview).isNull then .ok .null
      else (d.design preview).resolve ctx maxDepth := by
  rw [baseScope, source, if_pos rfl, found]
  show (if !(d.design preview).isNull then _ else _) = _
  cases (d.design preview).isNull <;> rfl

/-- Without data, what resolves to null everywhere is null itself, or a reference to the data. -/
theorem exists_data_of_resolveLevels {v : Value} {level : Nat} (present : v ≠ .null)
    (null : ∀ ctx : Context, ctx.data = .null -> Value.resolveLevels ctx (level + 1) v = .ok .null) :
    ∃ p steps, Ref.ofValue? v = some (.data p) ∧ Path.parse p = .ok steps := by
  cases ref : Ref.ofValue? v with
  | none =>
    have resolved := Value.resolveLevels_plain ref (null {} rfl)
    exact absurd (Value.eq_of_resolveContents rfl resolved) present
  | some r =>
    have looked (ctx : Context) (data : ctx.data = .null) : r.resolve ctx = .ok .null := by
      obtain ⟨u, found, resolved⟩ := Value.resolveLevels_ref ref (null ctx data)
      rw [found, Value.eq_of_resolveContents rfl resolved]
    obtain ⟨p, steps, rfl, parsed⟩ := Ref.exists_data_of_resolve looked
    exact ⟨p, steps, rfl, parsed⟩

theorem Plain.inherits (plain : d.Plain) (room : 0 ≤ maxDepth) : d.Inherits maxDepth := by
  intro ctx
  have base : d.baseScope ctx false maxDepth = .ok ctx.data := by
    rcases plain.base with ⟨dead, null⟩ | ⟨whole, design⟩
    · rw [baseScope_of_dead dead, null]
      rfl
    · by_cases present : ctx.data = .null
      · have found : d.source.resolveOne ctx = .ok .null := by
          rw [whole.resolveOne_eq, present]
        rw [baseScope_of_null whole.isSource found, present]
        rcases design with null | ⟨p, steps, ref, parsed⟩
        · rw [null]
          rfl
        · have resolved : (d.design false).resolve ctx maxDepth = .ok .null := by
            have lookup : (d.design false).resolveOne ctx = .ok .null := by
              rw [Value.resolveOne, ref]
              show Path.read ctx.data p = _
              rw [Path.read, parsed, present]
              exact Path.readSteps_null steps
            rw [Value.resolve, Value.levels_eq room, Value.resolveLevels_succ, lookup]
            rfl
          rw [resolved]
          split <;> rfl
      · exact baseScope_of_isWhole whole present false
  rw [scope, base]
  show (d.extended ctx maxDepth ctx.data >>= d.picked) = _
  rw [extended_of_none plain.extend]
  show d.picked ctx.data = _
  rw [picked_eq, plain.pick]
  rfl

/-- Beside the whole scope as the source a literal value has to be null where the scope is. -/
theorem Inherits.design_of_isWhole (inherits : d.Inherits maxDepth) (room : 0 ≤ maxDepth)
    (parsed : d.pickSteps = .ok []) (none : ∀ es, d.extend ≠ .object es)
    (isWhole : d.source.IsWhole) :
    d.design false = .null ∨
      ∃ p steps, Ref.ofValue? (d.design false) = some (.data p) ∧ Path.parse p = .ok steps := by
  by_cases null : d.design false = .null
  · exact .inl null
  · have resolves (ctx : Context) (data : ctx.data = .null) :
        Value.resolveLevels ctx (maxDepth.toNat + 1) (d.design false) = .ok .null := by
      obtain ⟨base, whole, given, joined, read⟩ := inherits.read parsed ctx
      rw [extended_of_none none] at joined
      cases joined
      obtain rfl : base = ctx.data := Except.ok.inj read
      have found : d.source.resolveOne ctx = .ok .null := by
        rw [isWhole.resolveOne_eq, data]
      rw [baseScope_of_null isWhole.isSource found, Value.isNull_eq_false null] at given
      rw [← Value.levels_eq room, ← data]
      exact given
    exact .inr (exists_data_of_resolveLevels null resolves)

/-- The declarations that leave every scope as it is are the plain ones, but for those that narrow
the scope by as many steps as references are resolved deep. -/
theorem inherits_iff_plain (room : 0 ≤ maxDepth)
    (apart : ∀ steps, d.pickSteps = .ok steps -> steps.length ≠ maxDepth.toNat) :
    d.Inherits maxDepth ↔ d.Plain := by
  refine ⟨fun inherits => ?_, fun plain => plain.inherits room⟩
  obtain ⟨base, whole, steps, given, joined, parsed, read⟩ :=
    exists_of_scope_ok (inherits (.ofData (.bool true)))
  have none : ∀ es, d.extend ≠ .object es :=
    inherits.not_extended room parsed (apart steps parsed)
  have same {ctx : Context} {base whole : Value} (joined : d.extended ctx maxDepth base = .ok whole) :
      base = whole := by
    rw [extended_of_none none] at joined
    exact Except.ok.inj joined
  obtain rfl := same joined
  have all (read : Path.readSteps (.bool true) steps = .ok (.bool true)) :
      steps = [] := by
    rw [Path.readSteps_bool] at read
    by_contra some
    rw [if_neg some] at read
    cases read
  obtain dead | isWhole | ⟨ctx, base, whole, elsewhere, joined, read⟩ :=
    inherits.source_cases parsed
  · have null : d.design false = .null :=
      inherits.design_eq_null parsed room dead (apart steps parsed)
        fun ctx base whole _ joined read => same joined ▸ read
    rw [baseScope_of_dead dead, null] at given
    cases given
    obtain rfl := all read
    exact ⟨parsed, none, .inl ⟨dead, null⟩⟩
  · have truth : (Context.ofData (.bool true)).data ≠ .null := nofun
    rw [baseScope_of_isWhole isWhole truth] at given
    cases given
    obtain rfl := all read
    exact ⟨parsed, none, .inr ⟨isWhole, inherits.design_of_isWhole room parsed none isWhole⟩⟩
  · obtain rfl := same joined
    exact absurd read (elsewhere.reads steps)

end DataDecl

/-- Entries have the keys of those that they are resolved from. -/
theorem Value.key_mem_of_resolve_entries {ctx : Context} {maxDepth : Int} {es : Entries}
    {u : Value} {updates : List (Key × Value)} (plain : Ref.ofValue? (.object es) = none)
    (resolved : (Value.object es).resolve ctx maxDepth = .ok u) (made : u.entries = .ok updates)
    {e : Key × Value} (mem : e ∈ updates) : ∃ key ∈ Entries.keys es, e.1 = .text key := by
  have own {ws : Entries} (made : (Value.object ws).entries = .ok updates) :
      ∃ key ∈ Entries.keys ws, e.1 = .text key := by
    cases made
    obtain ⟨w, held, rfl⟩ := List.mem_map.mp mem
    exact ⟨w.1, List.mem_map_of_mem held, rfl⟩
  rw [resolve] at resolved
  cases depth : levels maxDepth with
  | zero =>
    rw [depth] at resolved
    cases resolved
    exact own made
  | succ level =>
    rw [depth] at resolved
    obtain ⟨ws, rfl, each⟩ := resolveContents_object plain (resolveLevels_plain plain resolved)
    obtain ⟨key, held, same⟩ := own made
    have keys : List.Forall₂ (· = ·) (Entries.keys es) (Entries.keys ws) := by
      rw [Entries.keys, Entries.keys, List.forall₂_map_left_iff, List.forall₂_map_right_iff]
      exact each.imp fun e w own => own.1
    rw [List.forall₂_eq_eq_eq] at keys
    exact ⟨key, keys ▸ held, same⟩

namespace DataDecl

variable {d : DataDecl} {w : String} {ctx : Context} {preview : Bool} {maxDepth : Int} {x v : Value}

/-- A declaration that lets a name through: it does not narrow the scope, it merges no entry under
the name, and it makes no scope of its own, or takes the whole scope as its source. -/
structure Keeps (d : DataDecl) (w : String) : Prop where
  pick : d.pickSteps = .ok []
  extend : ∀ es, d.extend = .object es ->
    Ref.ofValue? (.object es) = none ∧ w ∉ Entries.keys es
  base : (Ref.isSource d.source = false ∧ d.value = .null ∧ d.mock = .null) ∨ d.source.IsWhole

theorem Keeps.baseScope_eq (keeps : d.Keeps w) (present : ctx.data ≠ .null) :
    d.baseScope ctx preview maxDepth = .ok ctx.data := by
  obtain ⟨dead, value, mock⟩ | whole := keeps.base
  · have design : d.design preview = .null := by
      rw [design, value, mock]
      cases preview <;> rfl
    rw [baseScope_of_dead dead, design]
    rfl
  · exact baseScope_of_isWhole whole present preview

theorem Keeps.member?_of_extended (keeps : d.Keeps w) {base whole : Value}
    (joined : d.extended ctx maxDepth base = .ok whole) : whole.member? w = base.member? w := by
  by_cases merges : ∃ es, d.extend = .object es
  · obtain ⟨es, extend⟩ := merges
    obtain ⟨plain, absent⟩ := keeps.extend es extend
    obtain ⟨u, updates, resolved, made, rfl⟩ := exists_of_extended_ok extend joined
    refine Value.member?_overlaid_of_forall_ne base fun e mem same => ?_
    obtain ⟨key, held, text⟩ := Value.key_mem_of_resolve_entries plain resolved made mem
    obtain rfl : w = key := Key.text.inj (same.symm.trans text)
    exact absent held
  · have none (es : Entries) : d.extend ≠ .object es := fun extend => merges ⟨es, extend⟩
    rw [extended_of_none none] at joined
    cases joined
    rfl

theorem Keeps.member?_of_scope (keeps : d.Keeps w) (found : ctx.data.member? w = some x)
    (done : d.scope ctx preview maxDepth = .ok v) : v.member? w = some x := by
  obtain ⟨base, whole, steps, given, joined, parsed, read⟩ := exists_of_scope_ok done
  have present : ctx.data ≠ .null := by
    intro null
    rw [null] at found
    cases found
  rw [keeps.baseScope_eq present] at given
  cases given
  cases keeps.pick.symm.trans parsed
  obtain rfl : whole = v := Except.ok.inj read
  rw [keeps.member?_of_extended joined, found]

end DataDecl

/-- What a name finds in the scope around a node it finds within the node, unless the node has a
declaration that does not keep it. -/
theorem member?_of_dataScope {decl : Option DataDecl} {w : String} {ctx : Context} {preview : Bool}
    {maxDepth : Int} {x v : Value} (keeps : ∀ d, decl = some d -> d.Keeps w)
    (found : ctx.data.member? w = some x) (done : dataScope decl ctx preview maxDepth = .ok v) :
    v.member? w = some x := by
  cases decl with
  | none =>
    cases done
    exact found
  | some d => exact (keeps d rfl).member?_of_scope found done

end ViewDoc
