import ViewDoc.Proofs.Scope.Inherits
import ViewDoc.Tsx.Reference
/-!
When the draft of a declaration leaves the expression for the data scope as it was, compared with
when the scope itself stays as it was. The main statement names the four kinds of declarations for
which these are not the same.
-/

set_option autoImplicit false

namespace ViewDoc

open Tsx (Declared Draft Expr Note Scope)

/-- An expression without what only puts parentheses around it. -/
def Tsx.Expr.bare : Expr -> Expr
  | .members e [] => e.bare
  | e => e

theorem Tsx.Expr.text_members_nil (e : Expr) :
    (Expr.members e []).text = e.text ∨ (Expr.members e []).text = "(" ++ e.text ++ ")" := by
  have whole : (Expr.members e []).text = Tsx.baseText e.text := rfl
  rw [whole, Tsx.baseText]
  split
  · exact .inr rfl
  · exact .inl rfl

namespace DataDecl

variable {d : DataDecl}

/-- The draft of a declaration is the expression for the data scope around it, up to parentheses, in
every scope that has one. -/
def DraftsInherited (d : DataDecl) : Prop :=
  ∀ names (scope : Scope) path, scope.data.isUndefined = false ->
    ∃ e notes, Draft.dataScope names scope path (some d) = .ok (e, notes) ∧
      e.bare = scope.data.bare

/-- A declaration for which nothing is drafted: it has no entries to merge and no path, and neither a
source nor a value, or only one of these, which is the whole scope. -/
structure DraftedPlain (d : DataDecl) : Prop where
  pick : d.pickSteps = .ok []
  extend : ∀ e es, d.extend ≠ .object (e :: es)
  base : (Ref.ofValue? d.source = none ∧ d.design false = .null) ∨
    (d.source.IsWhole ∧ d.design false = .null) ∨
    (Ref.isSource d.source = false ∧ (d.design false).IsWhole)

end DataDecl

namespace Tsx.Draft

/-- The scope that has no variables and no names, but data. -/
def bareScope : Scope :=
  { data := .array [] }

theorem eq_undefined_of_outOfScope {tag path : String} {e : Expr} {notes : List Note}
    (done : outOfScope tag path = .ok (e, notes)) : e = .undefined := by
  obtain ⟨_, _, -, done⟩ := Noted.exists_of_bind_ok done
  exact Noted.eq_of_pure_ok done

theorem variable_of_param {names : Declared} {path : String} {steps : List Path.Step} {e : Expr}
    {notes : List Note} (done : param names path steps = .ok (e, notes)) :
    e = .undefined ∨ ∃ x rest, e = .members (.name x) rest := by
  rw [param.eq_def] at done
  split at done
  · dsimp only at done
    split at done
    · obtain ⟨_, _, -, done⟩ := Noted.exists_of_bind_ok done
      exact .inr ⟨_, _, Noted.eq_of_pure_ok done⟩
    · exact .inr ⟨_, _, Noted.eq_of_pure_ok done⟩
  · exact .inl (Noted.eq_of_pure_ok done)

theorem variable_of_stateVariable {names : Declared} {path written : String}
    {steps : List Path.Step} {e : Expr} {notes : List Note}
    (done : stateVariable names path written steps = .ok (e, notes)) :
    e = .undefined ∨ ∃ x rest, e = .members (.name x) rest := by
  have missing {notes : List Note}
      (done : stateVariable.missing path written = .ok (e, notes)) : e = .undefined := by
    obtain ⟨_, _, -, done⟩ := Noted.exists_of_bind_ok done
    exact Noted.eq_of_pure_ok done
  rw [stateVariable.eq_def] at done
  split at done
  · split at done
    · exact .inr ⟨_, _, Noted.eq_of_pure_ok done⟩
    · exact .inl (missing done)
  · exact .inl (missing done)

theorem bare_variable_ne {e : Expr}
    (shape : e = .undefined ∨ ∃ x rest, e = .members (.name x) rest) (items : List Expr) :
    e.bare ≠ .array items := by
  intro same
  obtain rfl | ⟨x, rest, rfl⟩ := shape
  · cases same
  · cases rest <;> cases same

/-- Only a reference to the whole of the data is drafted as the expression for these. -/
theorem whole_of_reference {names : Declared} {path : String} {r : Ref} {e : Expr} {notes : List Note}
    (done : reference names bareScope path r = .ok (e, notes)) (same : e.bare = .array []) :
    ∃ p, r = .data p ∧ Path.parse p = .ok [] := by
  cases r with
  | index =>
    have undefined := eq_undefined_of_outOfScope done
    exact absurd same (bare_variable_ne (.inl undefined) [])
  | param p =>
    obtain ⟨⟨steps, _⟩, _, -, done⟩ := Noted.exists_of_bind_ok done
    exact absurd same (bare_variable_ne (variable_of_param done) [])
  | state p =>
    obtain ⟨⟨steps, _⟩, _, -, done⟩ := Noted.exists_of_bind_ok done
    exact absurd same (bare_variable_ne (variable_of_stateVariable done) [])
  | item p =>
    obtain ⟨⟨steps, _⟩, _, -, done⟩ := Noted.exists_of_bind_ok done
    have undefined := eq_undefined_of_outOfScope done
    exact absurd same (bare_variable_ne (.inl undefined) [])
  | data p =>
    obtain ⟨⟨steps, _⟩, _, parsed, done⟩ := Noted.exists_of_bind_ok done
    obtain rfl : e = _ := Noted.eq_of_pure_ok done
    cases steps with
    | nil => exact ⟨p, rfl, Noted.eq_ok_of_ofExcept parsed⟩
    | cons s rest => cases s <;> cases same

theorem eq_literal_of_literal {path : String} {v : Value} {r : Option Expr} {notes : List Note}
    (done : literal path v = .ok (r, notes)) :
    r = some (.literal v) ∨ r = none ∧ Json.spells v = false := by
  rw [literal] at done
  split at done
  · exact .inl (Noted.eq_of_pure_ok done)
  · rename_i unspelled
    obtain ⟨_, _, -, done⟩ := Noted.exists_of_bind_ok done
    exact .inr ⟨Noted.eq_of_pure_ok done, Bool.eq_false_iff.mpr unspelled⟩

/-- A value that JSON spells is never left out. -/
theorem exists_of_value_ok {names : Declared} {scope : Scope} {path : String} {v : Value}
    {r : Option Expr} {notes : List Note} (spelled : Json.spells v = true)
    (done : value names scope path v = .ok (r, notes)) : ∃ e, r = some e := by
  have plain {notes : List Note} (done : literal path v = .ok (r, notes)) : ∃ e, r = some e := by
    rcases eq_literal_of_literal done with same | ⟨-, unspelled⟩
    · exact ⟨_, same⟩
    · rw [spelled] at unspelled
      cases unspelled
  rw [value.eq_def] at done
  split at done
  · split at done
    · obtain ⟨_, _, -, done⟩ := Noted.exists_of_bind_ok done
      exact ⟨_, Noted.eq_of_pure_ok done⟩
    · exact plain done
  · split at done
    · obtain ⟨_, _, -, done⟩ := Noted.exists_of_bind_ok done
      exact ⟨_, Noted.eq_of_pure_ok done⟩
    · split at done
      · obtain ⟨_, _, -, done⟩ := Noted.exists_of_bind_ok done
        exact ⟨_, Noted.eq_of_pure_ok done⟩
      · exact plain done
  · exact plain done

theorem ne_nil_of_valueItems {names : Declared} {scope : Scope} {path : String} {i : Nat}
    {items : List Value} {es : List Expr} {notes : List Note}
    (done : valueItems names scope path i items = .ok (es, notes)) (some : items ≠ []) : es ≠ [] := by
  cases items with
  | nil => exact absurd rfl some
  | cons v rest =>
    obtain ⟨_, _, -, done⟩ := Noted.exists_of_bind_ok done
    obtain ⟨_, _, -, done⟩ := Noted.exists_of_bind_ok done
    obtain rfl : es = _ := Noted.eq_of_pure_ok done
    nofun

/-- Only the whole of the data is a value that is drafted as the expression for these. -/
theorem isWhole_of_value {names : Declared} {path : String} {v : Value} {e : Expr}
    {notes : List Note} (done : value names bareScope path v = .ok (some e, notes))
    (same : e.bare = .array []) : v.IsWhole := by
  have plain {v : Value} {notes : List Note} (done : literal path v = .ok (some e, notes)) :
      False := by
    rcases eq_literal_of_literal done with made | ⟨absent, -⟩
    · cases made
      cases same
    · cases absent
  rw [value.eq_def] at done
  split at done
  · rename_i items
    split at done
    · rename_i refers
      obtain ⟨⟨es, _⟩, _, made, done⟩ := Noted.exists_of_bind_ok done
      cases Noted.eq_of_pure_ok done
      have some : items ≠ [] := by
        rintro rfl
        cases refers
      exact absurd (Expr.array.inj same) (ne_nil_of_valueItems made some)
    · exact (plain done).elim
  · rename_i es
    split at done
    · rename_i r ref
      obtain ⟨⟨e', _⟩, _, made, done⟩ := Noted.exists_of_bind_ok done
      cases Noted.eq_of_pure_ok done
      obtain ⟨p, rfl, parsed⟩ := whole_of_reference made same
      exact ⟨p, ref, parsed⟩
    · split at done
      · obtain ⟨_, _, -, done⟩ := Noted.exists_of_bind_ok done
        cases Noted.eq_of_pure_ok done
        cases same
      · exact (plain done).elim
  · exact (plain done).elim

/-- The whole of the data is drafted as the expression for these. -/
theorem reference_of_whole {names : Declared} {scope : Scope} {path p : String}
    (defined : scope.data.isUndefined = false) (whole : Path.parse p = .ok []) :
    reference names scope path (.data p) = pure scope.data := by
  rw [reference, whole]
  show (pure (inData scope []) : Draft Expr) = _
  rw [inData, defined]
  rfl

theorem source_cases {names : Declared} {scope : Scope} {path : String} {v : Value}
    {r : Option Expr} {notes : List Note} (done : source names scope path v = .ok (r, notes)) :
    (Ref.isSource v = false ∧ r = none) ∨
      ∃ ref e notes, Ref.ofValue? v = some ref ∧ r = some e ∧
        reference names scope path ref = .ok (e, notes) := by
  rw [source.eq_def] at done
  split at done
  · rename_i position
    exact .inl ⟨by rw [Ref.isSource, position], Noted.eq_of_pure_ok done⟩
  · rename_i absent
    exact .inl ⟨by rw [Ref.isSource, absent], Noted.eq_of_pure_ok done⟩
  · rename_i ref _ found
    obtain ⟨⟨e, _⟩, _, made, done⟩ := Noted.exists_of_bind_ok done
    exact .inr ⟨ref, e, _, found, Noted.eq_of_pure_ok done, made⟩

/-- The expression for the literal value of a declaration, if there is one. -/
def designOf (names : Declared) (scope : Scope) (path : String) (d : DataDecl) :
    Draft (Option Expr) :=
  match (d.design false).nonNull? with
  | some v => value names scope (path ++ ".data.value") v
  | none => return none

/-- The expression that those for the source and for the literal value make. -/
def baseOf (scope : Scope) (d : DataDecl) : Option Expr -> Option Expr -> Expr
  | some e, some f => .orElse e f
  | some e, none => e
  | none, some f => f
  | none, none => if (Ref.ofValue? d.source).isSome then .undefined else scope.data

theorem baseScope_eq (names : Declared) (scope : Scope) (path : String) (d : DataDecl) :
    baseScope names scope path d = (do
      let live ← source names scope (path ++ ".data.source") d.source
      let design ← designOf names scope path d
      return baseOf scope d live design) := by
  rw [baseScope, designOf]
  refine bind_congr fun live => ?_
  cases (d.design false).nonNull? with
  | none => cases live <;> rfl
  | some v =>
    refine bind_congr fun design => ?_
    cases live <;> cases design <;> rfl

theorem designOf_cases {names : Declared} {path : String} {d : DataDecl} {r : Option Expr}
    {notes : List Note} (spelled : Json.spells (d.design false) = true)
    (done : designOf names bareScope path d = .ok (r, notes)) :
    (d.design false = .null ∧ r = none) ∨
      ∃ f, r = some f ∧ (f.bare = .array [] -> (d.design false).IsWhole) := by
  rw [designOf] at done
  cases null : d.design false with
  | null =>
    rw [null] at done
    exact .inl ⟨rfl, Noted.eq_of_pure_ok done⟩
  | _ =>
    rw [null] at done spelled
    obtain ⟨f, rfl⟩ := exists_of_value_ok spelled done
    exact .inr ⟨f, rfl, isWhole_of_value done⟩

/-- The expression for the data is drafted only where there is neither source nor value, or one of
them is the whole of the data. -/
theorem base_cases {names : Declared} {path : String} {d : DataDecl} {e : Expr} {notes : List Note}
    (spelled : Json.spells (d.design false) = true)
    (done : baseScope names bareScope path d = .ok (e, notes)) (same : e.bare = .array []) :
    (Ref.ofValue? d.source = none ∧ d.design false = .null) ∨
      (d.source.IsWhole ∧ d.design false = .null) ∨
      (Ref.isSource d.source = false ∧ (d.design false).IsWhole) := by
  rw [baseScope_eq] at done
  obtain ⟨⟨live, _⟩, _, sourced, done⟩ := Noted.exists_of_bind_ok done
  obtain ⟨⟨design, _⟩, _, designed, done⟩ := Noted.exists_of_bind_ok done
  obtain rfl : e = _ := Noted.eq_of_pure_ok done
  obtain ⟨dead, rfl⟩ | ⟨r, e, _, ref, rfl, made⟩ := source_cases sourced
  · obtain ⟨null, rfl⟩ | ⟨f, rfl, whole⟩ := designOf_cases spelled designed
    · cases ref : Ref.ofValue? d.source with
      | none => exact .inl ⟨rfl, null⟩
      | some r =>
        rw [baseOf, ref] at same
        cases same
    · exact .inr (.inr ⟨dead, whole same⟩)
  · obtain ⟨null, rfl⟩ | ⟨f, rfl, -⟩ := designOf_cases spelled designed
    · obtain ⟨p, rfl, parsed⟩ := whole_of_reference made same
      exact .inr (.inl ⟨⟨p, ref, parsed⟩, null⟩)
    · cases same

/-- The expression for the scope with the declared entries put over it. -/
def wholeOf (names : Declared) (scope : Scope) (path : String) (d : DataDecl) (base : Expr) :
    Draft Expr :=
  match d.extend with
  | .object (e :: es) =>
    (.extended base ·) <$> valueEntries names scope (path ++ ".data.extend") (e :: es)
  | _ => return base

theorem dataScope_eq (names : Declared) (scope : Scope) (path : String) (d : DataDecl) :
    dataScope names scope path (some d) = (do
      let base ← baseScope names scope path d
      let whole ← wholeOf names scope path d base
      match d.pick.word? with
      | some p => return .members whole (← Noted.ofExcept (Path.parse p))
      | none => return whole) := by
  rw [dataScope]
  refine bind_congr fun base => ?_
  rw [wholeOf]
  cases d.pick.word? <;>
    cases d.extend with
    | object es => cases es <;> rfl
    | _ => rfl

section

variable {names : Declared} {scope : Scope} {path : String}

theorem source_of_dead {v : Value} (dead : Ref.isSource v = false) :
    source names scope path v = pure none := by
  rw [Ref.isSource] at dead
  rw [source.eq_def]
  split at dead
  · rename_i position
    rw [position]
  · cases dead
  · rename_i absent
    rw [absent]

theorem source_of_isWhole {v : Value} (defined : scope.data.isUndefined = false)
    (whole : v.IsWhole) : source names scope path v = pure (some scope.data) := by
  obtain ⟨p, ref, parsed⟩ := whole
  rw [source.eq_def, ref]
  show (reference names scope path (.data p) >>= fun e => pure (some e)) = _
  rw [reference_of_whole defined parsed, pure_bind]

theorem value_of_isWhole {v : Value} (defined : scope.data.isUndefined = false)
    (whole : v.IsWhole) : value names scope path v = pure (some scope.data) := by
  obtain ⟨p, ref, parsed⟩ := whole
  cases v with
  | object es =>
    rw [value.eq_def]
    simp only [ref, reference_of_whole defined parsed, pure_bind]
  | _ => cases ref

end

end Tsx.Draft

namespace DataDecl

variable {d : DataDecl}

theorem DraftsInherited.plain (inherits : d.DraftsInherited)
    (spelled : Json.spells (d.design false) = true) : d.DraftedPlain := by
  obtain ⟨e, notes, done, same⟩ := inherits {} Draft.bareScope "" rfl
  rw [Draft.dataScope_eq] at done
  obtain ⟨⟨base, _⟩, _, based, done⟩ := Noted.exists_of_bind_ok done
  obtain ⟨⟨whole, _⟩, _, joined, done⟩ := Noted.exists_of_bind_ok done
  have picked : d.pickSteps = .ok [] ∧ whole.bare = .array [] := by
    cases word : d.pick.word? with
    | some p =>
      have written : d.pickSteps = Path.parse p := by simp only [pickSteps, word]
      rw [word] at done
      obtain ⟨⟨steps, _⟩, _, parsed, done⟩ := Noted.exists_of_bind_ok done
      obtain rfl : e = _ := Noted.eq_of_pure_ok done
      cases steps with
      | nil => exact ⟨written.trans (Noted.eq_ok_of_ofExcept parsed), same⟩
      | cons s rest => cases same
    | none =>
      have blank : d.pickSteps = .ok [] := by simp only [pickSteps, word]
      rw [word] at done
      obtain rfl : e = _ := Noted.eq_of_pure_ok done
      exact ⟨blank, same⟩
  have merged : (∀ e es, d.extend ≠ .object (e :: es)) ∧ whole = base := by
    rw [Draft.wholeOf] at joined
    split at joined
    · rw [map_eq_pure_bind] at joined
      obtain ⟨_, _, -, joined⟩ := Noted.exists_of_bind_ok joined
      have extended := picked.2
      obtain rfl : whole = _ := Noted.eq_of_pure_ok joined
      cases extended
    · rename_i other
      exact ⟨fun e es extend => other e es extend, Noted.eq_of_pure_ok joined⟩
  obtain ⟨none, rfl⟩ := merged
  exact ⟨picked.1, none, Draft.base_cases spelled based picked.2⟩

theorem DraftedPlain.draftsInherited (plain : d.DraftedPlain) : d.DraftsInherited := by
  intro names scope path defined
  have based : Draft.baseScope names scope path d = pure scope.data := by
    rw [Draft.baseScope_eq]
    obtain ⟨absent, null⟩ | ⟨whole, null⟩ | ⟨dead, whole⟩ := plain.base
    · have dead : Ref.isSource d.source = false := by rw [Ref.isSource, absent]
      rw [Draft.source_of_dead dead, pure_bind, Draft.designOf, null]
      show (pure none >>= fun design => pure (Draft.baseOf scope d none design)) = _
      rw [pure_bind, Draft.baseOf, absent]
      rfl
    · rw [Draft.source_of_isWhole defined whole, pure_bind, Draft.designOf, null]
      rfl
    · have present : (d.design false).nonNull? = some (d.design false) := by
        obtain ⟨p, ref, -⟩ := whole
        cases shape : d.design false with
        | null =>
          rw [shape] at ref
          cases ref
        | _ => rfl
      rw [Draft.source_of_dead dead, pure_bind, Draft.designOf, present]
      simp only [Draft.value_of_isWhole defined whole, pure_bind]
      rfl
  have whole (base : Expr) : Draft.wholeOf names scope path d base = pure base := by
    rw [Draft.wholeOf]
    split
    · rename_i e es extend
      exact absurd extend (plain.extend e es)
    · rfl
  have picked := plain.pick
  rw [pickSteps] at picked
  rw [Draft.dataScope_eq, based, pure_bind, whole, pure_bind]
  cases word : d.pick.word? with
  | none => exact ⟨scope.data, [], rfl, rfl⟩
  | some p =>
    rw [word] at picked
    have parsed : Path.parse p = .ok [] := picked
    simp only [parsed]
    exact ⟨.members scope.data [], [], rfl, rfl⟩

/-- For a value that JSON spells nothing is drafted exactly if the declaration is plain for that. -/
theorem draftsInherited_iff_plain (spelled : Json.spells (d.design false) = true) :
    d.DraftsInherited ↔ d.DraftedPlain :=
  ⟨fun inherits => inherits.plain spelled, fun plain => plain.draftsInherited⟩

/-- The declarations that leave either the scope or the expression for it as it was, but not both. -/
inductive Divergent (d : DataDecl) : Prop where
  /-- The index as the source: the scope is inherited, and nothing is drafted for it. -/
  | index (source : Ref.ofValue? d.source = some .index) (design : d.design false = .null)
      (extend : ∀ es, d.extend ≠ .object es) (pick : d.pickSteps = .ok [])
  /-- Nothing to merge: it makes an object of every scope, and the expression stays. -/
  | nothing (extend : d.extend = .object []) (plain : d.DraftedPlain)
  /-- The whole scope as the value: what is in it is resolved, and the expression stays. -/
  | value (source : Ref.isSource d.source = false) (design : (d.design false).IsWhole)
      (extend : ∀ es, d.extend ≠ .object es) (pick : d.pickSteps = .ok [])
  /-- A part of the scope in place of the whole when this is null: the scope is inherited, and the
  expression has both. -/
  | part (source : d.source.IsWhole) {p : String} {steps : List Path.Step}
      (design : Ref.ofValue? (d.design false) = some (.data p)) (parsed : Path.parse p = .ok steps)
      (extend : ∀ es, d.extend ≠ .object es) (pick : d.pickSteps = .ok [])

theorem Divergent.not_alike (divergent : d.Divergent) : ¬ (d.Plain ↔ d.DraftedPlain) := by
  intro alike
  cases divergent with
  | index source design extend pick =>
    have dead : Ref.isSource d.source = false := by rw [Ref.isSource, source]
    have drafted := alike.mp ⟨pick, extend, .inl ⟨dead, design⟩⟩
    obtain ⟨absent, -⟩ | ⟨⟨p, ref, -⟩, -⟩ | ⟨-, whole⟩ := drafted.base
    · rw [source] at absent
      cases absent
    · rw [source] at ref
      cases ref
    · exact whole.ne_null design
  | nothing extend plain => exact (alike.mpr plain).extend [] extend
  | value source design extend pick =>
    have plain := alike.mpr ⟨pick, fun e es => extend (e :: es), .inr (.inr ⟨source, design⟩)⟩
    obtain ⟨-, null⟩ | ⟨whole, -⟩ := plain.base
    · exact design.ne_null null
    · rw [whole.isSource] at source
      cases source
  | part source design parsed extend pick =>
    have drafted := alike.mp ⟨pick, extend, .inr ⟨source, .inr ⟨_, _, design, parsed⟩⟩⟩
    obtain ⟨-, null⟩ | ⟨-, null⟩ | ⟨dead, -⟩ := drafted.base
    · rw [null] at design
      cases design
    · rw [null] at design
      cases design
    · rw [source.isSource] at dead
      cases dead

theorem Plain.draftedPlain (plain : d.Plain) (regular : ¬ d.Divergent) : d.DraftedPlain := by
  refine ⟨plain.pick, fun e es => plain.extend (e :: es), ?_⟩
  obtain ⟨dead, null⟩ | ⟨whole, null | ⟨p, steps, ref, parsed⟩⟩ := plain.base
  · cases source : Ref.ofValue? d.source with
    | none => exact .inl ⟨rfl, null⟩
    | some r =>
      cases r with
      | index => exact absurd (.index source null plain.extend plain.pick) regular
      | _ => simp [Ref.isSource, source] at dead
  · exact .inr (.inl ⟨whole, null⟩)
  · exact absurd (.part whole ref parsed plain.extend plain.pick) regular

theorem DraftedPlain.plain (drafted : d.DraftedPlain) (regular : ¬ d.Divergent) : d.Plain := by
  have extend (es : Entries) : d.extend ≠ .object es := by
    intro merged
    cases es with
    | nil => exact regular (.nothing merged drafted)
    | cons e es => exact drafted.extend e es merged
  refine ⟨drafted.pick, extend, ?_⟩
  obtain ⟨absent, null⟩ | ⟨whole, null⟩ | ⟨dead, whole⟩ := drafted.base
  · exact .inl ⟨by rw [Ref.isSource, absent], null⟩
  · exact .inr ⟨whole, .inl null⟩
  · exact absurd (.value dead whole extend drafted.pick) regular

theorem plain_iff_draftedPlain : (d.Plain ↔ d.DraftedPlain) ↔ ¬ d.Divergent := by
  constructor
  · intro alike divergent
    exact divergent.not_alike alike
  · intro regular
    exact ⟨fun plain => plain.draftedPlain regular, fun drafted => drafted.plain regular⟩

/-- The scope is inherited exactly where the expression for it is, unless the declaration is of one
of the kinds for which they differ. -/
theorem inherits_alike_iff {maxDepth : Int} (room : 0 ≤ maxDepth)
    (spelled : Json.spells (d.design false) = true)
    (apart : ∀ steps, d.pickSteps = .ok steps -> steps.length ≠ maxDepth.toNat) :
    (d.Inherits maxDepth ↔ d.DraftsInherited) ↔ ¬ d.Divergent := by
  rw [inherits_iff_plain room apart, draftsInherited_iff_plain spelled]
  exact plain_iff_draftedPlain

/-- A declaration that narrows the scope by a path. -/
def narrowed : DataDecl :=
  { source := .object [("$data", .str "")], pick := .str " user " }

theorem narrowed_alike :
    (narrowed.Inherits Value.defaultDepth ↔ narrowed.DraftsInherited) ∧ ¬ narrowed.DraftsInherited := by
  have parsed : narrowed.pickSteps = .ok [.key "user"] := rfl
  have regular : ¬ narrowed.Divergent := by
    rintro (⟨source, -, -, -⟩ | ⟨extend, -⟩ | ⟨source, -, -, -⟩ | ⟨-, design, -, -, -⟩)
    · cases source
    · cases extend
    · cases source
    · cases design
  refine ⟨(inherits_alike_iff (by decide) rfl fun steps same => ?_).mpr regular, fun drafts => ?_⟩
  · cases parsed.symm.trans same
    decide
  · cases parsed.symm.trans ((draftsInherited_iff_plain rfl).mp drafts).pick

/-- A declaration whose source is the index. -/
def indexSource : DataDecl :=
  { source := .object [("$index", .bool true)] }

/-- A declaration that merges nothing. -/
def nothingMerged : DataDecl :=
  { extend := .object [] }

/-- The scope is inherited although the draft does not go on with its expression, and the other way. -/
theorem indexSource_nothingMerged_diverge :
    (indexSource.Inherits Value.defaultDepth ∧ ¬ indexSource.DraftsInherited) ∧
      nothingMerged.DraftsInherited ∧ ¬ nothingMerged.Inherits Value.defaultDepth := by
  have index : indexSource.Plain := ⟨rfl, nofun, .inl ⟨rfl, rfl⟩⟩
  have nothing : nothingMerged.DraftedPlain := by
    refine ⟨rfl, fun e es => ?_, .inl ⟨rfl, rfl⟩⟩
    rintro ⟨⟩
  refine ⟨⟨index.inherits (by decide), fun drafts => ?_⟩, nothing.draftsInherited, fun inherits => ?_⟩
  · obtain ⟨absent, -⟩ | ⟨⟨p, ref, -⟩, -⟩ | ⟨-, p, ref, -⟩ :=
      ((draftsInherited_iff_plain rfl).mp drafts).base
    · cases absent
    · cases ref
    · cases ref
  · refine ((inherits_iff_plain (by decide) fun steps same => ?_).mp inherits).extend [] rfl
    cases (show nothingMerged.pickSteps = .ok [] from rfl).symm.trans same
    decide

end DataDecl

end ViewDoc
