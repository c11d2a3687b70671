import ViewDoc.Proofs.Value.Distinct
import ViewDoc.Proofs.View.Branch
import ViewDoc.Tsx.Module
/-!
The targets of actions in a view and in generated code. Both look for an action among the handlers
that came as params, the built-in actions and the increment, each with a ranking of its own. The main
statement is that they find targets of the same kind, except where a prop has the name of a built-in
action, and where a view stops at params without entries.
-/

set_option autoImplicit false

namespace ViewDoc

open Tsx (Declared Draft Note Scope Statement identifier setter)

namespace Tsx.Statement

/-- Whether a statement navigates or asks for the execution of a graph. -/
def isBuiltIn : Statement -> Bool
  | .follow .. | .followEither .. | .runGraph _ => true
  | _ => false

/-- Whether a statement announces an action to the host. -/
def isAnnouncement : Statement -> Bool
  | .announce .. => true
  | _ => false

end Tsx.Statement

namespace Tsx.Draft

variable {names : Declared} {scope : Scope} {path action : String} {sts : List Statement}
  {notes : List Note}

theorem isBuiltIn_of_followed {params : Entries} {state v : Value}
    (drafted : (do
      match ← value names scope (path ++ ".params.to") v with
      | some e => return if e.isUndefined then []
          else [.followEither e (Navigation.externalKind params) (Navigation.internalKind params)
            state]
      | none => return [] : Draft (List Statement)) = .ok (sts, notes)) :
    ∀ st ∈ sts, st.isBuiltIn = true := by
  obtain ⟨⟨e, _⟩, _, -, drafted⟩ := Noted.exists_of_bind_ok drafted
  cases e with
  | none =>
    obtain rfl := Noted.eq_of_pure_ok drafted
    exact List.forall_mem_nil _
  | some e =>
    obtain rfl := Noted.eq_of_pure_ok drafted
    split
    · exact List.forall_mem_nil _
    · exact List.forall_mem_singleton.mpr rfl

theorem isBuiltIn_of_navigation {params : Entries}
    (drafted : navigation names scope path params = .ok (sts, notes)) :
    ∀ st ∈ sts, st.isBuiltIn = true := by
  obtain ⟨⟨state, _⟩, _, -, drafted⟩ := Noted.exists_of_bind_ok drafted
  dsimp only at drafted
  cases destination : Entries.get params "to" with
  | str written =>
    rw [destination] at drafted
    dsimp only at drafted
    split at drafted
    · obtain rfl := Noted.eq_of_pure_ok drafted
      exact List.forall_mem_singleton.mpr rfl
    · obtain rfl := Noted.eq_of_pure_ok drafted
      exact List.forall_mem_singleton.mpr rfl
    · obtain ⟨_, _, -, drafted⟩ := Noted.exists_of_bind_ok drafted
      obtain rfl := Noted.eq_of_pure_ok drafted
      exact List.forall_mem_nil _
  | _ =>
    rw [destination] at drafted
    exact isBuiltIn_of_followed drafted

/-- The statements for an action that is no prop: of a built-in action, or the increment of a state
variable, or an announcement. -/
inductive Dispatches (names : Declared) (nodeId action : String) : List Statement -> Prop
  | builtIn {b : BuiltIn} {sts : List Statement} (named : BuiltIn.ofName? action = some b)
      (all : ∀ st ∈ sts, st.isBuiltIn = true) : Dispatches names nodeId action sts
  | increment {v : String} (other : BuiltIn.ofName? action = none)
      (counts : names.incremented? action = some v) :
      Dispatches names nodeId action [.increment (setter (identifier v))]
  | announce {passed : Tsx.Expr} (other : BuiltIn.ofName? action = none)
      (counts : names.incremented? action = none) :
      Dispatches names nodeId action [.announce action nodeId passed]

theorem dispatches_of_dispatch {nodeId : String} {params : Entries}
    (other : BuiltIn.ofName? action ≠ some .navigate)
    (drafted : dispatch names scope path nodeId action params = .ok (sts, notes)) :
    Dispatches names nodeId action sts := by
  obtain ⟨⟨passed, _⟩, _, -, drafted⟩ := Noted.exists_of_bind_ok drafted
  dsimp only at drafted
  cases named : BuiltIn.ofName? action with
  | some b =>
    cases b with
    | navigate => exact absurd named other
    | executeGraph =>
      rw [if_pos named] at drafted
      obtain rfl := Noted.eq_of_pure_ok drafted
      exact .builtIn named (List.forall_mem_singleton.mpr rfl)
  | none =>
    rw [if_neg (by rw [named]; nofun)] at drafted
    split at drafted
    · rename_i counts
      obtain rfl := Noted.eq_of_pure_ok drafted
      exact .increment named counts
    · rename_i counts
      obtain rfl := Noted.eq_of_pure_ok drafted
      exact .announce named counts

/-- An action is answered by the call of a prop of function type, or else dispatched. -/
theorem statements_cases {n : CanonicalFields} {key : String} {e : EventBinding}
    (acts : e.action.filter (· ≠ "") = some action)
    (drafted : statements names scope n key e = .ok (sts, notes)) :
    if names.isFunctionProp action = true then sts = [.call (identifier action)]
    else Dispatches names n.id action sts := by
  rw [statements, acts] at drafted
  dsimp only at drafted
  split
  · rename_i isFunction
    rw [if_pos isFunction] at drafted
    exact Noted.eq_of_pure_ok drafted
  · rename_i plain
    rw [if_neg plain] at drafted
    split at drafted
    · rename_i named
      exact .builtIn named (isBuiltIn_of_navigation drafted)
    · rename_i other
      exact dispatches_of_dispatch other drafted

end Tsx.Draft

/-- A session as it starts, which is given a handler for each prop of function type, and no other. -/
structure Session.Equipped (s : Session) (names : Declared) : Prop extends Session.Unhandled s where
  declares : Declared.ofDocument s.stage.document = .ok names
  given : ∀ name, (∃ h, Entries.get s.stage.params name = .handler h) ↔
    names.isFunctionProp name = true
  starts : s.stage.state = Session.initialState s.stage.document

/-- The statements for an action have targets of the kind that its run has in a session. -/
structure Session.Ranks (s : Session) (action : String) (params : Value) (sts : List Statement) :
    Prop where
  call : ∀ prop, .call prop ∈ sts ↔ prop = identifier action ∧
    ∃ h, Entries.get s.stage.params action = .handler h ∧ s.branch action params = .ok (.param h)
  builtIn : ∀ st ∈ sts, st.isBuiltIn = true -> ∃ b, s.branch action params = .ok (.builtIn b)
  increment : ∀ name, .increment name ∈ sts ↔
    ∃ v, name = setter (identifier v) ∧ s.branch action params = .ok (.increment (some v))

theorem Tsx.Declared.initialState_of_ofDocument {d : CanonicalDocument} {names : Declared}
    (declares : Declared.ofDocument d = .ok names) :
    names.initialState = Session.initialState d := by
  obtain ⟨reserved, -, declares⟩ := Fault.exists_of_bind_ok declares
  cases declares
  rfl

namespace Session

variable {s : Session} {action : String} {params : Value} {sts : List Statement}

/-- Announcements have no target in a view, so that nothing else may become of their action. -/
theorem ranks_of_announcements (all : ∀ st ∈ sts, st.isAnnouncement = true)
    (noParam : ∀ h, s.branch action params ≠ .ok (.param h))
    (noVariable : ∀ v, s.branch action params ≠ .ok (.increment (some v))) :
    s.Ranks action params sts where
  call prop := iff_of_false (fun mem => nomatch all _ mem) fun ⟨_, h, _, goes⟩ => noParam h goes
  builtIn st mem own := by
    cases st with
    | announce => cases own
    | _ => cases all _ mem
  increment name :=
    iff_of_false (fun mem => nomatch all _ mem) fun ⟨v, _, goes⟩ => noVariable v goes

/-- Where the params of an event have no entries, the way of its action stops, and only announcements
have no target in a view. -/
theorem ranks_iff_of_error {fault : Fault} (stops : params.entries = .error fault) :
    s.Ranks action params sts ↔ ∀ st ∈ sts, st.isAnnouncement = true := by
  have ends (route : ActionRoute) : s.branch action params ≠ .ok route := by
    rw [branch_of_error stops]
    exact nofun
  refine ⟨fun ranks st mem => ?_, fun all =>
    ranks_of_announcements all (fun _ => ends _) fun _ => ends _⟩
  cases st with
  | announce => rfl
  | call prop =>
    obtain ⟨-, h, -, goes⟩ := (ranks.call prop).mp mem
    exact absurd goes (ends _)
  | increment name =>
    obtain ⟨v, -, goes⟩ := (ranks.increment name).mp mem
    exact absurd goes (ends _)
  | _ =>
    obtain ⟨b, goes⟩ := ranks.builtIn _ mem rfl
    exact absurd goes (ends _)

end Session

namespace Session.Equipped

variable {s : Session} {names : Declared} {action : String} {params : Value}

/-- An action that is no prop and not built in is the increment, or unknown. -/
theorem route_eq (h : s.Equipped names) (plain : names.isFunctionProp action ≠ true)
    (other : BuiltIn.ofName? action = none) :
    s.route action =
      if action = Increment.action then .increment (names.incremented? action) else .unknown := by
  have noHandler (name : String) : Entries.get s.stage.params action ≠ .handler name :=
    fun given => plain ((h.given action).mp ⟨name, given⟩)
  rw [h.route_of_plain other noHandler, h.starts,
    ← Tsx.Declared.initialState_of_ofDocument h.declares]
  split
  · rename_i same
    rw [Declared.incremented?, if_pos same]
  · rfl

/-- The statements of a dispatched action have the targets of its route. -/
theorem ranks_of_dispatches (h : s.Equipped names) (plain : names.isFunctionProp action ≠ true)
    {es : List (Key × Value)} (entries : params.entries = .ok es) {nodeId : String}
    {sts : List Statement} (dispatched : Tsx.Draft.Dispatches names nodeId action sts) :
    s.Ranks action params sts := by
  have goes : s.branch action params = .ok (s.route action) := branch_of_entries entries
  cases dispatched with
  | @builtIn b _ named all =>
    rw [h.route_of_builtIn named] at goes
    refine ⟨fun prop => iff_of_false (fun mem => nomatch all _ mem) ?_, fun _ _ _ => ⟨b, goes⟩,
      fun name => iff_of_false (fun mem => nomatch all _ mem) ?_⟩
    · rw [goes]
      exact fun ⟨_, _, _, other⟩ => nomatch other
    · rw [goes]
      exact fun ⟨_, _, other⟩ => nomatch other
  | @increment v other counts =>
    have same : action = Increment.action := by
      rw [Declared.incremented?] at counts
      split at counts
      · assumption
      · cases counts
    rw [h.route_eq plain other, if_pos same, counts] at goes
    refine ⟨fun prop => iff_of_false (by simp) ?_, fun st mem own => ?_, fun name => ?_⟩
    · rw [goes]
      exact fun ⟨_, _, _, other⟩ => nomatch other
    · rw [List.mem_singleton.mp mem] at own
      cases own
    · rw [goes]
      simp
  | announce other counts =>
    rw [h.route_eq plain other, counts] at goes
    refine ranks_of_announcements (List.forall_mem_singleton.mpr rfl) (fun name => ?_) fun v => ?_
    · rw [goes]
      split <;> exact nofun
    · rw [goes]
      split <;> exact nofun

/-- The call of a prop of function type has its target in a view, unless the prop has the name of a
built-in action. -/
theorem ranks_call_iff (h : s.Equipped names) (isFunction : names.isFunctionProp action = true)
    {es : List (Key × Value)} (entries : params.entries = .ok es) :
    s.Ranks action params [.call (identifier action)] ↔ BuiltIn.ofName? action = none := by
  obtain ⟨name, given⟩ := (h.given action).mpr isFunction
  have goes : s.branch action params = .ok (s.route action) := branch_of_entries entries
  cases named : BuiltIn.ofName? action with
  | some b =>
    rw [h.route_of_builtIn named] at goes
    refine iff_of_false (fun ranks => ?_) nofun
    obtain ⟨-, _, -, other⟩ := (ranks.call _).mp List.mem_cons_self
    exact nomatch goes.symm.trans other
  | none =>
    rw [h.route_of_handler named given] at goes
    refine iff_of_true ⟨fun prop => ?_, fun st mem own => ?_, fun v => iff_of_false (by simp) ?_⟩ rfl
    · rw [goes]
      simp [given]
    · rw [List.mem_singleton.mp mem] at own
      cases own
    · rw [goes]
      exact fun ⟨_, _, other⟩ => nomatch other

/-- A session is equipped by params that hold a handler under the names of the props of function type
alone, as long as no default is a handler. -/
theorem ofNormalized {source : Normalized} {given : Entries}
    (declares : Declared.ofDocument source.document = .ok names)
    (distinct : (Entries.keys given).Nodup)
    (handlers : ∀ name, (∃ h, Entries.get given name = .handler h) ↔
      names.isFunctionProp name = true)
    (plain : ∀ e ∈ defaultParams source.document, ∀ h, e.2 ≠ .handler h) :
    (Session.ofNormalized source given).Equipped names where
  overrides := rfl
  actions := rfl
  declares := declares
  starts := rfl
  given name := by
    rw [← handlers name]
    show (∃ h, Entries.get (Entries.merge (defaultParams source.document) given) name = _) ↔ _
    rw [Entries.get, Entries.get, Entries.get?_merge distinct]
    cases Entries.get? given name with
    | some v => rfl
    | none =>
      refine iff_of_false ?_ nofun
      rintro ⟨h, own⟩
      cases default : Entries.get? (defaultParams source.document) name with
      | none =>
        rw [default] at own
        cases own
      | some v =>
        rw [default] at own
        exact plain _ (Entries.mem_of_get? default) h own

/-- An event of a session as it starts: the statements for its action have targets of the kind that
its run has, whatever its params resolve to, unless a prop of function type has the name of a built-in
action, or the params resolve to what has no entries. Then they have none of them, and are no more
than announcements if they agree. -/
theorem ranks_iff (h : s.Equipped names) {n : CanonicalFields} {scope : Scope} {key : String}
    {e : EventBinding} {sts : List Statement} {notes : List Note}
    (acts : e.action.filter (· ≠ "") = some action)
    (drafted : Tsx.Draft.statements names scope n key e = .ok (sts, notes)) (params : Value) :
    s.Ranks action params sts ↔
      ¬ (names.isFunctionProp action = true ∧ (BuiltIn.ofName? action).isSome = true) ∧
        ((∃ es, params.entries = .ok es) ∨ ∀ st ∈ sts, st.isAnnouncement = true) := by
  have kinds := Tsx.Draft.statements_cases acts drafted
  cases entries : params.entries with
  | error fault =>
    rw [ranks_iff_of_error entries]
    refine ⟨fun all => ⟨fun both => ?_, .inr all⟩, fun agree => ?_⟩
    · rw [if_pos both.1] at kinds
      exact nomatch all (.call _) (kinds ▸ List.mem_cons_self)
    · exact agree.2.resolve_left nofun
  | ok es =>
    rw [and_iff_left (.inl ⟨es, rfl⟩)]
    split at kinds
    · rename_i isFunction
      rw [kinds, h.ranks_call_iff isFunction entries, and_iff_right isFunction]
      cases BuiltIn.ofName? action <;> simp
    · rename_i plain
      exact iff_of_true (h.ranks_of_dispatches plain entries kinds) fun both => plain both.1

end Session.Equipped

namespace Session

/-- A document whose only prop is of function type. -/
def handlerDocument (prop : String) : CanonicalDocument where
  version := "1.3"
  logic := some { props := [(prop, { type := "function" })] }
  root := .node { id := "root", type := "button" } []

/-- What generated code declares for it. -/
def handlerNames (prop : String) : Declared :=
  { props := [(prop, { type := "function" })], reserved := [identifier prop] }

/-- The session on it that is given a handler. -/
def ofHandler (prop : String) : Session :=
  ofNormalized ⟨handlerDocument prop, []⟩ [(prop, .handler prop)]

theorem equipped_ofHandler (prop : String) : (ofHandler prop).Equipped (handlerNames prop) := by
  refine Equipped.ofNormalized rfl (List.nodup_singleton prop) (fun name => ?_)
    fun e mem => (List.not_mem_nil mem).elim
  by_cases same : prop = name
  · subst same
    refine iff_of_true ⟨prop, ?_⟩ ?_
    · rw [Entries.get, Entries.get?, if_pos rfl]
      rfl
    · rw [Declared.isFunctionProp, handlerNames, Entries.get?, if_pos rfl]
      decide
  · refine iff_of_false ?_ ?_
    · rw [Entries.get, Entries.get?, if_neg same]
      exact nofun
    · rw [Declared.isFunctionProp, handlerNames, Entries.get?, if_neg same]
      exact nofun

/-- The statements that answer an event of the root of the document. -/
def handlerStatements (prop : String) (params : Entries) : Draft (List Statement) :=
  Tsx.Draft.statements (handlerNames prop) {} { id := "root", type := "button" } "click"
    { trigger := "click", action := some prop, params }

/-- A prop of function type with a name of its own is called in both. -/
theorem ofHandler_ranks :
    ∃ sts notes, handlerStatements "onSave" [] = .ok (sts, notes) ∧
      (ofHandler "onSave").Ranks "onSave" (.object []) sts := by
  have drafted : handlerStatements "onSave" [] = .ok ([.call "onSave"], []) := rfl
  exact ⟨_, _, drafted,
    ((equipped_ofHandler "onSave").ranks_iff rfl drafted _).mpr ⟨by decide, .inl ⟨_, rfl⟩⟩⟩

/-- A prop of function type with the name of a built-in action is called by generated code alone. So
is one whose event has params that resolve to null. -/
theorem ofHandler_not_ranks :
    (∃ sts notes, handlerStatements "navigate" [] = .ok (sts, notes) ∧
      ¬ (ofHandler "navigate").Ranks "navigate" (.object []) sts) ∧
    ∃ params sts notes, handlerStatements "onSave" params = .ok (sts, notes) ∧
      (Value.object params).resolve {} Value.defaultDepth = .ok .null ∧
      ¬ (ofHandler "onSave").Ranks "onSave" .null sts := by
  have navigates : handlerStatements "navigate" [] = .ok ([.call "navigate"], []) := rfl
  have saves : handlerStatements "onSave" [("$param", .str "missing")] =
      .ok ([.call "onSave"], []) := rfl
  refine ⟨⟨_, _, navigates, fun ranks => ?_⟩, _, _, _, saves, rfl, fun ranks => ?_⟩
  · obtain ⟨-, h, -, goes⟩ := (ranks.call "navigate").mp List.mem_cons_self
    rw [branch_of_entries rfl, (equipped_ofHandler "navigate").route_of_builtIn rfl] at goes
    cases goes
  · exact nomatch (ranks_iff_of_error rfl).mp ranks _ List.mem_cons_self

end Session

end ViewDoc
