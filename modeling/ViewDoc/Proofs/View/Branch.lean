import ViewDoc.View.Dispatch
/-!
The ways of actions in a session without handlers. An action goes to a built-in action, to a handler
that came as a param, to the increment, or nowhere; and it stops before it goes anywhere if its params
have no entries. The main statement tells what a run does on each of these ways. Whatever becomes of
an action, its run adds it to the actions.
-/

set_option autoImplicit false

namespace ViewDoc

namespace Session

/-- No handler is registered, neither before the built-in actions nor for the others. -/
structure Unhandled (s : Session) : Prop where
  overrides : s.handlers.overrides = []
  actions : s.handlers.actions = []

/-- The way that an action with params goes; without entries in the params it stops. -/
def branch (s : Session) (action : String) (params : Value) : Except Fault ActionRoute :=
  params.entries.map fun _ => s.route action

variable {s : Session} {action : String} {params : Value}

theorem branch_of_entries {es : List (Key × Value)} (entries : params.entries = .ok es) :
    s.branch action params = .ok (s.route action) := by
  rw [branch, entries]
  rfl

theorem branch_of_error {fault : Fault} (stops : params.entries = .error fault) :
    s.branch action params = .error fault := by
  rw [branch, stops]
  rfl

theorem route_of_branch {route : ActionRoute} (goes : s.branch action params = .ok route) :
    s.route action = route := by
  cases entries : params.entries with
  | error fault =>
    rw [branch_of_error entries] at goes
    cases goes
  | ok es =>
    rw [branch_of_entries entries] at goes
    exact Except.ok.inj goes

/-- The increment goes to the variable that it finds in the state. -/
theorem eq_target?_of_branch {target : Option String}
    (goes : s.branch action params = .ok (.increment target)) :
    target = Increment.target? s.stage.state := by
  have way := route_of_branch goes
  unfold route at way
  repeat' split at way
  all_goals cases way
  rfl

namespace Unhandled

variable (h : s.Unhandled)

include h

theorem route_of_builtIn {b : BuiltIn} (named : BuiltIn.ofName? action = some b) :
    s.route action = .builtIn b := by
  rw [route, h.overrides, named]
  rfl

theorem route_of_handler {name : String} (other : BuiltIn.ofName? action = none)
    (given : Entries.get s.stage.params action = .handler name) : s.route action = .param name := by
  rw [route, h.overrides, other, h.actions, given]
  rfl

theorem route_of_plain (other : BuiltIn.ofName? action = none)
    (plain : ∀ name, Entries.get s.stage.params action ≠ .handler name) :
    s.route action =
      if action = Increment.action then .increment (Increment.target? s.stage.state)
      else .unknown := by
  rw [route, h.overrides, other, h.actions]
  dsimp only [Entries.get?_nil]
  split
  · rename_i name given
    exact absurd given (plain name)
  · rfl

/-- An action goes to no registered handler. -/
theorem route_ne (handler : HostHandler) :
    s.route action ≠ .override handler ∧ s.route action ≠ .handler handler := by
  cases named : BuiltIn.ofName? action with
  | some b =>
    rw [h.route_of_builtIn named]
    exact ⟨nofun, nofun⟩
  | none =>
    by_cases given : ∃ name, Entries.get s.stage.params action = .handler name
    · obtain ⟨name, given⟩ := given
      rw [h.route_of_handler named given]
      exact ⟨nofun, nofun⟩
    · rw [h.route_of_plain named fun name same => given ⟨name, same⟩]
      split <;> exact ⟨nofun, nofun⟩

end Unhandled

end Session

/-- A turn that takes up an action. -/
def Turn.taking (t : Turn) (action : String) : Turn :=
  { t with actions := t.actions ++ [action] }

/-- What a run does on the way of its action. -/
theorem Turn.run_eq {t : Turn} (h : t.session.Unhandled) (trigger nodeId : String) (payload : Value)
    (key action : String) (params : Value) :
    t.run trigger nodeId payload key action params =
      match t.session.branch action params with
      | .error fault => (t.taking action).fail (.fault fault)
      | .ok (.builtIn b) => (t.taking action).request (b.effect? params nodeId trigger)
      | .ok (.param name) =>
        ((t.taking action).tell (.called name payload)).react (.called name payload)
      | .ok (.increment target) => (t.taking action).increment target
      | .ok _ => t.taking action := by
  rw [Turn.run]
  cases entries : params.entries with
  | error fault =>
    rw [Session.branch_of_error entries]
    rfl
  | ok es =>
    rw [Session.branch_of_entries entries]
    have unhandled (f : HostHandler) :
        t.session.route action ≠ .override f ∧ t.session.route action ≠ .handler f := h.route_ne f
    cases way : t.session.route action with
    | override handler => exact absurd way (unhandled handler).1
    | handler handler => exact absurd way (unhandled handler).2
    | _ => rfl

namespace Turn

theorem actions_foldl_setState (updates : List Entries) (t : Turn) :
    (updates.foldl setState t).actions = t.actions := by
  induction updates generalizing t with
  | nil => rfl
  | cons u rest ih => exact ih (t.setState u)

theorem actions_react (n : Notice) (t : Turn) : (t.react n).actions = t.actions :=
  actions_foldl_setState _ t

theorem actions_request (effect : Except Failure (Option Effect)) (t : Turn) :
    (t.request effect).actions = t.actions := by
  rcases effect with f | _ | e
  · rfl
  · rfl
  · exact actions_react _ _

/-- A run adds its action to the actions, whatever becomes of it. -/
theorem actions_run (t : Turn) (trigger nodeId : String) (payload : Value) (key action : String)
    (params : Value) :
    (t.run trigger nodeId payload key action params).actions = t.actions ++ [action] := by
  rw [run]
  dsimp only
  cases params.entries with
  | error f => rfl
  | ok entries =>
    dsimp only
    cases t.session.route action with
    | override h => exact actions_react _ _
    | builtIn b => exact actions_request _ _
    | handler h => exact actions_react _ _
    | param name => exact actions_react _ _
    | increment target => cases target <;> rfl
    | unknown => rfl

end Turn

end ViewDoc
