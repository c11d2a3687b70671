import ViewDoc.Proofs.Tsx.Ranking
import ViewDoc.Proofs.View.Coherence
import ViewDoc.Proofs.View.Counted
/-!
Counting in a live session whose host leaves actions and state to it. The main statement is that all
increments of a run go to the one variable that generated code counts in, that this variable holds
its initial value and one for each of them, and that nothing else changes, whatever is dispatched.
-/

set_option autoImplicit false

namespace ViewDoc

open Tsx (Declared Draft Note Scope Statement identifier setter)

/-- Whether an event is no act of the host: a dispatch, a rendering, or what an icon provider does. -/
def SessionEvent.isOwn : SessionEvent -> Bool
  | .setState _ | .host _ => false
  | _ => true

namespace Session

/-- The host registers no handler, gives none as a param, and leaves the state as it is. -/
structure Quiet (s : Session) : Prop extends Unhandled s where
  reacts : ∀ n, s.handlers.reacts n = []
  params : ∀ name h, Entries.get s.stage.params name ≠ .handler h

/-- Two sessions have the same handlers, params and state. -/
structure ActsAs (s t : Session) : Prop where
  handlers : t.handlers = s.handlers
  params : t.stage.params = s.stage.params
  state : t.stage.state = s.stage.state

/-- All that was done to the state since an initial one is a number of increments. -/
structure Counts (initial : Entries) (n : Nat) (s : Session) : Prop extends Quiet s where
  counted : Increment.Counted initial n s.stage.state

/-- The increments that were found to go to these variables all went to the one of an initial state,
and were counted on from a number. -/
structure CountsOn (initial : Entries) (n : Nat) (found : List (Option String)) (s : Session) :
    Prop where
  counts : Counts initial (n + found.length) s
  targets : ∀ target ∈ found, target = Increment.target? initial

variable {initial : Entries} {n : Nat} {s t : Session} {found more : List (Option String)}

theorem Quiet.of_actsAs (h : Quiet s) (same : ActsAs s t) : Quiet t := by
  refine ⟨⟨?_, ?_⟩, ?_, ?_⟩
  · rw [same.handlers, h.overrides]
  · rw [same.handlers, h.actions]
  · rw [same.handlers]
    exact h.reacts
  · rw [same.params]
    exact h.params

theorem Quiet.setState (h : Quiet s) (updates : Entries) : Quiet (s.setState updates).1 := by
  rcases setState_cases s updates with same | ⟨state, changed⟩
  · rw [same]
    exact h
  · rw [changed]
    exact ⟨⟨h.overrides, h.actions⟩, h.reacts, h.params⟩

theorem Counts.of_actsAs (h : Counts initial n s) (same : ActsAs s t) : Counts initial n t :=
  ⟨h.toQuiet.of_actsAs same, same.state ▸ h.counted⟩

theorem actsAs_of_render {r : Rendering} (done : s.render = .ok (t, r)) : ActsAs s t := by
  obtain ⟨-, rfl⟩ := view_of_render done
  exact ⟨rfl, rfl, rfl⟩

theorem actsAs_of_chainOf {target : EventTarget} {chain : List ViewFields}
    (done : s.chainOf target = .ok (t, chain)) : ActsAs s t := by
  rcases chainOf_cases done with rfl | ⟨r, drawn⟩
  · exact ⟨rfl, rfl, rfl⟩
  · unfold Session.current at drawn
    split at drawn
    · split at drawn
      · exact actsAs_of_render drawn
      · cases drawn
        exact ⟨rfl, rfl, rfl⟩
    · exact actsAs_of_render drawn

theorem Quiet.actsAs_select (h : Quiet s) (id : String) : ActsAs s (s.select id).1 := by
  unfold Session.select inform
  rw [h.reacts]
  dsimp only [setStates]
  split <;> exact ⟨rfl, rfl, rfl⟩

/-- The same after a click, which selects unless it comes to what is selected. -/
theorem Quiet.actsAs_clicked (h : Quiet s) (id : String) :
    ActsAs s (if s.stage.selected == some id then (s, []) else s.select id).1 := by
  split
  · exact ⟨rfl, rfl, rfl⟩
  · exact h.actsAs_select id

theorem Counts.on_nil (h : Counts initial n s) : CountsOn initial n [] s :=
  ⟨h, fun _ mem => (List.not_mem_nil mem).elim⟩

theorem CountsOn.append (h : CountsOn initial n found s)
    (next : CountsOn initial (n + found.length) more t) : CountsOn initial n (found ++ more) t := by
  refine ⟨?_, List.forall_mem_append.mpr ⟨h.targets, next.targets⟩⟩
  rw [List.length_append, ← Nat.add_assoc]
  exact next.counts

theorem setState_state (s : Session) (updates : Entries) :
    (s.setState updates).1.stage.state =
      Entries.merge s.stage.state (changes s.stage.state updates) := by
  unfold setState
  dsimp only
  split
  · rename_i nothing
    rw [List.isEmpty_iff.mp nothing]
    rfl
  · rfl

/-- An increment of the variable that is found is one more. -/
theorem Counts.increment (h : Counts initial n s) {key : String}
    (counts : Increment.target? initial = some key) :
    Counts initial (n + 1)
      (s.setState [(key, Increment.next (Entries.get s.stage.state key))]).1 := by
  have one := Increment.counted_succ h.counted counts
  rw [← setState_state] at one
  exact ⟨h.toQuiet.setState _, one⟩

/-- The variable that an action counts in, if it goes to the increment. -/
def counted? (s : Session) (action : String) (params : Value) : Option (Option String) :=
  match s.branch action params with
  | .ok (.increment target) => some target
  | _ => none

end Session

namespace Turn

open Session (Counts CountsOn)

variable {initial : Entries} {n : Nat} {t : Turn}

theorem told_of_quiet (h : t.session.Quiet) (notice : Notice) :
    (t.tell notice).react notice = t.tell notice := by
  have quiet : (t.tell notice).session.handlers.reacts notice = [] := h.reacts notice
  rw [react, quiet]
  rfl

theorem countsOn_told (h : Counts initial n t.session) (notice : Notice) :
    CountsOn initial n [] ((t.tell notice).react notice).session := by
  rw [told_of_quiet h.toQuiet]
  exact h.on_nil

theorem countsOn_request (h : Counts initial n t.session)
    (effect : Except Failure (Option Effect)) :
    CountsOn initial n [] (t.request effect).session := by
  rcases effect with f | _ | e
  · exact h.on_nil
  · exact h.on_nil
  · exact countsOn_told (t := { t with effects := t.effects ++ [e] }) h _

theorem countsOn_increment (h : Counts initial n t.session) :
    CountsOn initial n [Increment.target? initial]
      (t.increment (Increment.target? initial)).session := by
  refine ⟨?_, by simp⟩
  cases counts : Increment.target? initial with
  | none =>
    have counted := h.counted
    rw [Increment.Counted, counts] at counted
    refine ⟨h.toQuiet, ?_⟩
    rw [Increment.Counted, counts]
    exact counted
  | some v => exact h.increment counts

/-- The variable that an event counts in, if its action is run and goes to the increment. -/
def counted? (t : Turn) (e : String × ViewEvent) : Option (Option String) :=
  if t.failure.isSome then none
  else (e.2.action.filter (· ≠ "")).bind fun action => t.session.counted? action e.2.params

/-- The variables that events count in when they are run in order. -/
def countedAll (trigger nodeId : String) (payload : Value) :
    Turn -> List (String × ViewEvent) -> List (Option String)
  | _, [] => []
  | t, e :: rest =>
    (t.counted? e).toList ++
      countedAll trigger nodeId payload (runEvent trigger nodeId payload t e) rest

/-- The run of an action leaves the state as it is, or is one more increment. -/
theorem countsOn_run (h : Counts initial n t.session) (integral : Increment.Integral initial)
    (trigger nodeId : String) (payload : Value) (key action : String) (params : Value) :
    CountsOn initial n (t.session.counted? action params).toList
      (t.run trigger nodeId payload key action params).session := by
  rw [run_eq h.toUnhandled, Session.counted?]
  cases way : t.session.branch action params with
  | error fault => exact h.on_nil
  | ok route =>
    cases route with
    | builtIn b =>
      show CountsOn initial n [] _
      exact countsOn_request (t := t.taking action) h _
    | param name =>
      show CountsOn initial n [] _
      exact countsOn_told (t := t.taking action) h _
    | increment target =>
      obtain rfl := Session.eq_target?_of_branch way
      rw [integral.target?_of_counted h.counted]
      exact countsOn_increment (t := t.taking action) h
    | _ => exact h.on_nil

theorem countsOn_runEvent (h : Counts initial n t.session) (integral : Increment.Integral initial)
    (trigger nodeId : String) (payload : Value) (e : String × ViewEvent) :
    CountsOn initial n (t.counted? e).toList (runEvent trigger nodeId payload t e).session := by
  rw [runEvent, counted?]
  split
  · exact h.on_nil
  · cases e.2.action.filter (· ≠ "") with
    | none => exact h.on_nil
    | some action => exact countsOn_run h integral _ _ _ _ _ _

theorem countsOn_runAll (h : Counts initial n t.session) (integral : Increment.Integral initial)
    (trigger nodeId : String) (payload : Value) (events : List (String × ViewEvent)) :
    CountsOn initial n (countedAll trigger nodeId payload t events)
      (t.runAll trigger nodeId payload events).session := by
  unfold runAll
  -- The count so far moves with the turn: the variable is found again in every state on the way.
  induction events generalizing t n with
  | nil => exact h.on_nil
  | cons e rest ih =>
    have first := countsOn_runEvent h integral trigger nodeId payload e
    exact first.append (ih first.counts)

end Turn

namespace Session

variable {initial : Entries} {n : Nat} {s t : Session}

/-- The variables that an event counts in when it is answered along a chain of elements. -/
def countedBy (s : Session) (trigger : String) (payload : Value) (chain : List ViewFields) :
    List (Option String) :=
  match chain.find? fun f => !(f.matching trigger).isEmpty with
  | none => []
  | some f =>
    Turn.countedAll trigger (f.nodeId.getD "") payload { session := s } (f.matching trigger)

/-- The variables that an event counts in when it is dispatched along a chain of elements: none, where
it does no more than select. -/
def countedAlong (s : Session) (trigger : String) (payload : Value) (chain : List ViewFields) :
    List (Option String) :=
  match chain with
  | [] => []
  | f :: _ =>
    if !isClick trigger then s.countedBy trigger payload chain
    else
      let id := f.nodeId.getD ""
      let wasSelected := s.stage.selected == some id
      if s.needsSelection && !wasSelected then []
      else (if wasSelected then (s, []) else s.select id).1.countedBy trigger payload chain

/-- The variables that an event of a session counts in. -/
def countedIn (s : Session) : SessionEvent -> List (Option String)
  | .dispatch trigger target payload =>
    match s.chainOf target with
    | .error _ => []
    | .ok (t, chain) => t.countedAlong trigger payload chain
  | _ => []

/-- The variables that a run of events counts in. -/
def countedInAll : Session -> List SessionEvent -> List (Option String)
  | _, [] => []
  | s, e :: rest => s.countedIn e ++ (s.perform e).countedInAll rest

namespace Counts

variable (h : Counts initial n s) (integral : Increment.Integral initial)

include h integral

theorem finish (trigger : String) (payload : Value) (chain : List ViewFields)
    (told : List Notice) (report : DispatchReport) :
    CountsOn initial n (s.countedBy trigger payload chain)
      (s.finish trigger payload chain told report).session := by
  show CountsOn initial n _ (s.answer trigger payload chain).2.session
  rw [Session.answer, countedBy]
  cases chain.find? fun f => !(f.matching trigger).isEmpty with
  | none => exact h.on_nil
  | some f => exact Turn.countsOn_runAll (t := { session := s }) h integral _ _ _ _

theorem dispatchAlong (trigger : String) (payload : Value) (chain : List ViewFields) :
    CountsOn initial n (s.countedAlong trigger payload chain)
      (s.dispatchAlong trigger payload chain).session := by
  cases chain with
  | nil => exact h.on_nil
  | cons f rest =>
    have clicked := h.of_actsAs (h.actsAs_clicked (f.nodeId.getD ""))
    unfold Session.dispatchAlong countedAlong
    dsimp only
    split
    · exact h.finish integral _ _ _ _ _
    · split
      · exact clicked.on_nil
      · exact clicked.finish integral _ _ _ _ _

theorem perform {e : SessionEvent} (own : e.isOwn = true) :
    CountsOn initial n (s.countedIn e) (s.perform e) := by
  cases e with
  | render =>
    rw [Session.perform]
    cases done : s.render with
    | error f => exact h.on_nil
    | ok found =>
      exact (h.of_actsAs (actsAs_of_render done)).on_nil
  | setState updates => cases own
  | host handlers => cases own
  | dispatch trigger target payload =>
    rw [Session.perform, Session.dispatch, countedIn]
    cases looked : s.chainOf target with
    | error f => exact h.on_nil
    | ok found => exact (h.of_actsAs (actsAs_of_chainOf looked)).dispatchAlong integral _ _ _
  | icons e =>
    rw [Session.perform]
    rcases observeIcons_cases s (s.stage.icons.perform e).1 (s.stage.icons.perform e).2 with
      changed | ⟨changed, -⟩
    · rw [changed]
      exact on_nil (h.of_actsAs ⟨rfl, rfl, rfl⟩)
    · rw [changed]
      exact on_nil (h.of_actsAs ⟨rfl, rfl, rfl⟩)

theorem performAll {events : List SessionEvent} (own : ∀ e ∈ events, e.isOwn = true) :
    CountsOn initial n (s.countedInAll events) (events.foldl Session.perform s) := by
  induction events generalizing s n with
  | nil => exact h.on_nil
  | cons e rest ih =>
    obtain ⟨first, later⟩ := List.forall_mem_cons.mp own
    have one := h.perform integral first
    exact one.append (ih one.counts later)

end Counts

/-- Increments are counted where the way of an action ends in one. -/
theorem Quiet.length_counted? (h : Quiet s) {action : String} {params : Value} {route : ActionRoute}
    (goes : s.branch action params = .ok route) :
    (s.counted? action params).toList.length = [action].count Increment.action := by
  have way := route_of_branch goes
  rw [counted?, goes]
  cases named : BuiltIn.ofName? action with
  | some b =>
    have other : action ≠ Increment.action := by
      rintro rfl
      cases named
    rw [← way, h.route_of_builtIn named]
    simp [other]
  | none =>
    rw [← way, h.route_of_plain named fun name => h.params action name]
    by_cases same : action = Increment.action <;> simp [same]

end Session

namespace Turn

variable {t : Turn}

/-- A run that does not fail adds the increments that it counts to the actions. -/
theorem count_run (h : t.session.Quiet) {trigger nodeId : String} {payload : Value}
    {key action : String} {params : Value}
    (ended : (t.run trigger nodeId payload key action params).failure = none) :
    (t.run trigger nodeId payload key action params).actions.count Increment.action =
      t.actions.count Increment.action + (t.session.counted? action params).toList.length := by
  rw [run_eq h.toUnhandled] at ended
  cases goes : t.session.branch action params with
  | error fault =>
    rw [goes] at ended
    cases ended
  | ok route => rw [actions_run, List.count_append, h.length_counted? goes]

theorem count_runEvent (h : t.session.Quiet) {trigger nodeId : String} {payload : Value}
    {e : String × ViewEvent} (ended : (runEvent trigger nodeId payload t e).failure = none) :
    t.failure = none ∧
      (runEvent trigger nodeId payload t e).actions.count Increment.action =
        t.actions.count Increment.action + (t.counted? e).toList.length := by
  cases failed : t.failure with
  | some f =>
    rw [runEvent, failed] at ended
    exact absurd (failed.symm.trans ended) nofun
  | none =>
    refine ⟨rfl, ?_⟩
    rw [runEvent, failed] at ended ⊢
    rw [counted?, failed]
    simp only [Option.isSome_none, Bool.false_eq_true, if_false] at ended ⊢
    cases acts : e.2.action.filter (· ≠ "") with
    | none => rfl
    | some action =>
      rw [acts] at ended
      exact count_run h ended

theorem count_runAll (h : t.session.Quiet) {trigger nodeId : String} {payload : Value}
    {events : List (String × ViewEvent)}
    (ended : (t.runAll trigger nodeId payload events).failure = none) :
    t.failure = none ∧
      (t.runAll trigger nodeId payload events).actions.count Increment.action =
        t.actions.count Increment.action +
          (countedAll trigger nodeId payload t events).length := by
  unfold runAll at *
  induction events generalizing t with
  | nil => exact ⟨ended, rfl⟩
  | cons e rest ih =>
    have quiet : (runEvent trigger nodeId payload t e).session.Quiet :=
      runEvent_keeps (P := Session.Quiet) (fun _ updates h => h.setState updates) _ _ _ _ h
    obtain ⟨fine, later⟩ := ih quiet ended
    obtain ⟨start, first⟩ := count_runEvent h fine
    refine ⟨start, ?_⟩
    rw [List.foldl_cons, later, first, countedAll, List.length_append, Nat.add_assoc]

end Turn

namespace Session

variable {s t : Session}

theorem Quiet.count_finish (h : Quiet s) {trigger : String} {payload : Value}
    {chain : List ViewFields} {told : List Notice} {report ended : DispatchReport}
    (done : (s.finish trigger payload chain told report).outcome = .ok ended) :
    ended.actions.count Increment.action = (s.countedBy trigger payload chain).length := by
  rw [finish, answer] at done
  rw [countedBy]
  cases found : chain.find? fun f => !(f.matching trigger).isEmpty with
  | none =>
    rw [found] at done
    cases done
    rfl
  | some f =>
    rw [found] at done
    dsimp only at done
    split at done
    · cases done
    · rename_i fine
      cases done
      have counted := (Turn.count_runAll (t := { session := s }) h fine).2
      rw [counted]
      exact Nat.zero_add _

/-- The increments that a dispatch counts are those that it reports. -/
theorem Quiet.count_dispatch (h : Quiet s) {trigger : String} {target : EventTarget}
    {payload : Value} {report : DispatchReport}
    (done : (s.dispatch trigger target payload).outcome = .ok report) :
    report.actions.count Increment.action =
      (s.countedIn (.dispatch trigger target payload)).length := by
  rw [dispatch] at done
  rw [countedIn]
  cases looked : s.chainOf target with
  | error f =>
    rw [looked] at done
    cases done
  | ok found =>
    obtain ⟨t, chain⟩ := found
    rw [looked] at done
    have quiet : Quiet t := h.of_actsAs (actsAs_of_chainOf looked)
    cases chain with
    | nil =>
      cases done
      rfl
    | cons f rest =>
      have clicked := quiet.of_actsAs (quiet.actsAs_clicked (f.nodeId.getD ""))
      dsimp only [dispatchAlong] at done
      dsimp only [countedAlong]
      split at done
      · rename_i other
        rw [if_pos other]
        exact quiet.count_finish done
      · rename_i click
        rw [if_neg click]
        split at done
        · rename_i only
          rw [if_pos only]
          cases done
          rfl
        · rename_i fires
          rw [if_neg fires]
          exact clicked.count_finish done

/-- Generated code answers the increment by the setter of the variable that the declared state gives,
unless it calls a prop of that name. -/
theorem mem_statements_increment_iff {d : CanonicalDocument} {names : Declared}
    (declares : Declared.ofDocument d = .ok names)
    (plain : names.isFunctionProp Increment.action = false) {scope : Scope} {n : CanonicalFields}
    {key : String} {e : EventBinding} (acts : e.action = some Increment.action)
    {sts : List Statement} {notes : List Note}
    (drafted : Tsx.Draft.statements names scope n key e = .ok (sts, notes)) (name : String) :
    .increment name ∈ sts ↔
      ∃ v, Increment.target? (initialState d) = some v ∧ name = setter (identifier v) := by
  have counts : names.incremented? Increment.action = Increment.target? (initialState d) := by
    rw [Declared.incremented?, if_pos rfl, Declared.initialState_of_ofDocument declares]
  have named : e.action.filter (· ≠ "") = some Increment.action := by
    rw [acts]
    rfl
  have kinds := Tsx.Draft.statements_cases named drafted
  rw [plain, if_neg Bool.false_ne_true] at kinds
  rw [← counts]
  cases kinds with
  | builtIn isBuiltIn => cases isBuiltIn
  | increment other found => simp [found]
  | announce other found => simp [found]

/-- A session on a button that counts twice for each click, and asks for a graph in between. -/
def ofTally : Session where
  stage := stageOf
    { version := "1.3",
      logic := some { state := [("title", { initial := .str "Tally" }),
        ("open", { initial := .bool true }), ("total", { initial := .int 2 })] },
      root := .node
        { id := "root", type := "button",
          events := [("first", { trigger := "click", action := some "increment" }),
            ("graph", { trigger := "click", action := some "executeGraph" }),
            ("second", { trigger := "click", action := some "increment" })] } [] } []

/-- Two clicks on it, with a rendering in between. -/
def twoClicks : List SessionEvent :=
  [.dispatch "click" (.node "root") .null, .render, .dispatch "click" (.node "root") .null]

end Session

end ViewDoc
