import ViewDoc.Proofs.Icon.Run
import ViewDoc.Proofs.View.Alike
import ViewDoc.View.Dispatch
/-!
The view that a session keeps. Apart from the selection, built-in actions, handlers and the
reactions of the host change a session by updates of its state only, and what every such update
keeps, a whole turn keeps. State, selection and icon providers each make a session dirty under
conditions of their own. A session that is not dirty keeps the view that rendering would give, as
long as no loader is registered in place of a provider.
-/

set_option autoImplicit false

namespace ViewDoc

section

variable {P : Session -> Prop} (step : ∀ s updates, P s -> P (s.setState updates).1)

include step

theorem Session.setStates_keeps (updates : List Entries) {s : Session} (h : P s) :
    P (s.setStates updates).1 := by
  induction updates generalizing s with
  | nil => exact h
  | cons u rest ih => exact ih (step s u h)

theorem Session.inform_keeps (n : Notice) {s : Session} (h : P s) : P (s.inform n).1 :=
  Session.setStates_keeps step (s.handlers.reacts n) h

namespace Turn

theorem react_keeps (n : Notice) {t : Turn} (h : P t.session) : P (t.react n).session := by
  unfold react
  generalize t.session.handlers.reacts n = updates
  induction updates generalizing t with
  | nil => exact h
  | cons u rest ih => exact ih (step t.session u h)

theorem request_keeps (effect : Except Failure (Option Effect)) {t : Turn} (h : P t.session) :
    P (t.request effect).session := by
  cases effect with
  | error f => exact h
  | ok e =>
    cases e with
    | none => exact h
    | some e => exact react_keeps step _ h

theorem call_keeps (overriding : Bool) (f : HostHandler) (c : ActionCall) {t : Turn}
    (h : P t.session) : P (t.call overriding f c).session :=
  react_keeps step _ (step t.session (f c) h)

theorem run_keeps (trigger nodeId : String) (payload : Value) (key action : String)
    (params : Value) {t : Turn} (h : P t.session) :
    P (t.run trigger nodeId payload key action params).session := by
  unfold run
  cases params.entries with
  | error f => exact h
  | ok entries =>
    simp only
    cases t.session.route action with
    | override f => exact call_keeps step _ _ _ h
    | builtIn b => exact request_keeps step _ h
    | handler f => exact call_keeps step _ _ _ h
    | param name => exact react_keeps step _ h
    | increment target =>
      cases target with
      | none => exact h
      | some key => exact step t.session _ h
    | unknown => exact h

theorem runEvent_keeps (trigger nodeId : String) (payload : Value) (e : String × ViewEvent)
    {t : Turn} (h : P t.session) : P (runEvent trigger nodeId payload t e).session := by
  unfold runEvent
  split
  · exact h
  · split
    · exact run_keeps step _ _ _ _ _ _ h
    · exact h

theorem runAll_keeps (trigger nodeId : String) (payload : Value)
    (events : List (String × ViewEvent)) {t : Turn} (h : P t.session) :
    P (t.runAll trigger nodeId payload events).session := by
  unfold runAll
  induction events generalizing t with
  | nil => exact h
  | cons e rest ih => exact ih (runEvent_keeps step trigger nodeId payload e h)

end Turn

theorem Session.finish_keeps (trigger : String) (payload : Value) (chain : List ViewFields)
    (told : List Notice) (report : DispatchReport) {s : Session} (h : P s) :
    P (s.finish trigger payload chain told report).session := by
  show P (s.answer trigger payload chain).2.session
  unfold Session.answer
  split
  · exact h
  · exact Turn.runAll_keeps step _ _ _ _ h

end

/-- What can happen to an open session. -/
inductive SessionEvent where
  | render
  | setState (updates : Entries)
  /-- The host acts in another way from now on. -/
  | host (handlers : HostHandlers)
  | dispatch (trigger : String) (target : EventTarget) (payload : Value)
  | icons (e : IconEvent)

namespace Session

/-- The session after an event. A rendering that has a fault leaves it as it was. -/
def perform (s : Session) : SessionEvent -> Session
  | .render =>
    match s.render with
    | .ok (t, _) => t
    | .error _ => s
  | .setState updates => (s.setState updates).1
  | .host handlers => { s with handlers }
  | .dispatch trigger target payload => (s.dispatch trigger target payload).session
  | .icons e => (s.observeIcons (s.stage.icons.perform e).1 (s.stage.icons.perform e).2).1

/-- Loads go their ways, and no loader is registered in place of a provider. -/
def Allows (s : Session) : SessionEvent -> Prop
  | .icons e => s.stage.icons.Allows e ∧ s.stage.icons.RegistersNew e
  | _ => True

/-- A run of events from one session to another. -/
inductive Run : Session -> List SessionEvent -> Session -> Prop where
  | nil {s : Session} : Run s [] s
  | cons {s t : Session} {e : SessionEvent} {events : List SessionEvent} :
      s.Allows e -> Run (s.perform e) events t -> Run s (e :: events) t

/-- An open session as it is made: dirty, and told of what becomes of icon providers. -/
structure Opened (s : Session) : Prop where
  dirty : s.dirty = true
  watches : s.watchesIcons = true
  apart : s.stage.registry.IconsApart
  icons : s.stage.icons.Reachable

/-- A session that hears of icon providers. -/
structure Watching (s : Session) : Prop where
  watches : s.watchesIcons = true
  apart : s.stage.registry.IconsApart
  icons : s.stage.icons.Sound

/-- A session whose view is the one that rendering would give, unless it is dirty. -/
structure Coherent (s : Session) : Prop extends Watching s where
  current : s.dirty = false -> ∃ r, s.last = some r ∧ s.stage.view.result = .ok r.view

variable {s t : Session}

theorem Watching.coherent_of_dirty (h : Watching s) (dirty : s.dirty = true) : Coherent s :=
  ⟨h, fun clean => by simp [dirty] at clean⟩

theorem setState_cases (s : Session) (updates : Entries) :
    (s.setState updates).1 = s ∨
      ∃ state, (s.setState updates).1 = { s with stage.state := state, dirty := true } := by
  unfold setState
  dsimp only
  split
  · exact .inl rfl
  · exact .inr ⟨_, rfl⟩

theorem isPending_of_not_isSettled {i : IconState} (unsettled : isSettled i = false) :
    i.status.isPending = true := by
  revert unsettled
  unfold isSettled
  cases i.status <;> decide

/-- A session that shows icons is dirty after it was told of a record that is ready or in error. -/
theorem observeIcons_cases (s : Session) (icons : IconRegistry) (seen : List IconState) :
    (s.observeIcons icons seen).1 = { s with stage.icons := icons, dirty := true } ∨
      (s.observeIcons icons seen).1 = { s with stage.icons := icons } ∧
        (s.watchesIcons = true -> s.stage.registry.showsIcons = true ->
          ∀ i ∈ seen, i.status.isPending = true) := by
  unfold observeIcons invalidateFor
  cases settled : (seen.filter isSettled).isEmpty with
  | true =>
    have pending (i : IconState) (mem : i ∈ seen) : i.status.isPending = true := by
      have none := List.filter_eq_nil_iff.mp (List.isEmpty_iff.mp settled) i mem
      exact isPending_of_not_isSettled (Bool.not_eq_true _ ▸ none)
    refine .inr ⟨?_, fun _ _ => pending⟩
    simp only [settled, if_true]
    split <;> rfl
  | false =>
    cases heard : s.watchesIcons && s.stage.registry.showsIcons with
    | true => exact .inl (by simp only [settled, if_true, Bool.false_eq_true, if_false])
    | false =>
      refine .inr ⟨by simp, fun watches shows => ?_⟩
      simp [watches, shows] at heard

theorem view_of_render {r : Rendering} (done : s.render = .ok (t, r)) :
    s.stage.view.result = .ok r.view ∧ t = { s with last := some r, dirty := false } := by
  unfold render Rendering.ofStage at done
  cases drawn : s.stage.view with
  | error f =>
    rw [drawn] at done
    cases done
  | ok v =>
    rw [drawn] at done
    cases done
    exact ⟨rfl, rfl⟩

theorem exists_render {v : View} (view : s.stage.view.result = .ok v) :
    ∃ t r, s.render = .ok (t, r) ∧ r.view = v := by
  unfold render Rendering.ofStage
  cases drawn : s.stage.view with
  | error f =>
    rw [drawn] at view
    cases view
  | ok w =>
    rw [drawn] at view
    exact ⟨_, _, rfl, Except.ok.inj view⟩

/-- The elements that an event happens to are those of the current view, or come with the event. -/
theorem chainOf_cases {target : EventTarget} {chain : List ViewFields}
    (done : s.chainOf target = .ok (t, chain)) : s = t ∨ ∃ r, s.current = .ok (t, r) := by
  cases target with
  | detached v =>
    cases done
    exact .inl rfl
  | node id =>
    obtain ⟨⟨u, r⟩, looked, found⟩ := Fault.exists_of_bind_ok done
    refine .inr ⟨r, ?_⟩
    simp only at found
    split at found <;> cases found <;> exact looked
  | place position =>
    obtain ⟨⟨u, r⟩, looked, found⟩ := Fault.exists_of_bind_ok done
    cases found
    exact .inr ⟨r, looked⟩

theorem Watching.setState (h : Watching s) (updates : Entries) :
    Watching (s.setState updates).1 := by
  rcases setState_cases s updates with same | ⟨state, changed⟩
  · rw [same]
    exact h
  · rw [changed]
    exact ⟨h.watches, h.apart, h.icons⟩

namespace Coherent

theorem setState (h : Coherent s) (updates : Entries) : Coherent (s.setState updates).1 := by
  rcases setState_cases s updates with same | ⟨state, changed⟩
  · rw [same]
    exact h
  · rw [changed]
    exact Watching.coherent_of_dirty ⟨h.watches, h.apart, h.icons⟩ rfl

theorem render (h : Coherent s) {r : Rendering} (done : s.render = .ok (t, r)) : Coherent t := by
  obtain ⟨view, rfl⟩ := view_of_render done
  exact ⟨⟨h.watches, h.apart, h.icons⟩, fun _ => ⟨r, rfl, view⟩⟩

theorem ofCurrent (h : Coherent s) {r : Rendering} (done : s.current = .ok (t, r)) :
    Coherent t := by
  unfold Session.current at done
  split at done
  · split at done
    · exact h.render done
    · cases done
      exact h
  · exact h.render done

theorem select (h : Coherent s) (id : String) : Coherent (s.select id).1 := by
  unfold Session.select
  cases selectable : s.stage.settings.selectable with
  | true =>
    -- the host reacts to the selection while the session is not dirty yet
    have watching : Watching ({ s with stage.selected := some id }.inform (.selected id)).1 :=
      inform_keeps (P := Watching) (fun _ updates h => h.setState updates) _
        ⟨h.watches, h.apart, h.icons⟩
    exact Watching.coherent_of_dirty ⟨watching.watches, watching.apart, watching.icons⟩ rfl
  | false =>
    refine inform_keeps (P := Coherent) (fun _ updates h => h.setState updates) _ ?_
    refine ⟨⟨h.watches, h.apart, h.icons⟩, fun clean => ?_⟩
    obtain ⟨r, last, view⟩ := h.current clean
    exact ⟨r, last, (Stage.alike_selected s.stage (some id) selectable).view.symm.trans view⟩

theorem dispatchAlong (h : Coherent s) (trigger : String) (payload : Value)
    (chain : List ViewFields) : Coherent (s.dispatchAlong trigger payload chain).session := by
  cases chain with
  | nil => exact h
  | cons f rest =>
    have step := fun (s : Session) updates (h : Coherent s) => h.setState updates
    unfold Session.dispatchAlong
    dsimp only
    split
    · exact Session.finish_keeps step _ _ _ _ _ h
    · have selected : Coherent
          (if s.stage.selected == some (f.nodeId.getD "") then (s, [])
            else s.select (f.nodeId.getD "")).1 := by
        split
        · exact h
        · exact h.select _
      split
      · exact selected
      · exact Session.finish_keeps step _ _ _ _ _ selected

theorem dispatch (h : Coherent s) (trigger : String) (target : EventTarget) (payload : Value) :
    Coherent (s.dispatch trigger target payload).session := by
  unfold Session.dispatch
  cases looked : s.chainOf target with
  | error f => exact h
  | ok found =>
    obtain ⟨t, chain⟩ := found
    rcases chainOf_cases looked with rfl | ⟨r, done⟩
    · exact h.dispatchAlong trigger payload chain
    · exact (h.ofCurrent done).dispatchAlong trigger payload chain

/-- Icon providers that go their ways tell the session when they change what is shown. -/
theorem observeIcons (h : Coherent s) {e : IconEvent} (allows : s.stage.icons.Allows e)
    (new : s.stage.icons.RegistersNew e) :
    Coherent (s.observeIcons (s.stage.icons.perform e).1 (s.stage.icons.perform e).2).1 := by
  have sound := h.icons.perform allows
  rcases observeIcons_cases s (s.stage.icons.perform e).1 (s.stage.icons.perform e).2 with
    changed | ⟨same, pending⟩
  · rw [changed]
    exact Watching.coherent_of_dirty ⟨h.watches, h.apart, sound⟩ rfl
  · rw [same]
    refine ⟨⟨h.watches, h.apart, sound⟩, fun clean => ?_⟩
    obtain ⟨r, last, view⟩ := h.current clean
    have alike : s.stage.Alike { s.stage with icons := (s.stage.icons.perform e).1 } := by
      refine Stage.alike_icons s.stage h.apart fun shows ref => ?_
      rw [IconRegistry.resolve_element, IconRegistry.resolve_element,
        h.icons.ready?_perform allows new (pending h.watches shows)]
    exact ⟨r, last, alike.view.symm.trans view⟩

theorem perform (h : Coherent s) {e : SessionEvent} (allows : s.Allows e) :
    Coherent (s.perform e) := by
  cases e with
  | render =>
    rw [Session.perform]
    cases done : s.render with
    | error f => exact h
    | ok found => exact h.render done
  | setState updates => exact h.setState updates
  | host handlers => exact ⟨⟨h.watches, h.apart, h.icons⟩, h.current⟩
  | dispatch trigger target payload => exact h.dispatch trigger target payload
  | icons e => exact h.observeIcons allows.1 allows.2

end Coherent

theorem Run.coherent {events : List SessionEvent} (run : Run s events t) (h : Coherent s) :
    Coherent t := by
  induction run with
  | nil => exact h
  | cons allows _ ih => exact ih (h.perform allows)

theorem Opened.coherent (h : Opened s) : Coherent s :=
  Watching.coherent_of_dirty ⟨h.watches, h.apart, h.icons.sound⟩ h.dirty

/-- After every run of an open session: while it is not dirty, the view that it keeps is the one
that a new rendering gives. -/
theorem kept_view_eq_rendered {events : List SessionEvent} (opened : Opened s)
    (run : Run s events t) (clean : t.dirty = false) :
    ∃ kept u fresh, t.last = some kept ∧ t.render = .ok (u, fresh) ∧ kept.view = fresh.view := by
  obtain ⟨kept, last, view⟩ := (run.coherent opened.coherent).current clean
  obtain ⟨u, fresh, done, same⟩ := exists_render view
  exact ⟨kept, u, fresh, last, done, same.symm⟩

/-- A session on a single icon, whose provider has a loader. -/
def ofIcon : Session where
  stage :=
    { document :=
        { version := "1.3",
          root := .node
            { id := "root", type := "MdrIcon",
              props := [("iconRef",
                .object [("provider", .str "p"), ("name", .str "star")])] } [] },
      icons := IconRegistry.performAll {} [.registerLoader "p" none] }

/-- The loader fails, and is tried again after the failure was shown. -/
def triedAgain : List SessionEvent :=
  [.render, .icons (.request "p"), .icons (.start 1), .icons (.finish 1 (.failed "network down")),
    .render, .icons (.request "p"), .icons (.start 2)]

theorem triedAgain_kept_view :
    Opened ofIcon ∧ ∃ t, Run ofIcon triedAgain t ∧ t.dirty = false ∧
      ∃ kept u fresh, t.last = some kept ∧ t.render = .ok (u, fresh) ∧ kept.view = fresh.view := by
  have opened : Opened ofIcon :=
    ⟨rfl, rfl, ComponentRegistry.standard_iconsApart, IconRegistry.reachable_performAll (by decide)⟩
  have run : Run ofIcon triedAgain (triedAgain.foldl perform ofIcon) :=
    .cons trivial (.cons ⟨trivial, trivial⟩ (.cons ⟨by decide, trivial⟩ (.cons ⟨by decide, trivial⟩
      (.cons trivial (.cons ⟨trivial, trivial⟩ (.cons ⟨by decide, trivial⟩ .nil))))))
  have clean : (triedAgain.foldl perform ofIcon).dirty = false := by decide
  exact ⟨opened, _, run, clean, kept_view_eq_rendered opened run clean⟩

end Session

end ViewDoc
