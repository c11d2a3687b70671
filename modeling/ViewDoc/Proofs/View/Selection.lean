import ViewDoc.Proofs.View.Coherence
/-!
The selection of a live session. Clicks move it and nothing else does, whatever the host does when
it is told. The main statement is that where events need a selection, a click runs actions or changes
the state only at the node that the last click before it hit.
-/

set_option autoImplicit false

namespace ViewDoc

namespace Session

/-- The node that an event hits along a chain of elements, if it is a click. -/
def hitAlong? (trigger : String) : List ViewFields -> Option String
  | [] => none
  | f :: _ => if isClick trigger then some (f.nodeId.getD "") else none

/-- The node that an event hits, if it is a click on a rendered element. -/
def hit? (s : Session) : SessionEvent -> Option String
  | .dispatch trigger target _ =>
    match s.chainOf target with
    | .ok (_, chain) => hitAlong? trigger chain
    | .error _ => none
  | _ => none

/-- The node that the last click of a run hit, of those that hit one. -/
def lastHit? : Session -> List SessionEvent -> Option String
  | _, [] => none
  | s, e :: rest => ((s.perform e).lastHit? rest).or (s.hit? e)

/-- Whether events need a selection, and what is selected. -/
structure Selects (s : Session) (needed : Bool) (selected : Option String) : Prop where
  needed : s.needsSelection = needed
  selected : s.stage.selected = selected

variable {s t : Session} {needed : Bool} {selected : Option String}

/-- Looking for the elements that an event happens to renders the view at most. -/
theorem exists_of_chainOf {target : EventTarget} {chain : List ViewFields}
    (done : s.chainOf target = .ok (t, chain)) :
    ∃ last dirty, t = { s with last, dirty } := by
  rcases chainOf_cases done with rfl | ⟨r, drawn⟩
  · exact ⟨_, _, rfl⟩
  · unfold Session.current at drawn
    split at drawn
    · split at drawn
      · exact ⟨_, _, (view_of_render drawn).2⟩
      · cases drawn
        exact ⟨_, _, rfl⟩
    · exact ⟨_, _, (view_of_render drawn).2⟩

namespace Selects

theorem setState (h : Selects s needed selected) (updates : Entries) :
    Selects (s.setState updates).1 needed selected := by
  rcases setState_cases s updates with same | ⟨state, changed⟩
  · rw [same]
    exact h
  · rw [changed]
    exact ⟨h.needed, h.selected⟩

theorem chainOf (h : Selects s needed selected) {target : EventTarget} {chain : List ViewFields}
    (done : s.chainOf target = .ok (t, chain)) : Selects t needed selected := by
  obtain ⟨last, dirty, rfl⟩ := exists_of_chainOf done
  exact ⟨h.needed, h.selected⟩

theorem select (h : Selects s needed selected) (id : String) :
    Selects (s.select id).1 needed (some id) := by
  have told : Selects ({ s with stage.selected := some id }.inform (.selected id)).1 needed
      (some id) :=
    inform_keeps (P := fun t => Selects t needed (some id)) (fun _ updates h => h.setState updates)
      _ ⟨h.needed, rfl⟩
  unfold Session.select
  dsimp only
  split
  · exact ⟨told.needed, told.selected⟩
  · exact told

theorem finish (h : Selects s needed selected) (trigger : String) (payload : Value)
    (chain : List ViewFields) (told : List Notice) (report : DispatchReport) :
    Selects (s.finish trigger payload chain told report).session needed selected :=
  finish_keeps (P := fun t => Selects t needed selected) (fun _ updates h => h.setState updates)
    _ _ _ _ _ h

theorem dispatchAlong (h : Selects s needed selected) (trigger : String) (payload : Value)
    (chain : List ViewFields) :
    Selects (s.dispatchAlong trigger payload chain).session needed
      ((hitAlong? trigger chain).or selected) := by
  cases chain with
  | nil => exact h
  | cons f rest =>
    rw [hitAlong?]
    cases click : isClick trigger with
    | false =>
      simp only [Session.dispatchAlong, click]
      exact h.finish _ _ _ _ _
    | true =>
      have clicked : Selects
          (if s.stage.selected == some (f.nodeId.getD "") then (s, [])
            else s.select (f.nodeId.getD "")).1 needed (some (f.nodeId.getD "")) := by
        split
        · rename_i was
          exact ⟨h.needed, eq_of_beq was⟩
        · exact h.select _
      simp only [Session.dispatchAlong, click]
      split
      · cases ‹(!true) = true›
      · split
        · exact clicked
        · exact clicked.finish _ _ _ _ _

/-- Every event selects what it hits, and leaves the selection as it is if it hits nothing. -/
theorem perform (h : Selects s needed selected) (e : SessionEvent) :
    Selects (s.perform e) needed ((s.hit? e).or selected) := by
  cases e with
  | render =>
    rw [Session.perform]
    cases done : s.render with
    | error f => exact h
    | ok found =>
      obtain ⟨u, r⟩ := found
      obtain rfl := (view_of_render done).2
      exact ⟨h.needed, h.selected⟩
  | setState updates => exact h.setState updates
  | host handlers => exact ⟨h.needed, h.selected⟩
  | dispatch trigger target payload =>
    rw [Session.perform, Session.dispatch, hit?]
    cases looked : s.chainOf target with
    | error f => exact h
    | ok found => exact (h.chainOf looked).dispatchAlong trigger payload found.2
  | icons e =>
    rw [Session.perform]
    rcases observeIcons_cases s (s.stage.icons.perform e).1 (s.stage.icons.perform e).2 with
      changed | ⟨changed, -⟩ <;> rw [changed] <;> exact ⟨h.needed, h.selected⟩

/-- After a run the selected node is the one that the last click hit. -/
theorem performAll (h : Selects s needed selected) (events : List SessionEvent) :
    Selects (events.foldl Session.perform s) needed ((s.lastHit? events).or selected) := by
  induction events generalizing s selected with
  | nil => exact h
  | cons e rest ih =>
    rw [lastHit?, Option.or_assoc]
    exact ih (h.perform e)

/-- A click on an element that is not selected does no more than select it, where events need a
selection. -/
theorem dispatchAlong_eq (h : Selects s true selected) {trigger : String} (payload : Value)
    {chain : List ViewFields} {id : String} (hit : hitAlong? trigger chain = some id)
    (other : selected ≠ some id) :
    s.dispatchAlong trigger payload chain =
      ⟨(s.select id).1, (s.select id).2, .ok
        { targetId := some id, selectedId := some id, selectionChanged := true,
          preventDefault := s.prevents id }⟩ := by
  cases chain with
  | nil => cases hit
  | cons f rest =>
    rw [hitAlong?, Option.ite_none_right_eq_some] at hit
    obtain ⟨click, hit⟩ := hit
    obtain rfl := Option.some.inj hit
    have unselected : (s.stage.selected == some (f.nodeId.getD "")) = false := by
      rw [h.selected]
      exact beq_eq_false_iff_ne.mpr other
    simp [Session.dispatchAlong, click, unselected, h.needed]

end Selects

theorem targetId_of_finish {trigger : String} {payload : Value} {chain : List ViewFields}
    {told : List Notice} {start report : DispatchReport}
    (done : (s.finish trigger payload chain told start).outcome = .ok report) :
    report.targetId = start.targetId := by
  unfold Session.finish at done
  dsimp only at done
  split at done
  · cases done
  · cases done
    rfl

/-- The target that is reported of a click is the node that it hits. -/
theorem targetId_of_dispatchAlong {trigger : String} {payload : Value} {chain : List ViewFields}
    {report : DispatchReport} (click : isClick trigger = true)
    (done : (s.dispatchAlong trigger payload chain).outcome = .ok report) :
    report.targetId = hitAlong? trigger chain := by
  cases chain with
  | nil =>
    cases done
    rfl
  | cons f rest =>
    rw [hitAlong?, if_pos click]
    simp only [Session.dispatchAlong, click, Bool.not_true, Bool.false_eq_true, if_false] at done
    split at done
    · cases done
      rfl
    · exact targetId_of_finish done

/-- In a session whose events need a selection, after any run: a click that runs an action or
changes the state has for its target the node that the last click hit. A click on another node ends
without a failure, and has done no more than select this node. -/
theorem acts_at_lastHit (events : List SessionEvent) (trigger : String) (target : EventTarget)
    (payload : Value) (gated : s.needsSelection = true) (fresh : s.stage.selected = none)
    (click : isClick trigger = true) :
    let now := events.foldl perform s
    let after := now.dispatch trigger target payload
    (∀ report, after.outcome = .ok report ->
        report.fired = true ∨ report.stateChanged = true ->
        ∃ id, report.targetId = some id ∧ s.lastHit? events = some id) ∧
      ∀ id, now.hit? (.dispatch trigger target payload) = some id -> s.lastHit? events ≠ some id ->
        ∃ report, after.outcome = .ok report ∧ report.targetId = some id ∧ report.fired = false ∧
          report.effects = [] ∧ report.stateChanged = false ∧
          after.session.stage.selected = some id := by
  intro now after
  have selects : Selects now true (s.lastHit? events) := by
    have run := Selects.performAll ⟨gated, fresh⟩ events
    rwa [Option.or_none] at run
  simp only [after, Session.dispatch, hit?]
  cases looked : now.chainOf target with
  | error f => exact ⟨nofun, nofun⟩
  | ok found =>
    obtain ⟨t, chain⟩ := found
    have h : Selects t true (s.lastHit? events) := selects.chainOf looked
    have elsewhere {id : String} (hit : hitAlong? trigger chain = some id)
        (other : s.lastHit? events ≠ some id) := h.dispatchAlong_eq payload hit other
    refine ⟨fun report done acts => ?_, fun id hit other => ?_⟩
    · have target := targetId_of_dispatchAlong click done
      cases hit : hitAlong? trigger chain with
      | none =>
        -- Only a click outside of all elements hits nothing, and nothing comes of it.
        cases chain with
        | nil =>
          cases done
          simp [DispatchReport.fired] at acts
        | cons f rest => simp [hitAlong?, click] at hit
      | some id =>
        refine ⟨id, target.trans hit, ?_⟩
        by_contra other
        simp only [elsewhere hit other] at done
        cases done
        simp [DispatchReport.fired] at acts
    · simp only [elsewhere hit other]
      exact ⟨_, rfl, rfl, rfl, rfl, rfl, (h.select id).selected⟩

/-- A session on two counting buttons, where events need a selection. -/
def ofButtons : Session where
  needsSelection := true
  stage := stageOf
    { version := "1.3",
      logic := some { state := [("total", { initial := .int 2 })] },
      root := .node { id := "root", type := "div" }
        (["first", "second"].map fun id => .node
          { id, type := "button",
            events := [("add", { trigger := "click", action := some "increment" })] } []) } []

/-- Both buttons are clicked in turn; other events and clicks that hit nothing come after that. -/
def bothClicked : List SessionEvent :=
  [.dispatch "click" (.node "first") .null, .dispatch "onClick" (.node "second") .null,
    .setState [("total", .int 7)], .dispatch "click" (.node "third") .null,
    .dispatch "focus" (.node "first") .null, .render]

/-- A click on the second button counts then. -/
theorem bothClicked_acts :
    ofButtons.needsSelection = true ∧ ofButtons.stage.selected = none ∧ isClick "click" = true ∧
      ofButtons.lastHit? bothClicked = some "second" ∧
      ∃ report, ((bothClicked.foldl perform ofButtons).dispatch "click" (.node "second")
          .null).outcome = .ok report ∧ report.actions = ["increment"] ∧ report.stateChanged = true ∧
        ∃ id, report.targetId = some id ∧ ofButtons.lastHit? bothClicked = some id := by
  have click : isClick "click" = true := by decide +kernel
  have last : ofButtons.lastHit? bothClicked = some "second" := by decide +kernel
  have counts : ((bothClicked.foldl perform ofButtons).dispatch "click" (.node "second")
      .null).outcome.toOption.map (fun report => (report.actions, report.stateChanged)) =
        some (["increment"], true) := by
    decide +kernel
  cases done : ((bothClicked.foldl perform ofButtons).dispatch "click" (.node "second")
      .null).outcome with
  | error f =>
    rw [done] at counts
    cases counts
  | ok report =>
    rw [done] at counts
    obtain ⟨actions, changed⟩ := Prod.mk.inj (Option.some.inj counts)
    have there := (acts_at_lastHit (s := ofButtons) bothClicked "click" (.node "second") .null rfl
      rfl click).1 report done (.inr changed)
    exact ⟨rfl, rfl, click, last, report, rfl, actions, changed, there⟩

end Session

end ViewDoc
