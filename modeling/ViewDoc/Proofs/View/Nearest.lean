import ViewDoc.Proofs.Tree.Positions
import ViewDoc.Proofs.View.Branch
/-!
Where a dispatched event is handled. The main statement is that the first element of a node hands an
event on to the nearest element with events for it, on the way from it to the root. The actions of
these events are run in declared order, up to the first that fails, and no others are.
-/

set_option autoImplicit false

namespace ViewDoc

/-- An event with an action: the key of the event, and what is to be run. -/
structure ActionEntry where
  key : String
  action : String
  params : Value

/-- What an event under a key asks to be run, unless it has no action or an empty one. -/
def ViewEvent.asked? (key : String) (e : ViewEvent) : Option ActionEntry :=
  (e.action.filter (· ≠ "")).map fun action => ⟨key, action, e.params⟩

namespace ViewFields

/-- The element stands for a node and has an event for the trigger. -/
def Answers (trigger : String) (f : ViewFields) : Prop :=
  f.nodeId.isSome = true ∧ ∃ e ∈ f.events, Trigger.sameEvent e.2.trigger trigger = true

/-- What the events of an element for a trigger ask to be run, in declared order. -/
def entries (f : ViewFields) (trigger : String) : List ActionEntry :=
  (f.matching trigger).filterMap fun e => e.2.asked? e.1

end ViewFields

namespace View

/-- An element stands at a position, and it is the first of a node in document order. -/
def FirstOf (v : View) (id : String) (place : List Nat) : Prop :=
  ∃ before f after, v.positions = before ++ (place, f) :: after ∧ f.nodeId = some id ∧
    ∀ p ∈ before, p.2.nodeId ≠ some id

/-- Of the elements on a way down from the root, one answers a trigger and none below it does. -/
def Nearest (way : List ViewFields) (trigger : String) (f : ViewFields) : Prop :=
  ∃ above below, way = above ++ f :: below ∧ f.Answers trigger ∧
    ∀ g ∈ below, ¬ g.Answers trigger

/-- No mounted element stands at two positions: an outlet that mounts some is mounted once. -/
def MountsOnce (v : View) : Prop :=
  ∀ place w outlet, v.at? place = some w -> w.value.mounts = some outlet -> w.children ≠ [] ->
    ∀ p ∈ v.positions, p.2.mounts = some outlet -> p.1 = place

end View

namespace Turn

/-- Entries are run one after the other, and none after one that failed. -/
inductive Runs (trigger nodeId : String) (payload : Value) : Turn -> List ActionEntry -> Turn -> Prop
  | nil (t : Turn) : Runs trigger nodeId payload t [] t
  | cons {t u : Turn} {e : ActionEntry} {rest : List ActionEntry} (ready : t.failure = none)
      (later : Runs trigger nodeId payload (t.run trigger nodeId payload e.key e.action e.params)
        rest u) :
      Runs trigger nodeId payload t (e :: rest) u

end Turn

/-- A dispatch has come to its end with a turn, after the given notices. -/
structure Dispatched.EndsWith (d : Dispatched) (told : List Notice) (u : Turn)
    (handledBy : Option String) : Prop where
  session : d.session = u.session
  notices : d.notices = told ++ u.notices
  failed : ∀ f, u.failure = some f -> d.outcome = .error f
  done : u.failure = none -> ∃ r, d.outcome = .ok r ∧ r.handledBy = handledBy ∧
    r.actions = u.actions ∧ r.effects = u.effects

namespace Session

/-- A click on a node that is not selected does nothing but select it. -/
def Gated (s : Session) (trigger id : String) : Prop :=
  isClick trigger = true ∧ s.needsSelection = true ∧ s.stage.selected ≠ some id

/-- The session that the actions of an event at a node start in: a click selects the node first. -/
def selecting (s : Session) (trigger id : String) : Session × List Notice :=
  if isClick trigger && !(s.stage.selected == some id) then s.select id else (s, [])

end Session

namespace View

variable {v n : View} {place : List Nat} {id : String}

/-- Without elements that stand at two positions every position is the proper one. -/
theorem properPlace_of_mountsOnce (once : v.MountsOnce) (found : v.at? place = some n) :
    v.properPlace place = place := by
  rw [properPlace]
  cases mount : v.mountOn? place with
  | none => rfl
  | some m =>
    obtain ⟨k, outlet⟩ := m
    obtain ⟨i, inside, mounted⟩ := List.exists_of_findSome?_eq_some mount
    obtain ⟨_, mounting, same⟩ := Option.map_eq_some_iff.mp mounted
    cases same
    obtain ⟨w, above, mounts⟩ := Option.bind_eq_some_iff.mp mounting
    have children := Tree.children_ne_nil_of_at? found above (List.mem_range.mp inside)
    have here : (place.take k, w.value) ∈ v.positions := Tree.mem_positions_iff.mpr ⟨w, above, rfl⟩
    -- the last place where the outlet is mounted is the only one
    have last : v.lastMount? outlet = some (place.take k) := by
      have mounted : (v.positions.filter fun p => p.2.mounts == some outlet) ≠ [] :=
        List.ne_nil_of_mem (List.mem_filter.mpr ⟨here, beq_iff_eq.mpr mounts⟩)
      obtain ⟨p, last⟩ := Option.ne_none_iff_exists'.mp (mt List.getLast?_eq_none_iff.mp mounted)
      obtain ⟨at_, same⟩ := List.mem_filter.mp (List.mem_of_getLast? last)
      rw [lastMount?, last, Option.map_some,
        once _ w outlet above mounts children p at_ (beq_iff_eq.mp same)]
    simp only [last, Option.getD_some, List.take_append_drop]

theorem mountsOnce_of_forall (bare : ∀ p ∈ v.positions, p.2.mounts = none) : v.MountsOnce := by
  intro place w outlet found mounts
  have own := bare (place, w.value) (Tree.mem_positions_iff.mpr ⟨w, found, rfl⟩)
  rw [own] at mounts
  cases mounts

/-- The first position that is found of a node is that of its first element. -/
theorem head?_positionsOf (first : v.FirstOf id place) :
    (v.positionsOf id).head? = some place := by
  obtain ⟨before, f, after, whole, own, other⟩ := first
  have nothing : (before.filter fun p => p.2.nodeId == some id) = [] :=
    List.filter_eq_nil_iff.mpr fun p mem same => other p mem (beq_iff_eq.mp same)
  rw [positionsOf, whole, List.filter_append, nothing, List.nil_append]
  simp [own]

theorem FirstOf.exists_at? (first : v.FirstOf id place) :
    ∃ n, v.at? place = some n ∧ n.value.nodeId = some id := by
  obtain ⟨before, f, after, whole, own, -⟩ := first
  have mem : (place, f) ∈ v.positions := by simp [whole]
  obtain ⟨n, found, same⟩ := Tree.mem_positions_iff.mp mem
  exact ⟨n, found, (congrArg ViewFields.nodeId same).trans own⟩

theorem positionsOf_eq_nil (absent : ∀ p ∈ v.positions, p.2.nodeId ≠ some id) :
    v.positionsOf id = [] := by
  rw [positionsOf, List.filter_eq_nil_iff.mpr fun p mem same => absent p mem (beq_iff_eq.mp same)]
  rfl

/-- Looking up the way finds the nearest element that answers. -/
theorem find?_eq_some_iff {way : List ViewFields} {trigger : String} {f : ViewFields} :
    ((way.reverse.filter fun f => f.nodeId.isSome).find? fun f => !(f.matching trigger).isEmpty) =
      some f ↔ Nearest way trigger f := by
  have answers (g : ViewFields) :
      (g.nodeId.isSome && !(g.matching trigger).isEmpty) = true ↔ g.Answers trigger := by
    rw [Bool.and_eq_true, Bool.not_eq_true', List.isEmpty_eq_false_iff_exists_mem]
    exact and_congr_right fun _ => exists_congr fun e => List.mem_filter
  have refuses (g : ViewFields) :
      (!(g.nodeId.isSome && !(g.matching trigger).isEmpty)) = true ↔ ¬ g.Answers trigger := by
    rw [Bool.not_eq_true', ← Bool.not_eq_true, answers]
  rw [List.find?_filter]
  simp only [Bool.decide_and, Bool.decide_eq_true, List.find?_eq_some_iff_append, answers]
  constructor
  · rintro ⟨own, below, above, whole, silent⟩
    refine ⟨above.reverse, below.reverse, ?_, own, fun g mem => ?_⟩
    · rw [← List.reverse_reverse way, whole]
      simp
    · exact (refuses g).mp (silent g (List.mem_reverse.mp mem))
  · rintro ⟨above, below, rfl, own, silent⟩
    refine ⟨own, below.reverse, above.reverse, by simp, fun g mem => ?_⟩
    exact (refuses g).mpr (silent g (List.mem_reverse.mp mem))

/-- On the way up from an element that stands for a node it comes first. -/
theorem exists_chain (found : v.at? place = some n) (own : n.value.nodeId = some id) :
    ∃ above, ((v.along place).reverse.filter fun f => f.nodeId.isSome) = n.value :: above := by
  obtain ⟨before, whole⟩ := List.getLast?_eq_some_iff.mp (Tree.getLast?_along found)
  refine ⟨before.reverse.filter fun f => f.nodeId.isSome, ?_⟩
  rw [whole, List.reverse_concat]
  simp [own]

end View

namespace Turn

variable {t : Turn}

theorem Runs.actions {trigger nodeId : String} {payload : Value} {u : Turn}
    {es : List ActionEntry} (runs : Runs trigger nodeId payload t es u) :
    u.actions = t.actions ++ es.map (·.action) := by
  induction runs with
  | nil t => simp
  | cons _ _ ih => rw [ih, actions_run, List.map_cons, List.append_assoc, List.singleton_append]

theorem runAll_of_failure (failed : t.failure.isSome = true) (trigger nodeId : String)
    (payload : Value) (events : List (String × ViewEvent)) :
    t.runAll trigger nodeId payload events = t := by
  rw [runAll]
  induction events with
  | nil => rfl
  | cons e rest ih => rw [List.foldl_cons, runEvent, if_pos failed, ih]

/-- What events ask for is run in their order up to the first failure, and that is all that is. -/
theorem exists_runs (trigger nodeId : String) (payload : Value) (t : Turn)
    (events : List (String × ViewEvent)) :
    ∃ done rest, (events.filterMap fun e => e.2.asked? e.1) = done ++ rest ∧
      Runs trigger nodeId payload t done (t.runAll trigger nodeId payload events) ∧
      ((t.runAll trigger nodeId payload events).failure = none -> rest = []) := by
  induction events generalizing t with
  | nil => exact ⟨[], [], rfl, .nil t, fun _ => rfl⟩
  | cons e events ih =>
    by_cases failed : t.failure.isSome = true
    · rw [runAll_of_failure failed]
      exact ⟨[], _, rfl, .nil t, fun ready => by simp [ready] at failed⟩
    · have ready : t.failure = none := by simpa using failed
      have step : t.runAll trigger nodeId payload (e :: events) =
          (runEvent trigger nodeId payload t e).runAll trigger nodeId payload events := rfl
      rw [step, runEvent, if_neg failed, List.filterMap_cons, ViewEvent.asked?]
      cases asked : e.2.action.filter (· ≠ "") with
      | none => exact ih t
      | some action =>
        obtain ⟨done, rest, whole, runs, all⟩ := ih (t.run trigger nodeId payload e.1 action e.2.params)
        refine ⟨⟨e.1, action, e.2.params⟩ :: done, rest, ?_, .cons ready runs, all⟩
        rw [Option.map_some, whole, List.cons_append]

end Turn

namespace Session

variable {s t : Session} {trigger id : String} {payload : Value}

theorem endsWith_finish (s : Session) (trigger : String) (payload : Value) (chain : List ViewFields)
    (told : List Notice) (report : DispatchReport) :
    (s.finish trigger payload chain told report).EndsWith told (s.answer trigger payload chain).2
      (s.answer trigger payload chain).1 := by
  refine ⟨rfl, rfl, fun f failed => ?_, fun ready => ?_⟩
  · rw [finish]
    dsimp only
    rw [failed]
  · rw [finish]
    dsimp only
    rw [ready]
    exact ⟨_, rfl, rfl, rfl, rfl⟩

/-- Unless it does nothing but select, an event at a node goes on to be answered. -/
theorem exists_finish (acts : ¬ s.Gated trigger id) (payload : Value) {f : ViewFields}
    (own : f.nodeId = some id) (above : List ViewFields) :
    ∃ report, s.dispatchAlong trigger payload (f :: above) =
      (s.selecting trigger id).1.finish trigger payload (f :: above) (s.selecting trigger id).2
        report := by
  rw [dispatchAlong, own, Option.getD_some, selecting]
  by_cases click : isClick trigger = true
  · by_cases known : s.stage.selected = some id
    · simp [click, known]
    · have free : s.needsSelection = false := by
        rw [← Bool.not_eq_true]
        exact fun needed => acts ⟨click, needed, known⟩
      simp [click, known, free]
  · simp [click]

theorem chainOf_node {r : Rendering} (current : s.current = .ok (t, r)) (id : String) :
    s.chainOf (.node id) = .ok (t, ((r.view.positionsOf id).head?.map fun place =>
      (r.view.ancestry place).filter fun f => f.nodeId.isSome).getD []) := by
  cases first : (r.view.positionsOf id).head? with
  | none => simp only [chainOf, current, bind, Except.bind, first]; rfl
  | some place => simp only [chainOf, current, bind, Except.bind, first]; rfl

theorem dispatch_of_chainOf {chain : List ViewFields} {target : EventTarget}
    (found : s.chainOf target = .ok (t, chain)) (trigger : String) (payload : Value) :
    s.dispatch trigger target payload = t.dispatchAlong trigger payload chain := by
  rw [dispatch, found]

/-- The nearest element that answers runs what its events ask for. -/
theorem exists_runs_answer {way : List ViewFields} {f : ViewFields}
    (nearest : View.Nearest way trigger f) (s : Session) (payload : Value) :
    ∃ done rest u, s.answer trigger payload (way.reverse.filter fun f => f.nodeId.isSome) =
        (f.nodeId, u) ∧ f.entries trigger = done ++ rest ∧
      Turn.Runs trigger (f.nodeId.getD "") payload { session := s } done u ∧
      (u.failure = none -> rest = []) := by
  obtain ⟨done, rest, whole, runs, all⟩ := Turn.exists_runs trigger (f.nodeId.getD "") payload
    { session := s } (f.matching trigger)
  refine ⟨done, rest, _, ?_, whole, runs, all⟩
  rw [answer, View.find?_eq_some_iff.mpr nearest]

theorem answer_of_forall_not {way : List ViewFields}
    (silent : ∀ f, ¬ View.Nearest way trigger f) (s : Session) (payload : Value) :
    s.answer trigger payload (way.reverse.filter fun f => f.nodeId.isSome) =
      (none, { session := s }) := by
  have unfound := Option.eq_none_iff_forall_ne_some.mpr
    fun f found => silent f (View.find?_eq_some_iff.mp found)
  rw [answer, unfound]

/-- An event at a node is handed on to the nearest element that answers it, on the way from the first
element of the node to the root. What the events of this element ask for is run in order, up to the
first failure; where no element answers, nothing is. -/
theorem dispatch_node {r : Rendering} (current : s.current = .ok (t, r)) (once : r.view.MountsOnce)
    (acts : ¬ t.Gated trigger id) (payload : Value) :
    ((∀ p ∈ r.view.positions, p.2.nodeId ≠ some id) ->
      s.dispatch trigger (.node id) payload = ⟨t, [], .ok {}⟩) ∧
    ∀ place, r.view.FirstOf id place ->
      let start := t.selecting trigger id
      let ended := s.dispatch trigger (.node id) payload
      ((∀ f, ¬ View.Nearest (r.view.along place) trigger f) ->
        ended.EndsWith start.2 { session := start.1 } none) ∧
      ∀ f, View.Nearest (r.view.along place) trigger f ->
        ∃ done rest u, f.entries trigger = done ++ rest ∧
          Turn.Runs trigger (f.nodeId.getD "") payload { session := start.1 } done u ∧
          u.actions = done.map (·.action) ∧ (u.failure = none -> rest = []) ∧
          ended.EndsWith start.2 u f.nodeId := by
  have found := chainOf_node current id
  constructor
  · intro absent
    rw [View.positionsOf_eq_nil absent] at found
    rw [dispatch_of_chainOf found]
    rfl
  · intro place first start ended
    obtain ⟨n, stands, own⟩ := first.exists_at?
    obtain ⟨above, chain⟩ := View.exists_chain stands own
    rw [View.head?_positionsOf first, Option.map_some, Option.getD_some, View.ancestry,
      View.properPlace_of_mountsOnce once stands] at found
    have ends : ended.EndsWith start.2
        (start.1.answer trigger payload
          ((r.view.along place).reverse.filter fun f => f.nodeId.isSome)).2
        (start.1.answer trigger payload
          ((r.view.along place).reverse.filter fun f => f.nodeId.isSome)).1 := by
      obtain ⟨report, finished⟩ := exists_finish acts payload own above
      rw [← chain] at finished
      simp only [ended, dispatch_of_chainOf found, finished]
      exact endsWith_finish _ _ _ _ _ _
    refine ⟨fun silent => ?_, fun f nearest => ?_⟩
    · rwa [answer_of_forall_not silent] at ends
    · obtain ⟨done, rest, u, answered, whole, runs, all⟩ :=
        exists_runs_answer nearest start.1 payload
      rw [answered] at ends
      exact ⟨done, rest, u, whole, runs, runs.actions, all, ends⟩

/-- A form whose button has no events, with params for the first of its own. -/
def ofForm (params : Entries) : Session where
  stage := stageOf
    { version := "1.3",
      root := .node { id := "form", type := "form", events := [
          ("check", { trigger := "click", action := some "onCheck", params }),
          ("focus", { trigger := "focus", action := some "onFocus" }),
          ("save", { trigger := "onClick", action := some "onSave" })] }
        [.node { id := "send", type := "button" } []] }
    [("onCheck", .handler "onCheck"), ("onSave", .handler "onSave")]

/-- An element alone below another hands on what it has no event for. -/
theorem nearest_of_pair {form button : ViewFields} (bare : form.mounts = none ∧ button.mounts = none)
    (ids : form.nodeId ≠ some id ∧ button.nodeId = some id) (silent : button.events = [])
    (answers : form.Answers trigger) :
    let v : View := .node form [.node button []]
    v.MountsOnce ∧ v.FirstOf id [0] ∧ View.Nearest (v.along [0]) trigger form := by
  intro v
  refine ⟨View.mountsOnce_of_forall ?_, ⟨[([], form)], button, [], rfl, ids.2, ?_⟩,
    [], [button], rfl, answers, ?_⟩
  · exact List.forall_mem_cons.mpr ⟨bare.1, List.forall_mem_singleton.mpr bare.2⟩
  · exact List.forall_mem_singleton.mpr ids.1
  · refine List.forall_mem_singleton.mpr ?_
    rintro ⟨-, e, mem, -⟩
    rw [silent] at mem
    cases mem

/-- A click on the button is answered by the form, with both of its events for it. -/
theorem ofForm_answers :
    ∃ t r f u, (ofForm [("strict", .bool true)]).current = .ok (t, r) ∧
      ¬ t.Gated "click" "send" ∧
      (r.view.MountsOnce ∧ r.view.FirstOf "send" [0] ∧ View.Nearest (r.view.along [0]) "click" f) ∧
      u.actions = ["onCheck", "onSave"] ∧
      ((ofForm [("strict", .bool true)]).dispatch "click" (.node "send") .null).EndsWith
        (t.selecting "click" "send").2 u f.nodeId := by
  have click : Trigger.sameEvent "click" "click" = true := by decide +kernel
  obtain ⟨t, r, f, current, acts, ⟨once, first, nearest⟩, asked⟩ :
      ∃ t r f, (ofForm [("strict", .bool true)]).current = .ok (t, r) ∧ ¬ t.Gated "click" "send" ∧
        (r.view.MountsOnce ∧ r.view.FirstOf "send" [0] ∧
          View.Nearest (r.view.along [0]) "click" f) ∧
        (f.entries "click").map (·.action) = ["onCheck", "onSave"] :=
    ⟨_, _, _, rfl, fun gated => Bool.false_ne_true gated.2.1,
      nearest_of_pair ⟨rfl, rfl⟩ ⟨by decide, rfl⟩ rfl ⟨rfl, _, List.mem_cons_self, click⟩,
      by decide +kernel⟩
  obtain ⟨done, rest, u, whole, -, actions, all, ends⟩ :=
    ((dispatch_node current once acts .null).2 [0] first).2 f nearest
  have fires : ((ofForm [("strict", .bool true)]).dispatch "click" (.node "send")
      .null).outcome.toOption.isSome = true := by
    decide +kernel
  have ready : u.failure = none := by
    cases failed : u.failure with
    | none => rfl
    | some fault =>
      rw [ends.failed fault failed] at fires
      cases fires
  rw [whole, all ready, List.append_nil, ← actions] at asked
  exact ⟨t, r, f, u, current, acts, ⟨once, first, nearest⟩, asked, ends⟩

/-- Params that refer to nothing end the click before any action is carried out. -/
theorem ofForm_fails :
    ∃ t r f, (ofForm [("$param", .str "missing")]).current = .ok (t, r) ∧
      ¬ t.Gated "click" "send" ∧
      (r.view.MountsOnce ∧ r.view.FirstOf "send" [0] ∧ View.Nearest (r.view.along [0]) "click" f) ∧
      (f.entries "click").map (·.action) = ["onCheck", "onSave"] ∧
      let ended := (ofForm [("$param", .str "missing")]).dispatch "click" (.node "send") .null
      ended.notices = [.selected "send"] ∧ ended.outcome.toOption = none := by
  have click : Trigger.sameEvent "click" "click" = true := by decide +kernel
  exact ⟨_, _, _, rfl, fun gated => Bool.false_ne_true gated.2.1,
    nearest_of_pair ⟨rfl, rfl⟩ ⟨by decide, rfl⟩ rfl ⟨rfl, _, List.mem_cons_self, click⟩,
    by decide +kernel, by decide +kernel, by decide +kernel⟩

end Session

end ViewDoc
