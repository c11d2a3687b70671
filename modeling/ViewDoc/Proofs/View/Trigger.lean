import ViewDoc.Proofs.Tsx.Attributes
import ViewDoc.Proofs.View.Branch
import ViewDoc.Proofs.View.Coherence
/-!
Dispatching under handler names. The main statement is that a handler name stays as it is just when
its trigger means a well-known event or begins with a character that has an upper case. Every element
has the same events for both then, and a dispatch does the same; otherwise no event is one for both.
-/

set_option autoImplicit false

namespace ViewDoc

namespace Text

theorem upperOf_ne_nil (c : Char) : upperOf c ≠ [] := by
  have several : sequencesKeep (fun _ => false) upperSequences = true := by decide +kernel
  have single : shiftsKeep (fun _ => false) upperShifts = true := by decide +kernel
  have kept := all_upperOf several single c
  intro nothing
  rw [nothing] at kept
  cases kept

/-- The first word between breaks begins with the first character that is none. -/
theorem exists_words {isBreak : Char -> Bool} {cs : List Char} {c : Char}
    (first : cs.find? (fun c => !isBreak c) = some c) :
    ∃ rest ws, ((splitWhere isBreak cs).map String.ofList).filter (· ≠ "") =
      .ofList (c :: rest) :: ws := by
  induction cs with
  | nil => cases first
  | cons d cs ih =>
    rw [splitWhere]
    by_cases stops : isBreak d = true
    · rw [List.find?_cons_of_neg (by simp [stops])] at first
      rw [if_pos stops, List.map_cons, List.filter_cons_of_neg (by simp)]
      exact ih first
    · rw [List.find?_cons_of_pos (by simp [stops])] at first
      obtain rfl : d = c := Option.some.inj first
      rw [if_neg stops]
      cases splitWhere isBreak cs with
      | nil => exact ⟨[], [], by simp⟩
      | cons piece pieces => exact ⟨piece, _, List.filter_cons_of_pos (by simp)⟩

theorem words_eq_nil {isBreak : Char -> Bool} {cs : List Char}
    (blank : cs.find? (fun c => !isBreak c) = none) :
    ((splitWhere isBreak cs).map String.ofList).filter (· ≠ "") = [] := by
  induction cs with
  | nil => rfl
  | cons d cs ih =>
    have stops : isBreak d = true := by simpa using List.find?_eq_none.mp blank d List.mem_cons_self
    rw [List.find?_cons_of_neg (by simp [stops])] at blank
    rw [splitWhere, if_pos stops, List.map_cons, List.filter_cons_of_neg (by simp)]
    exact ih blank

end Text

namespace Trigger

/-- The character that a trigger begins with, after hyphens and low lines. -/
def initial? (trigger : String) : Option Char :=
  trigger.toList.find? fun c => !(c == '-' || c == '_')

/-- The handler name of a trigger is spelled as one: the trigger is so already, or means a
well-known event, or begins with a character that has an upper case. -/
def Settles (trigger : String) : Prop :=
  isHandler trigger = true ∨ handler trigger ∈ knownHandlers ∨
    ∃ c ∈ initial? trigger, (Text.upperOf c).head?.any Text.isUpper = true

variable {t : String}

theorem handler_of_isHandler (own : isHandler t = true) : handler t = t := by
  rw [handler, if_pos own]

theorem isHandler_of_mem_knownHandlers (known : t ∈ knownHandlers) : isHandler t = true := by
  have all : knownHandlers.all isHandler = true := by decide +kernel
  exact List.all_eq_true.mp all t known

/-- A handler name is the trigger itself, that of a well-known event, or composed of words. -/
theorem handler_cases (t : String) :
    (isHandler t = true ∧ handler t = t) ∨ handler t ∈ knownHandlers ∨
      (isHandler t = false ∧ handler t = composed t) := by
  by_cases own : isHandler t = true
  · exact .inl ⟨own, handler_of_isHandler own⟩
  · rw [handler, if_neg own]
    dsimp only
    cases known : knownHandlers.find? fun known => Text.lower known == Text.lower (composed t) with
    | none => exact .inr (.inr ⟨Bool.eq_false_iff.mpr own, rfl⟩)
    | some name => exact .inr (.inl (List.mem_of_find?_eq_some known))

/-- The first word of a trigger begins with its initial, also where it stands for two words. -/
theorem exists_words {c : Char} (first : initial? t = some c) :
    ∃ rest ws, words t = .ofList (c :: rest) :: ws := by
  obtain ⟨rest, ws, found⟩ := Text.exists_words first
  rw [words, found]
  split
  · rename_i same
    have front : String.ofList (c :: rest) = "dblclick" := (List.cons.inj same).1
    have chars := congrArg String.toList front
    rw [String.toList_ofList] at chars
    obtain rfl : c = 'd' := (List.cons.inj chars).1
    exact ⟨"ouble".toList, ["click"], rfl⟩
  · exact ⟨rest, ws, rfl⟩

theorem exists_composed {c : Char} (first : initial? t = some c) :
    ∃ rest, (composed t).toList = 'o' :: 'n' :: (Text.upperOf c ++ rest) := by
  obtain ⟨rest, ws, found⟩ := exists_words first
  have front : (Text.capitalized (.ofList (c :: rest))).toList = Text.upperOf c ++ rest := by
    rw [Text.capitalized, String.toList_ofList, String.toList_ofList]
  rw [composed, found, List.map_cons, String.toList_append]
  cases ws with
  | nil =>
    rw [List.map_nil, String.intercalate_singleton, front]
    exact ⟨_, rfl⟩
  | cons w ws =>
    rw [List.map_cons, String.intercalate_cons_cons, String.toList_append, String.toList_append,
      front, List.append_assoc, List.append_assoc]
    exact ⟨_, rfl⟩

theorem composed_of_initial?_eq_none (blank : initial? t = none) : composed t = "on" := by
  have nothing : words t = [] := by
    rw [words, Text.words_eq_nil blank]
    rfl
  rw [composed, nothing]
  rfl

theorem isHandler_composed_iff :
    isHandler (composed t) = true ↔
      ∃ c ∈ initial? t, (Text.upperOf c).head?.any Text.isUpper = true := by
  cases first : initial? t with
  | none =>
    rw [composed_of_initial?_eq_none first]
    exact iff_of_false Bool.false_ne_true nofun
  | some c =>
    obtain ⟨rest, chars⟩ := exists_composed first
    obtain ⟨d, more, upper⟩ := List.exists_cons_of_ne_nil (Text.upperOf_ne_nil c)
    rw [upper] at chars
    rw [isHandler, chars]
    simp [upper]

theorem isHandler_handler_iff : isHandler (handler t) = true ↔ Settles t := by
  obtain ⟨own, same⟩ | known | ⟨other, same⟩ := handler_cases t
  · rw [same]
    exact iff_of_true own (.inl own)
  · exact iff_of_true (isHandler_of_mem_knownHandlers known) (.inr (.inl known))
  · rw [same, isHandler_composed_iff]
    refine ⟨fun upper => .inr (.inr upper), ?_⟩
    rintro (own | known | upper)
    · rw [other] at own
      cases own
    · rw [same] at known
      exact isHandler_composed_iff.mp (isHandler_of_mem_knownHandlers known)
    · exact upper

/-- The handler name of a handler name is spelled as one, since it begins with a letter. -/
theorem isHandler_handler_handler (t : String) : isHandler (handler (handler t)) = true := by
  obtain ⟨rest, chars⟩ := handler_toList t
  have first : initial? (handler t) = some 'o' := by
    rw [initial?, chars]
    rfl
  exact isHandler_handler_iff.mpr (.inr (.inr ⟨'o', first, by decide +kernel⟩))

theorem handler_handler_eq_iff : handler (handler t) = handler t ↔ Settles t := by
  rw [← isHandler_handler_iff]
  exact ⟨fun same => same ▸ isHandler_handler_handler t, handler_of_isHandler⟩

end Trigger

/-- An effect under another trigger. -/
def Effect.under (trigger : String) (e : Effect) : Effect :=
  { e with trigger }

/-- A report but for what the text of the trigger shows in: the trigger that the effects name, and
whether the handlers, which are told it, changed the state. -/
def DispatchReport.regardless (r : DispatchReport) : DispatchReport :=
  { r with effects := r.effects.map (·.under ""), stateChanged := false }

/-- Two turns came about in the same way but for the text of the trigger. -/
structure Turn.Alike (t u : Turn) : Prop where
  handlers : u.session.handlers = t.session.handlers
  params : u.session.stage.params = t.session.stage.params
  actions : u.actions = t.actions
  effects : u.effects.map (·.under "") = t.effects.map (·.under "")
  failure : u.failure = t.failure

namespace Session

/-- An action goes the same way in sessions with the same handlers and params, but for the variable
that the increment finds in the state. -/
theorem route_cases {s u : Session} (handlers : u.handlers = s.handlers)
    (params : u.stage.params = s.stage.params) (action : String) :
    u.route action = s.route action ∨
      ∃ k l, s.route action = .increment k ∧ u.route action = .increment l := by
  rw [route, route, handlers, params]
  cases Entries.get? s.handlers.overrides action with
  | some h => exact .inl rfl
  | none =>
    cases BuiltIn.ofName? action with
    | some b => exact .inl rfl
    | none =>
      cases Entries.get? s.handlers.actions action with
      | some h => exact .inl rfl
      | none =>
        dsimp only
        split
        · exact .inl rfl
        · split
          · exact .inr ⟨_, _, rfl, rfl⟩
          · exact .inl rfl

end Session

/-- What a built-in action asks for does not depend on the trigger, but that it names it. -/
theorem BuiltIn.map_effect? (b : BuiltIn) (params : Value) (nodeId trigger : String) :
    (b.effect? params nodeId trigger).map (·.map (·.under "")) = b.effect? params nodeId "" := by
  rw [effect?, effect?]
  cases Failure.ofFault (paramEntries params) with
  | error f => rfl
  | ok es =>
    cases b with
    | executeGraph =>
      dsimp only [bind, Except.bind]
      cases Failure.ofDecoded ((Decode.textKeys es).under (.key "detail")) with
      | error f => rfl
      | ok detail => rfl
    | navigate =>
      dsimp only [bind, Except.bind, Navigation.effect?]
      split
      · rfl
      · cases Navigation.state (Entries.get (Keyed.named es) "state") with
        | error f => rfl
        | ok state =>
          dsimp only
          split <;> rfl

namespace Turn

variable {t u v : Turn}

namespace Alike

theorem refl (t : Turn) : Alike t t :=
  ⟨rfl, rfl, rfl, rfl, rfl⟩

theorem symm (same : Alike t u) : Alike u t :=
  ⟨same.handlers.symm, same.params.symm, same.actions.symm, same.effects.symm, same.failure.symm⟩

theorem trans (first : Alike t u) (second : Alike u v) : Alike t v :=
  ⟨second.handlers.trans first.handlers, second.params.trans first.params,
    second.actions.trans first.actions, second.effects.trans first.effects,
    second.failure.trans first.failure⟩

end Alike

theorem alike_setState (t : Turn) (updates : Entries) : Alike t (t.setState updates) := by
  have kept : (t.setState updates).session = (t.session.setState updates).1 := rfl
  obtain same | ⟨state, same⟩ := Session.setState_cases t.session updates
  · exact ⟨by rw [kept, same], by rw [kept, same], rfl, rfl, rfl⟩
  · exact ⟨by rw [kept, same], by rw [kept, same], rfl, rfl, rfl⟩

theorem alike_foldl_setState (updates : List Entries) (t : Turn) :
    Alike t (updates.foldl setState t) := by
  induction updates generalizing t with
  | nil => exact .refl t
  | cons u rest ih => exact (alike_setState t u).trans (ih (t.setState u))

theorem alike_react (t : Turn) (n : Notice) : Alike t (t.react n) :=
  alike_foldl_setState _ t

theorem alike_tell (t : Turn) (n : Notice) : Alike t (t.tell n) :=
  ⟨rfl, rfl, rfl, rfl, rfl⟩

theorem alike_call (t : Turn) (overriding : Bool) (h : HostHandler) (c : ActionCall) :
    Alike t (t.call overriding h c) :=
  ((alike_tell t _).trans (alike_setState _ _)).trans (alike_react _ _)

theorem alike_increment (t : Turn) (target : Option String) : Alike t (t.increment target) := by
  cases target with
  | none => exact .refl t
  | some key => exact alike_setState t _

namespace Alike

/-- What is done to each of two turns leaves them alike if it leaves each like itself. -/
theorem between {t' u' : Turn} (left : Alike t t') (right : Alike u u') (same : Alike t u) :
    Alike t' u' :=
  (left.symm.trans same).trans right

theorem request (same : Alike t u) {x y : Except Failure (Option Effect)}
    (asked : y.map (·.map (·.under "")) = x.map (·.map (·.under ""))) :
    Alike (t.request x) (u.request y) := by
  rcases x with f | _ | e <;> rcases y with g | _ | d <;>
    simp only [Except.map, Option.map_none, Option.map_some, Except.error.injEq, Except.ok.injEq,
      Option.some.injEq, reduceCtorEq] at asked
  · exact { same with failure := congrArg some asked }
  · exact same
  · refine between (alike_react _ _) (alike_react _ _) { same with effects := ?_ }
    simp [tell, same.effects, asked]

theorem run (same : Alike t u) (trigger trigger' nodeId : String) (payload : Value)
    (key action : String) (params : Value) :
    Alike (t.run trigger nodeId payload key action params)
      (u.run trigger' nodeId payload key action params) := by
  have taken : Alike (t.taking action) (u.taking action) :=
    { same with actions := congrArg (· ++ [action]) same.actions }
  rw [Turn.run, Turn.run]
  dsimp only
  cases params.entries with
  | error f => exact { taken with failure := rfl }
  | ok entries =>
    dsimp only
    obtain way | ⟨k, l, way, way'⟩ := Session.route_cases same.handlers same.params action
    · rw [way]
      cases t.session.route action with
      | override h => exact between (alike_call _ _ _ _) (alike_call _ _ _ _) taken
      | handler h => exact between (alike_call _ _ _ _) (alike_call _ _ _ _) taken
      | builtIn b => exact taken.request (by rw [BuiltIn.map_effect?, BuiltIn.map_effect?])
      | param name =>
        exact between ((alike_tell _ _).trans (alike_react _ _))
          ((alike_tell _ _).trans (alike_react _ _)) taken
      | increment target => exact between (alike_increment _ _) (alike_increment _ _) taken
      | unknown => exact taken
    · rw [way, way']
      exact between (alike_increment _ _) (alike_increment _ _) taken

theorem runAll (same : Alike t u) (trigger trigger' nodeId : String) (payload : Value)
    (events : List (String × ViewEvent)) :
    Alike (t.runAll trigger nodeId payload events) (u.runAll trigger' nodeId payload events) := by
  rw [Turn.runAll, Turn.runAll]
  induction events generalizing t u with
  | nil => exact same
  | cons e rest ih =>
    refine ih ?_
    rw [runEvent, runEvent, same.failure]
    split
    · exact same
    · split
      · exact same.run ..
      · exact same

end Alike

end Turn

namespace Session

variable {s : Session} {trigger trigger' : String}

theorem regardless_finish (same : ∀ f : ViewFields, f.matching trigger' = f.matching trigger)
    (s : Session) (payload : Value) (chain : List ViewFields) (told : List Notice)
    (report : DispatchReport) :
    (s.finish trigger' payload chain told report).outcome.map (·.regardless) =
      (s.finish trigger payload chain told report).outcome.map (·.regardless) := by
  have answers : (s.answer trigger' payload chain).1 = (s.answer trigger payload chain).1 ∧
      (s.answer trigger payload chain).2.Alike (s.answer trigger' payload chain).2 := by
    rw [answer, answer]
    simp only [same]
    split
    · exact ⟨rfl, .refl _⟩
    · exact ⟨rfl, .runAll (.refl _) ..⟩
  obtain ⟨handledBy, alike⟩ := answers
  rw [finish, finish]
  dsimp only
  rw [alike.failure]
  cases (s.answer trigger payload chain).2.failure with
  | some f => rfl
  | none =>
    simp only [Except.map, DispatchReport.regardless, handledBy, alike.actions, alike.effects]

theorem regardless_dispatch (click : isClick trigger' = isClick trigger)
    (same : ∀ f : ViewFields, f.matching trigger' = f.matching trigger)
    (s : Session) (target : EventTarget) (payload : Value) :
    (s.dispatch trigger' target payload).outcome.map (·.regardless) =
      (s.dispatch trigger target payload).outcome.map (·.regardless) := by
  rw [dispatch, dispatch]
  cases s.chainOf target with
  | error f => rfl
  | ok found =>
    obtain ⟨s, chain⟩ := found
    cases chain with
    | nil => rfl
    | cons f above =>
      simp only [dispatchAlong, click]
      split
      · exact regardless_finish same ..
      · split
        · rfl
        · exact regardless_finish same ..

/-- A handler name is its own just when it is spelled as one. Then every element has the same events
for it as for the trigger, and a dispatch under it does the same; otherwise no event of an element
is one for both. -/
theorem dispatch_handler (t : String) :
    (Trigger.handler (Trigger.handler t) = Trigger.handler t ↔ Trigger.Settles t) ∧
      (Trigger.Settles t ->
        (∀ f : ViewFields, f.matching (Trigger.handler t) = f.matching t) ∧
        ∀ (s : Session) target payload,
          (s.dispatch (Trigger.handler t) target payload).outcome.map (·.regardless) =
            (s.dispatch t target payload).outcome.map (·.regardless)) ∧
      (¬ Trigger.Settles t ->
        ∀ f : ViewFields, ∀ e ∈ f.matching t, e ∉ f.matching (Trigger.handler t)) := by
  refine ⟨Trigger.handler_handler_eq_iff, fun settles => ?_, fun unsettled f e mem mem' => ?_⟩
  · have own := Trigger.handler_handler_eq_iff.mpr settles
    have same (f : ViewFields) : f.matching (Trigger.handler t) = f.matching t := by
      simp only [ViewFields.matching, Trigger.sameEvent, own]
    exact ⟨same, regardless_dispatch (by rw [isClick, isClick, own]) same⟩
  · have first := beq_iff_eq.mp (List.mem_filter.mp mem).2
    have second := beq_iff_eq.mp (List.mem_filter.mp mem').2
    exact unsettled (Trigger.handler_handler_eq_iff.mp (second.symm.trans first))

/-- A button with an action for a trigger. -/
def ofButton (trigger : String) : Session where
  stage := stageOf
    { version := "1.2",
      root := .node { id := "save", type := "button", events := [
        ("press", { trigger, action := some "onSave" })] } [] }
    []

/-- A button for double clicks answers to their handler name as to the trigger. -/
theorem ofButton_answers :
    Trigger.Settles "dblclick" ∧ Trigger.handler "dblclick" = "onDoubleClick" ∧
      ((ofButton "double-click").dispatch "dblclick" (.node "save") .null).outcome.toOption =
        some { targetId := some "save", handledBy := some "save", actions := ["onSave"] } ∧
      ((ofButton "double-click").dispatch "onDoubleClick" (.node "save") .null).outcome.map
          (·.regardless) =
        ((ofButton "double-click").dispatch "dblclick" (.node "save") .null).outcome.map
          (·.regardless) := by
  have name : Trigger.handler "dblclick" = "onDoubleClick" := by decide +kernel
  have settles : Trigger.Settles "dblclick" := .inr (.inl (by decide +kernel))
  have same := ((dispatch_handler "dblclick").2.1 settles).2 (ofButton "double-click")
    (.node "save") .null
  rw [name] at same
  exact ⟨settles, name, by decide +kernel, same⟩

/-- A button for a trigger that begins with a digit does not answer to its handler name. -/
theorem ofButton_ignores :
    Trigger.handler "3d-touch" = "on3dTouch" ∧ Trigger.handler "on3dTouch" = "onOn3dTouch" ∧
      ((ofButton "3d-touch").dispatch "3d-touch" (.node "save") .null).outcome.toOption =
        some { targetId := some "save", handledBy := some "save", actions := ["onSave"] } ∧
      ((ofButton "3d-touch").dispatch "on3dTouch" (.node "save") .null).outcome.toOption =
        some { targetId := some "save" } := by
  decide +kernel

end Session

end ViewDoc
