import ViewDoc.Icon.Registry
/-!
Runs of a registry of icon providers. Between two suspensions one thing happens: a registration, a
request, the start of a load, or its end. Loads are scheduled by requests only, start some time
later, and end some time after that; everything else can happen at any time.
-/

set_option autoImplicit false

namespace ViewDoc

/-- What can happen to a registry. -/
inductive IconEvent where
  | register (id : String) (provider : IconProvider)
  | registerLoader (id : String) (label : Option String)
  | request (id : String)
  | start (key : Nat)
  | finish (key : Nat) (outcome : LoadOutcome)

/-- The id under which an event registers a provider, ready or with a loader. -/
def IconEvent.registers? : IconEvent -> Option String
  | .register id _ | .registerLoader id _ =>
    if IconProvider.normalizeId id = "" then none else some (IconProvider.normalizeId id)
  | _ => none

namespace IconRegistry

/-- The registry after an event, with what observers are told. -/
def perform (r : IconRegistry) : IconEvent -> IconRegistry × List IconState
  | .register id provider => r.register id provider
  | .registerLoader id label => r.registerLoader id label
  | .request id => ((r.request id).1, [])
  | .start key => r.start key
  | .finish key outcome => r.finish key outcome

/-- A load can start once, and end after it has started. -/
def Allows (r : IconRegistry) : IconEvent -> Prop
  | .start key => ∃ l ∈ r.loads, l.key = key ∧ l.started = false
  | .finish key _ => ∃ l ∈ r.loads, l.key = key ∧ l.started = true
  | _ => True

/-- A run of events from one registry to another, with what observers are told in turn. -/
inductive Run : IconRegistry -> List IconEvent -> List IconState -> IconRegistry -> Prop where
  | nil {r : IconRegistry} : Run r [] [] r
  | cons {r s : IconRegistry} {e : IconEvent} {events : List IconEvent} {told : List IconState} :
      r.Allows e -> Run (r.perform e).1 events told s ->
      Run r (e :: events) ((r.perform e).2 ++ told) s

instance (r : IconRegistry) : (e : IconEvent) -> Decidable (r.Allows e)
  | .register _ _ => inferInstanceAs (Decidable True)
  | .registerLoader _ _ => inferInstanceAs (Decidable True)
  | .request _ => inferInstanceAs (Decidable True)
  | .start key => inferInstanceAs (Decidable (∃ l ∈ r.loads, l.key = key ∧ l.started = false))
  | .finish key _ => inferInstanceAs (Decidable (∃ l ∈ r.loads, l.key = key ∧ l.started = true))

/-- The registry after events in turn. -/
def performAll (r : IconRegistry) : List IconEvent -> IconRegistry
  | [] => r
  | e :: events => (r.perform e).1.performAll events

/-- Events can happen in turn. -/
def AllowsAll (r : IconRegistry) : List IconEvent -> Prop
  | [] => True
  | e :: events => r.Allows e ∧ (r.perform e).1.AllowsAll events

instance decidableAllowsAll (r : IconRegistry) :
    (events : List IconEvent) -> Decidable (r.AllowsAll events)
  | [] => inferInstanceAs (Decidable True)
  | e :: events =>
    have := decidableAllowsAll (r.perform e).1 events
    inferInstanceAs (Decidable (r.Allows e ∧ (r.perform e).1.AllowsAll events))

/-- A registry that a run from the empty one leads to. -/
def Reachable (r : IconRegistry) : Prop :=
  ∃ events told, Run {} events told r

/-- What every event keeps, every run keeps. -/
theorem Run.keeps {P : IconRegistry -> Prop}
    (step : ∀ r e, P r -> r.Allows e -> P (r.perform e).1) {r s : IconRegistry}
    {events : List IconEvent} {told : List IconState} (run : Run r events told s) (start : P r) :
    P s := by
  induction run with
  | nil => exact start
  | cons allows _ ih => exact ih (step _ _ start allows)

theorem allowsAll_append {r : IconRegistry} {before after : List IconEvent} :
    r.AllowsAll (before ++ after) ↔
      r.AllowsAll before ∧ (r.performAll before).AllowsAll after := by
  induction before generalizing r with
  | nil => simp [AllowsAll, performAll]
  | cons e rest ih =>
    rw [List.cons_append, AllowsAll, AllowsAll, ih, and_assoc]
    rfl

theorem run_performAll {r : IconRegistry} {events : List IconEvent} (allows : r.AllowsAll events) :
    ∃ told, Run r events told (r.performAll events) := by
  induction events generalizing r with
  | nil => exact ⟨[], .nil⟩
  | cons e events ih =>
    obtain ⟨told, run⟩ := ih allows.2
    exact ⟨_, .cons allows.1 run⟩

theorem reachable_performAll {events : List IconEvent} (allows : AllowsAll {} events) :
    Reachable (performAll {} events) := by
  obtain ⟨told, run⟩ := run_performAll allows
  exact ⟨events, told, run⟩

end IconRegistry

end ViewDoc
