import ViewDoc.Value.Entries
/-!
Observers under names. Every observer is told everything in turn, in the order of subscription.
-/

set_option autoImplicit false

namespace ViewDoc

/-- The subscribed observers in order, each with the number of its subscription, and the latest
subscription under every name. -/
structure Observers where
  current : List (Nat × String) := []
  latest : List (String × Nat) := []
  next : Nat := 0
  deriving Repr, Inhabited

namespace Observers

/-- Subscribes an observer under a name. -/
def subscribe (o : Observers) (name : String) : Observers :=
  { current := o.current ++ [(o.next, name)], latest := Entries.set o.latest name o.next,
    next := o.next + 1 }

/-- Ends a subscription, if it has not ended. -/
def drop (o : Observers) (number : Nat) : Observers :=
  { o with current := o.current.filter fun s => s.1 ≠ number }

/-- Ends the latest subscription under a name, if it has not ended. -/
def unsubscribe (o : Observers) (name : String) : Observers :=
  match Entries.get? o.latest name with
  | some number => o.drop number
  | none => o

/-- Ends all subscriptions. -/
def clear (o : Observers) : Observers :=
  { o with current := [] }

/-- The names of the observers in the order in which they are told. -/
def names (o : Observers) : List String :=
  o.current.map (·.2)

/-- What is told under which subscription when the given things come about in turn. -/
def tellings {α : Type} (o : Observers) (things : List α) : List ((Nat × String) × α) :=
  things.flatMap fun thing => o.current.map fun subscription => (subscription, thing)

/-- Who is told what when the given things come about in turn. -/
def told {α : Type} (o : Observers) (things : List α) : List (String × α) :=
  (o.tellings things).map fun telling => (telling.1.2, telling.2)

end Observers

end ViewDoc
