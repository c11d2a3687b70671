import ViewDoc.Failure
import ViewDoc.Icon.Registry
/-!
Running loads to their end, for loaders whose outcomes are written down. All running loads take
turns in order of creation; a loader lets a fixed number of turns pass before it is done.
-/

set_option autoImplicit false

namespace ViewDoc

/-- A loader: the outcomes of its attempts, the last of which repeats, and the turns that an attempt
lets pass. -/
structure IconScript where
  outcomes : List LoadOutcome
  pauses : Nat := 0
  attempts : Nat := 0

/-- A registry with the loaders of its records by serial. -/
structure IconHost where
  registry : IconRegistry := {}
  scripts : List (Nat × IconScript) := []

/-- A load on its way: the turns that are left, and how it will end. -/
structure RunningLoad where
  key : Nat
  pauses : Nat
  outcome : LoadOutcome

/-- What a caller that asked for a provider by an id learns when the load that it awaits ends:
nothing, or an error. -/
def LoadOutcome.answer (id : String) : LoadOutcome -> Option ReportedError
  | .loaded _ => none
  | .failed reason =>
    some ⟨.iconProvider,
      "Icon provider '" ++ IconProvider.normalizeId id ++ "' failed to load: " ++ reason, none⟩

namespace IconRequest

/-- What a caller learns at once, unless it awaits a load. -/
def answer? (id : String) : IconRequest -> Option (Option ReportedError)
  | .unknown => some (some ⟨.iconProvider, "Unknown icon provider '" ++ id ++ "'", none⟩)
  | .ready => some none
  | .awaits _ => none

/-- What a caller learns when the load that it awaits cannot start. -/
def refusal (id : String) : ReportedError :=
  ⟨.iconProvider, "Icon provider '" ++ IconProvider.normalizeId id ++ "' has no loader", none⟩

end IconRequest

namespace IconScript

/-- The outcome of the next attempt. -/
def outcome (s : IconScript) : LoadOutcome :=
  (s.outcomes[s.attempts]?.or s.outcomes.getLast?).getD (.failed "")

end IconScript

namespace IconHost

/-- Registers a provider that is ready. -/
def register (h : IconHost) (id : String) (provider : IconProvider) : IconHost × List IconState :=
  let (registry, seen) := h.registry.register id provider
  ({ h with registry }, seen)

/-- Registers a loader. -/
def registerLoader (h : IconHost) (id : String) (label : Option String) (script : IconScript) :
    IconHost × List IconState :=
  let (registry, seen) := h.registry.registerLoader id label
  ({ registry, scripts := h.scripts ++ [(h.registry.next, script)] }, seen)

private def script? (h : IconHost) (serial : Nat) : Option IconScript :=
  (h.scripts.find? fun s => s.1 == serial).map (·.2)

/-- Starts the loads of the given keys in order. -/
private def startAll (h : IconHost) : List Nat -> IconHost × List IconState × List RunningLoad
  | [] => (h, [], [])
  | key :: rest =>
    match h.registry.load? key with
    | none => h.startAll rest
    | some load =>
      let refused := h.registry.refuses key
      let script := (h.script? load.record.serial).getD ⟨[], 0, 0⟩
      let (registry, seen) := h.registry.start key
      let scripts := h.scripts.map fun s =>
        if s.1 = load.record.serial then (s.1, { s.2 with attempts := s.2.attempts + 1 }) else s
      let running : RunningLoad := ⟨key, script.pauses, script.outcome⟩
      if refused then
        let (h, seen', running') := IconHost.startAll { h with registry } rest
        (h, seen ++ seen', running')
      else if script.pauses = 0 then
        let (registry, ended) := registry.finish key script.outcome
        let (h, seen', running') := IconHost.startAll { registry, scripts } rest
        (h, seen ++ ended ++ seen', running :: running')
      else
        let (h, seen', running') := IconHost.startAll { registry, scripts } rest
        (h, seen ++ seen', running :: running')

/-- Finishes the loads whose turns are over at a moment. -/
private def finishAt (h : IconHost) (moment : Nat) : List RunningLoad -> IconHost × List IconState
  | [] => (h, [])
  | load :: rest =>
    if load.pauses = moment then
      let (registry, seen) := h.registry.finish load.key load.outcome
      let (h, seen') := IconHost.finishAt { h with registry } moment rest
      (h, seen ++ seen')
    else h.finishAt moment rest

private def finishFrom (h : IconHost) (running : List RunningLoad) (moment : Nat) :
    Nat -> IconHost × List IconState
  | 0 => (h, [])
  | left + 1 =>
    let (h, seen) := h.finishAt moment running
    let (h, seen') := h.finishFrom running (moment + 1) left
    (h, seen ++ seen')

private def requestAll (h : IconHost) : List String -> IconHost × List (String × IconRequest)
  | [] => (h, [])
  | id :: rest =>
    let (registry, request) := h.registry.request id
    let (h, requests) := IconHost.requestAll { h with registry } rest
    (h, (id, request) :: requests)

/-- What a caller learns in the end: nothing, or an error. -/
private def answerTo (running : List RunningLoad) (id : String) :
    IconRequest -> Option ReportedError
  | .awaits key =>
    match running.find? fun l => l.key == key with
    | some load => load.outcome.answer id
    | none => some (IconRequest.refusal id)
  | request => (request.answer? id).getD none

/-- Asks for several providers at once and runs all loads to their end. Gives the answer to each
caller, and what observers saw. -/
def ensureReady (h : IconHost) (ids : List String) :
    IconHost × List (Option ReportedError) × List IconState :=
  let (h, requests) := h.requestAll ids
  let (h, seen, running) := h.startAll (h.registry.loads.map (·.key))
  let longest := running.foldl (fun n l => max n l.pauses) 0
  let (h, seen') := h.finishFrom running 1 longest
  (h, requests.map fun r => answerTo running r.1 r.2, seen ++ seen')

end IconHost

end ViewDoc
