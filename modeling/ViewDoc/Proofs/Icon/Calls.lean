import ViewDoc.Icon.Schedule
import ViewDoc.Proofs.Icon.Current
/-!
Calls for readiness that run beside one another. A call is answered at once, or awaits a load and is
answered when this load ends. The main statement is that all calls that come while a load is on its
way share this load and its outcome, that a loader is invoked once for each call that finds neither
a provider that is ready nor a load in flight, and never after it has succeeded.
-/

set_option autoImplicit false

namespace ViewDoc

/-- A call for readiness: the id as it was written, what the call found, whether that was neither a
provider that is ready nor a load in flight, and the answer, once there is one. -/
structure IconCall where
  id : String
  found : IconRequest
  opens : Bool
  answer : Option (Option ReportedError)

/-- A registry with the calls that were made to it, the ids whose loaders were invoked, and the
loads that have ended, all in order. -/
structure IconCalls where
  registry : IconRegistry := {}
  calls : List IconCall := []
  invoked : List String := []
  ended : List (Nat × LoadOutcome) := []

namespace IconCall

/-- A call after a load has ended that gives an answer to every id. -/
def learns (key : Nat) (answer : String -> Option ReportedError) (call : IconCall) : IconCall :=
  if call.found = .awaits key then { call with answer := some (answer call.id) } else call

/-- What a call is, whatever becomes of it. -/
def asked (call : IconCall) : String × IconRequest × Bool :=
  (call.id, call.found, call.opens)

@[simp] theorem asked_learns (key : Nat) (answer : String -> Option ReportedError)
    (call : IconCall) : (call.learns key answer).asked = call.asked := by
  unfold learns
  split <;> rfl

end IconCall

namespace IconRegistry

/-- A call for an id as it is made. -/
def call (r : IconRegistry) (id : String) : IconCall :=
  { id, found := (r.request id).2, opens := r.opens id, answer := (r.request id).2.answer? id }

/-- The id whose loader an event invokes. -/
def invokes (r : IconRegistry) : IconEvent -> List String
  | .start key => if r.refuses key then [] else (r.load? key).toList.map fun l => l.record.id
  | _ => []

end IconRegistry

/-- The load that an event ends, with its outcome. -/
def IconEvent.ends : IconEvent -> List (Nat × LoadOutcome)
  | .finish key outcome => [(key, outcome)]
  | _ => []

namespace IconCalls

/-- The calls after an event. -/
def callsAfter (c : IconCalls) : IconEvent -> List IconCall
  | .request id => c.calls ++ [c.registry.call id]
  | .start key =>
    if c.registry.refuses key then c.calls.map (.learns key fun id => some (IconRequest.refusal id))
    else c.calls
  | .finish key outcome => c.calls.map (.learns key outcome.answer)
  | .register .. | .registerLoader .. => c.calls

/-- What an event does. -/
def perform (c : IconCalls) (e : IconEvent) : IconCalls where
  registry := (c.registry.perform e).1
  calls := c.callsAfter e
  invoked := c.invoked ++ c.registry.invokes e
  ended := c.ended ++ e.ends

/-- What events do in turn. -/
def performAll (c : IconCalls) : List IconEvent -> IconCalls
  | [] => c
  | e :: events => (c.perform e).performAll events

/-- How the load with a key has ended, if it has. -/
def outcome? (c : IconCalls) (key : Nat) : Option LoadOutcome :=
  (c.ended.find? fun e => e.1 == key).map (·.2)

end IconCalls

namespace IconRegistry

variable {r : IconRegistry} {id : String}

/-- The provider of an id is ready. -/
def Settled (r : IconRegistry) (id : String) : Prop :=
  ∃ record, Entries.get? r.records id = some record ∧ record.status = .ready

/-- A load of an id is scheduled and has not started. -/
def Pending (r : IconRegistry) (id : String) : Prop :=
  ∃ l ∈ r.loads, l.record.id = id ∧ l.started = false

theorem Settled.leaves (settled : Settled r id) {s : IconRegistry} (leaves : Leaves r s id) :
    Settled s id := by
  rw [Settled, leaves.record]
  exact settled

/-- While the provider of an id is ready, no load of the id is on its way. -/
theorem Settled.id_ne (settled : Settled r id) (h : Sound r) (current : Current r id)
    {l : IconLoad} (mem : l ∈ r.loads) : l.record.id ≠ id := by
  intro own
  obtain ⟨record, registered, ready⟩ := settled
  obtain rfl := Option.some.inj (registered.symm.trans (current l mem own))
  exact (h.status l mem).1 ready

theorem Settled.change (settled : Settled r id) (h : Sound r)
    {l : IconLoad} (mem : l ∈ r.loads) {f : IconRecord -> IconRecord} {s : IconRegistry}
    (records : s.records = (r.change l.record.serial f).records) : Settled s id := by
  obtain ⟨record, registered, ready⟩ := settled
  refine ⟨record, ?_, ready⟩
  rw [records]
  refine get?_change_of_ne registered fun serial => ?_
  obtain rfl := h.eq_of_serial mem (knows_registered registered) serial
  exact (h.status l mem).1 ready

/-- A provider that is ready stays ready. -/
theorem Settled.perform (settled : Settled r id) (h : Sound r) {e : IconEvent}
    (allows : r.Allows e) (kept : e.registers? ≠ some id) : Settled (r.perform e).1 id := by
  cases e with
  | register _ _ | registerLoader _ _ => exact settled.leaves (leaves_registration rfl kept)
  | request written =>
    rw [IconRegistry.perform, Settled, request_records]
    exact settled
  | start key =>
    obtain ⟨l, mem, rfl, -⟩ := allows
    exact settled.change h mem (h.start_records mem)
  | finish key outcome =>
    obtain ⟨l, mem, rfl, -⟩ := allows
    exact settled.change h mem (h.finish_records mem outcome)

/-- A start invokes the loader of the id of its load. -/
theorem Sound.invokes_start (h : Sound r) {l : IconLoad} (mem : l ∈ r.loads) :
    r.invokes (.start l.key) = [l.record.id] := by
  rw [invokes, h.refuses_eq_false, h.load?_eq mem]
  rfl

/-- A provider that is ready has no loader invoked. -/
theorem Settled.not_mem_invokes (settled : Settled r id) (h : Sound r) (current : Current r id)
    {e : IconEvent} (allows : r.Allows e) : id ∉ r.invokes e := by
  cases e with
  | start key =>
    obtain ⟨l, mem, rfl, -⟩ := allows
    rw [h.invokes_start mem, List.mem_singleton]
    exact (settled.id_ne h current mem).symm
  | _ => exact List.not_mem_nil

theorem pending_scheduling {record : IconRecord} :
    Pending (r.scheduling record) id ↔ Pending r id ∨ record.id = id := by
  simp [Pending, mem_scheduling_iff, or_and_right, exists_or]

/-- An id has one load at a time, so that the start of a load leaves none of its id to wait. -/
theorem Sound.pending_start (h : Sound r) {l : IconLoad} (mem : l ∈ r.loads) :
    Pending (r.start l.key).1 id ↔ Pending r id ∧ l.record.id ≠ id := by
  rw [h.start_eq mem]
  constructor
  · rintro ⟨m, held, rfl, fresh⟩
    rcases (mem_opening_iff mem).mp held with rfl | ⟨old, other⟩
    · cases fresh
    · refine ⟨⟨m, old, rfl, fresh⟩, fun own => other ?_⟩
      exact congrArg IconLoad.key (h.eq_of_id old mem own.symm)
  · rintro ⟨⟨m, old, rfl, fresh⟩, other⟩
    have apart : m.key ≠ l.key := fun key => other (by rw [h.eq_of_key old mem key])
    exact ⟨m, (mem_opening_iff mem).mpr (.inr ⟨old, apart⟩), rfl, fresh⟩

theorem Sound.pending_finish (h : Sound r) {l : IconLoad} (mem : l ∈ r.loads)
    (started : l.started = true) {outcome : LoadOutcome} :
    Pending (r.finish l.key outcome).1 id ↔ Pending r id := by
  rw [h.finish_eq mem]
  constructor
  · rintro ⟨m, held, own, fresh⟩
    exact ⟨m, (mem_without_iff.mp held).1, own, fresh⟩
  · rintro ⟨m, old, own, fresh⟩
    refine ⟨m, mem_without_iff.mpr ⟨old, fun key => ?_⟩, own, fresh⟩
    rw [h.eq_of_key old mem key, started] at fresh
    cases fresh

/-- A call that awaits a load is not answered as it is made. -/
theorem answer_call {written : String} {key : Nat} (awaits : (r.call written).found = .awaits key) :
    (r.call written).answer = none := by
  have found : (r.request written).2 = .awaits key := awaits
  simp only [call, found, IconRequest.answer?]

end IconRegistry

namespace IconCalls

open IconRegistry (Sound Current Settled Pending Reachable)

variable {c d : IconCalls} {id : String}

/-- The number of calls for an id that found its provider neither ready nor in flight. -/
def opened (c : IconCalls) (id : String) : Nat :=
  c.calls.countP fun call => call.opens && IconProvider.normalizeId call.id == id

/-- The loader of an id was invoked for every call that opened a load of it, but for one whose load
has not started. -/
structure Tallied (c : IconCalls) (id : String) : Prop where
  pending : Pending c.registry id -> c.opened id = c.invoked.count id + 1
  started : ¬ Pending c.registry id -> c.opened id = c.invoked.count id

/-- Every call that awaits a load is answered by the end of the load, and waits as long as the load
is on its way. Loads that have ended are on their way no longer. -/
structure Attended (c : IconCalls) : Prop where
  sound : Sound c.registry
  past : ∀ e ∈ c.ended, e.1 < c.registry.next ∧ ∀ l ∈ c.registry.loads, l.key ≠ e.1
  below : ∀ call ∈ c.calls, ∀ key, call.found = .awaits key -> key < c.registry.next
  answers : ∀ call ∈ c.calls, ∀ key, call.found = .awaits key ->
    call.answer = (c.outcome? key).map fun outcome => outcome.answer call.id
  waits : ∀ call ∈ c.calls, ∀ key, call.found = .awaits key -> c.outcome? key = none ->
    ∃ l ∈ c.registry.loads, l.key = key

theorem registry_perform (c : IconCalls) (e : IconEvent) :
    (c.perform e).registry = (c.registry.perform e).1 :=
  rfl

theorem invoked_perform (c : IconCalls) (e : IconEvent) :
    (c.perform e).invoked = c.invoked ++ c.registry.invokes e :=
  rfl

theorem calls_perform (c : IconCalls) (e : IconEvent) : (c.perform e).calls = c.callsAfter e :=
  rfl

theorem asked_callsAfter (c : IconCalls) (e : IconEvent) :
    ∃ more, (c.callsAfter e).map IconCall.asked = c.calls.map IconCall.asked ++ more := by
  have learnt (key : Nat) (answer : String -> Option ReportedError) :
      (c.calls.map (.learns key answer)).map IconCall.asked = c.calls.map IconCall.asked := by
    simp [Function.comp_def]
  cases e with
  | request written => exact ⟨[(c.registry.call written).asked], by simp [callsAfter]⟩
  | start key =>
    refine ⟨[], ?_⟩
    rw [callsAfter, List.append_nil]
    split
    · exact learnt _ _
    · rfl
  | finish key outcome => exact ⟨[], by rw [callsAfter, learnt, List.append_nil]⟩
  | register other provider => exact ⟨[], (List.append_nil _).symm⟩
  | registerLoader other label => exact ⟨[], (List.append_nil _).symm⟩

theorem opened_of_calls (same : d.calls = c.calls) : d.opened id = c.opened id := by
  rw [opened, opened, same]

theorem opened_learns {key : Nat} {answer : String -> Option ReportedError}
    (same : d.calls = c.calls.map (IconCall.learns key answer)) : d.opened id = c.opened id := by
  rw [opened, opened, same, List.countP_map]
  refine List.countP_congr fun call _ => ?_
  have same := call.asked_learns key answer
  simp only [IconCall.asked, Prod.mk.injEq] at same
  rw [Function.comp_apply, same.1, same.2.2]

theorem opened_request (c : IconCalls) (written : String) :
    (c.perform (.request written)).opened id = c.opened id +
      if c.registry.opens written = true ∧ IconProvider.normalizeId written = id then 1 else 0 := by
  rw [opened, calls_perform, callsAfter, List.countP_append, List.countP_singleton]
  simp [opened, IconRegistry.call]

theorem Tallied.of_same (tallied : Tallied c id)
    (pending : Pending d.registry id ↔ Pending c.registry id) (opened : d.opened id = c.opened id)
    (invoked : d.invoked.count id = c.invoked.count id) : Tallied d id := by
  refine ⟨fun waits => ?_, fun none => ?_⟩
  · rw [opened, invoked]
    exact tallied.pending (pending.mp waits)
  · rw [opened, invoked]
    exact tallied.started (mt pending.mpr none)

/-- A call that opens a load leaves one that waits for its start: one invocation is owed from now
on. -/
theorem Tallied.request (tallied : Tallied c id) (h : Sound c.registry) (written : String) :
    Tallied (c.perform (.request written)) id := by
  have invoked : (c.perform (.request written)).invoked.count id = c.invoked.count id := by
    simp [invoked_perform, IconRegistry.invokes]
  have registry : (c.perform (.request written)).registry = (c.registry.request written).1 := by
    rw [registry_perform, IconRegistry.perform]
  rcases h.request_cases written with ⟨shut, found⟩ | ⟨opens, record, found, alone, new⟩
  · refine tallied.of_same ?_ (by simp [opened_request, shut]) invoked
    rw [registry]
    rcases found with same | same | ⟨l, -, same⟩ <;> rw [same]
  · have own : record.id = IconProvider.normalizeId written := h.keyed _ record found
    have pending : Pending (c.perform (.request written)).registry id ↔
        Pending c.registry id ∨ IconProvider.normalizeId written = id := by
      rw [registry, new, IconRegistry.pending_scheduling, own]
    by_cases same : IconProvider.normalizeId written = id
    · subst same
      have before : ¬ Pending c.registry (IconProvider.normalizeId written) := by
        rintro ⟨l, mem, owner, -⟩
        exact alone l mem owner
      refine ⟨fun _ => ?_, fun none => absurd (pending.mpr (.inr rfl)) none⟩
      rw [opened_request, invoked, tallied.started before, if_pos ⟨opens, rfl⟩]
    · refine tallied.of_same (by simp [pending, same]) ?_ invoked
      simp [opened_request, same]

/-- The start of a load is the invocation that was owed for it. -/
theorem Tallied.start (tallied : Tallied c id) (h : Sound c.registry) {l : IconLoad}
    (mem : l ∈ c.registry.loads) (waiting : l.started = false) :
    Tallied (c.perform (.start l.key)) id := by
  have calls : (c.perform (.start l.key)).opened id = c.opened id := by
    refine opened_of_calls ?_
    rw [calls_perform, callsAfter, h.refuses_eq_false]
    rfl
  have invoked : (c.perform (.start l.key)).invoked.count id =
      c.invoked.count id + [l.record.id].count id := by
    rw [← List.count_append, ← h.invokes_start mem, invoked_perform]
  have pending : Pending (c.perform (.start l.key)).registry id ↔
      Pending c.registry id ∧ l.record.id ≠ id := by
    rw [registry_perform, IconRegistry.perform, h.pending_start mem]
  by_cases own : l.record.id = id
  · refine ⟨fun still => absurd own (pending.mp still).2, fun _ => ?_⟩
    rw [calls, invoked, tallied.pending ⟨l, mem, own, waiting⟩, own, List.count_singleton_self]
  · exact tallied.of_same (by simp [pending, own]) calls (by simp [invoked, own])

theorem Tallied.finish (tallied : Tallied c id) (h : Sound c.registry) {l : IconLoad}
    (mem : l ∈ c.registry.loads) (started : l.started = true) (outcome : LoadOutcome) :
    Tallied (c.perform (.finish l.key outcome)) id := by
  refine tallied.of_same ?_ (opened_learns (by rw [calls_perform, callsAfter]))
    (by simp [invoked_perform, IconRegistry.invokes])
  rw [registry_perform, IconRegistry.perform, h.pending_finish mem started]

theorem Tallied.perform (tallied : Tallied c id) (h : Sound c.registry) {e : IconEvent}
    (allows : c.registry.Allows e) : Tallied (c.perform e) id := by
  cases e with
  | register _ _ | registerLoader _ _ =>
    refine tallied.of_same ?_ (opened_of_calls (calls_perform c _))
      (by simp [invoked_perform, IconRegistry.invokes])
    rw [registry_perform, Pending, IconRegistry.loads_registration rfl, Pending]
  | request written => exact tallied.request h written
  | start key =>
    obtain ⟨l, mem, rfl, waiting⟩ := allows
    exact tallied.start h mem waiting
  | finish key outcome =>
    obtain ⟨l, mem, rfl, started⟩ := allows
    exact tallied.finish h mem started outcome

theorem outcome?_eq_none {key : Nat} (gone : ∀ e ∈ c.ended, key ≠ e.1) : c.outcome? key = none := by
  rw [outcome?, Option.map_eq_none_iff, List.find?_eq_none]
  intro e was same
  exact gone e was (beq_iff_eq.mp same).symm

/-- A load that is on its way has not ended. -/
theorem Attended.outcome?_load (attended : Attended c) {l : IconLoad}
    (mem : l ∈ c.registry.loads) : c.outcome? l.key = none :=
  outcome?_eq_none fun e was => (attended.past e was).2 l mem

theorem outcome?_append_of_ne {key ending : Nat} {outcome : LoadOutcome} (other : key ≠ ending)
    (ended : d.ended = c.ended ++ [(ending, outcome)]) : d.outcome? key = c.outcome? key := by
  rw [outcome?, outcome?, ended, List.find?_append, List.find?_singleton]
  simp [other.symm]

/-- A key has the first outcome that is noted for it, which for a load on its way is the one it ends
with. -/
theorem Attended.outcome?_finish (attended : Attended c) {l : IconLoad}
    (mem : l ∈ c.registry.loads) (outcome : LoadOutcome) :
    (c.perform (.finish l.key outcome)).outcome? l.key = some outcome := by
  have ended : (c.perform (.finish l.key outcome)).ended = c.ended ++ [(l.key, outcome)] := rfl
  have before := attended.outcome?_load mem
  rw [outcome?, Option.map_eq_none_iff] at before
  rw [outcome?, ended, List.find?_append, before]
  simp

/-- The calls after a load has ended are those before it, each with what it learns. -/
theorem exists_of_mem_calls_finish {key : Nat} {outcome : LoadOutcome} {call : IconCall}
    (mem : call ∈ (c.perform (.finish key outcome)).calls) :
    ∃ old ∈ c.calls, old.learns key outcome.answer = call ∧ old.found = call.found := by
  rw [calls_perform, callsAfter] at mem
  obtain ⟨old, held, rfl⟩ := List.mem_map.mp mem
  exact ⟨old, held, rfl, congrArg (fun a => a.2.1) (old.asked_learns _ _).symm⟩

/-- Calls that wait for a load on its way may be added, as long as no load ends. -/
theorem Attended.extend (attended : Attended c) (sound : Sound d.registry) (more : List IconCall)
    (calls : d.calls = c.calls ++ more) (ended : d.ended = c.ended)
    (next : c.registry.next ≤ d.registry.next)
    (kept : ∀ l ∈ c.registry.loads, ∃ m ∈ d.registry.loads, m.key = l.key)
    (origin : ∀ m ∈ d.registry.loads,
      (∃ l ∈ c.registry.loads, l.key = m.key) ∨ c.registry.next ≤ m.key)
    (waiting : ∀ call ∈ more, ∀ key, call.found = .awaits key ->
      call.answer = none ∧ ∃ l ∈ d.registry.loads, l.key = key) : Attended d := by
  have past : ∀ e ∈ d.ended, e.1 < d.registry.next ∧ ∀ l ∈ d.registry.loads, l.key ≠ e.1 := by
    intro e was
    obtain ⟨below, gone⟩ := attended.past e (ended ▸ was)
    refine ⟨Nat.lt_of_lt_of_le below next, fun m mem same => ?_⟩
    rcases origin m mem with ⟨l, old, key⟩ | later
    · exact gone l old (key.trans same)
    · omega
  have outcome (key : Nat) : d.outcome? key = c.outcome? key := by rw [outcome?, outcome?, ended]
  refine ⟨sound, past, ?_, ?_, ?_⟩
  all_goals
    intro call mem key awaits
    rw [calls] at mem
  · rcases List.mem_append.mp mem with old | new
    · exact Nat.lt_of_lt_of_le (attended.below call old key awaits) next
    · obtain ⟨-, l, held, rfl⟩ := waiting call new key awaits
      exact sound.loadBelow l held
  · rcases List.mem_append.mp mem with old | new
    · rw [outcome]
      exact attended.answers call old key awaits
    · obtain ⟨unanswered, l, held, rfl⟩ := waiting call new key awaits
      rw [unanswered, outcome?_eq_none fun e was => (past e was).2 l held]
      rfl
  · intro unended
    rcases List.mem_append.mp mem with old | new
    · obtain ⟨l, held, rfl⟩ := attended.waits call old key awaits (outcome key ▸ unended)
      exact kept l held
    · exact (waiting call new key awaits).2

/-- A load that ends answers the calls that wait for it. -/
theorem Attended.finish (attended : Attended c) {l : IconLoad} (mem : l ∈ c.registry.loads)
    (started : l.started = true) (outcome : LoadOutcome) :
    Attended (c.perform (.finish l.key outcome)) := by
  have h := attended.sound
  have ended : (c.perform (.finish l.key outcome)).ended = c.ended ++ [(l.key, outcome)] := rfl
  have registry : (c.perform (.finish l.key outcome)).registry =
      (c.registry.finish l.key outcome).1 := by
    rw [registry_perform, IconRegistry.perform]
  have left (m : IconLoad) : m ∈ (c.registry.finish l.key outcome).1.loads ↔
      m ∈ c.registry.loads ∧ m.key ≠ l.key := by
    rw [h.finish_eq mem]
    exact IconRegistry.mem_without_iff
  have next : (c.registry.finish l.key outcome).1.next = c.registry.next := by
    rw [h.finish_eq mem]
    rfl
  refine ⟨registry ▸ h.finish mem started outcome, ?_, ?_, ?_, ?_⟩
  · intro e was
    rw [registry, next]
    rcases List.mem_append.mp (ended ▸ was) with old | new
    · obtain ⟨below, gone⟩ := attended.past e old
      exact ⟨below, fun m held => gone m ((left m).mp held).1⟩
    · rw [List.mem_singleton.mp new]
      exact ⟨h.loadBelow l mem, fun m held => ((left m).mp held).2⟩
  · intro call was key awaits
    obtain ⟨old, held, -, found⟩ := exists_of_mem_calls_finish was
    rw [registry, next]
    exact attended.below old held key (found.trans awaits)
  · intro call was key awaits
    obtain ⟨old, held, rfl, found⟩ := exists_of_mem_calls_finish was
    rw [awaits] at found
    by_cases same : key = l.key
    · subst same
      rw [attended.outcome?_finish mem, IconCall.learns, if_pos found]
      rfl
    · rw [outcome?_append_of_ne same ended, IconCall.learns, if_neg (by simpa [found] using same)]
      exact attended.answers old held key found
  · intro call was key awaits unended
    obtain ⟨old, held, -, found⟩ := exists_of_mem_calls_finish was
    have other : key ≠ l.key := by
      rintro rfl
      rw [attended.outcome?_finish mem] at unended
      cases unended
    rw [outcome?_append_of_ne other ended] at unended
    obtain ⟨m, mem', rfl⟩ := attended.waits old held key (found.trans awaits) unended
    exact ⟨m, registry ▸ (left m).mpr ⟨mem', other⟩, rfl⟩

/-- What neither adds a call nor starts, schedules or ends a load leaves the calls attended. -/
theorem Attended.of_loads (attended : Attended c) (sound : Sound d.registry)
    (calls : d.calls = c.calls) (ended : d.ended = c.ended)
    (next : c.registry.next ≤ d.registry.next) (loads : d.registry.loads = c.registry.loads) :
    Attended d := by
  refine attended.extend sound [] (by rw [calls, List.append_nil]) ended next ?_ ?_ ?_
  · exact fun l mem => ⟨l, loads ▸ mem, rfl⟩
  · exact fun m mem => .inl ⟨m, loads ▸ mem, rfl⟩
  · exact fun call none => absurd none List.not_mem_nil

/-- A call that is made is answered at once, or waits for a load on its way. -/
theorem Attended.request (attended : Attended c) (written : String) :
    Attended (c.perform (.request written)) := by
  have h := attended.sound
  have registry : (c.perform (.request written)).registry = (c.registry.request written).1 := by
    rw [registry_perform, IconRegistry.perform]
  have sound : Sound (c.perform (.request written)).registry := by
    rw [registry]
    exact h.request written
  have calls : (c.perform (.request written)).calls = c.calls ++ [c.registry.call written] := by
    rw [calls_perform, callsAfter]
  have ended : (c.perform (.request written)).ended = c.ended := List.append_nil _
  have waiting (held : ∀ key, (c.registry.request written).2 = .awaits key ->
        ∃ l ∈ (c.registry.request written).1.loads, l.key = key) :
      ∀ call ∈ [c.registry.call written], ∀ key, call.found = .awaits key ->
        call.answer = none ∧ ∃ l ∈ (c.perform (.request written)).registry.loads, l.key = key := by
    intro call mem key awaits
    obtain rfl := List.mem_singleton.mp mem
    rw [registry]
    exact ⟨IconRegistry.answer_call awaits, held key awaits⟩
  rcases h.request_cases written with ⟨-, found⟩ | ⟨-, record, -, -, new⟩
  · have same : (c.registry.request written).1 = c.registry := by
      rcases found with found | found | ⟨l, -, found⟩ <;> rw [found]
    refine attended.extend sound _ calls ended ?_ ?_ ?_ (waiting ?_)
    · exact Nat.le_of_eq (by rw [registry, same])
    · exact fun l mem => ⟨l, by rwa [registry, same], rfl⟩
    · exact fun m mem => .inl ⟨m, by rwa [registry, same] at mem, rfl⟩
    · intro key awaits
      rw [same]
      rcases found with found | found | ⟨l, mem, found⟩ <;> rw [found] at awaits
      · cases awaits
      · cases awaits
      · exact ⟨l, mem, IconRequest.awaits.inj awaits⟩
  · refine attended.extend sound _ calls ended ?_ ?_ ?_ (waiting ?_)
    · rw [registry, new]
      exact Nat.le_succ _
    · intro l mem
      rw [registry, new]
      exact ⟨l, IconRegistry.mem_scheduling_iff.mpr (.inl mem), rfl⟩
    · intro m mem
      rw [registry, new] at mem
      rcases IconRegistry.mem_scheduling_iff.mp mem with old | rfl
      · exact .inl ⟨m, old, rfl⟩
      · exact .inr (Nat.le_refl _)
    · intro key awaits
      rw [new] at awaits ⊢
      exact ⟨_, IconRegistry.mem_scheduling_iff.mpr (.inr rfl), IconRequest.awaits.inj awaits⟩

theorem Attended.start (attended : Attended c) {l : IconLoad} (mem : l ∈ c.registry.loads) :
    Attended (c.perform (.start l.key)) := by
  have h := attended.sound
  have registry : (c.perform (.start l.key)).registry = (c.registry.start l.key).1 := by
    rw [registry_perform, IconRegistry.perform]
  have loads : (c.registry.start l.key).1.loads = c.registry.opening l := by rw [h.start_eq mem]
  have next : (c.registry.start l.key).1.next = c.registry.next := by
    rw [h.start_eq mem]
    rfl
  have calls : (c.perform (.start l.key)).calls = c.calls ++ [] := by
    rw [calls_perform, callsAfter, h.refuses_eq_false, List.append_nil]
    rfl
  refine attended.extend (registry ▸ h.start mem) _ calls (List.append_nil _) ?_ ?_ ?_ ?_
  · exact Nat.le_of_eq (by rw [registry, next])
  · intro m old
    rw [registry, loads]
    by_cases key : m.key = l.key
    · exact ⟨_, (IconRegistry.mem_opening_iff mem).mpr (.inl rfl), key.symm⟩
    · exact ⟨m, (IconRegistry.mem_opening_iff mem).mpr (.inr ⟨old, key⟩), rfl⟩
  · intro m held
    rw [registry, loads] at held
    rcases (IconRegistry.mem_opening_iff mem).mp held with rfl | ⟨old, -⟩
    · exact .inl ⟨l, mem, rfl⟩
    · exact .inl ⟨m, old, rfl⟩
  · exact fun call none => absurd none List.not_mem_nil

theorem Attended.perform (attended : Attended c) {e : IconEvent} (allows : c.registry.Allows e) :
    Attended (c.perform e) := by
  have sound : Sound (c.perform e).registry := attended.sound.perform allows
  cases e with
  | register _ _ | registerLoader _ _ =>
    refine attended.of_loads sound (calls_perform c _) (List.append_nil _) ?_ ?_
    · rw [registry_perform]
      exact IconRegistry.next_le_registration rfl
    · rw [registry_perform]
      exact IconRegistry.loads_registration rfl
  | request written => exact attended.request written
  | start key =>
    obtain ⟨l, mem, rfl, -⟩ := allows
    exact attended.start mem
  | finish key outcome =>
    obtain ⟨l, mem, rfl, started⟩ := allows
    exact attended.finish mem started outcome

/-- What holds of the calls for an id as long as the id is not registered again. -/
structure Shared (c : IconCalls) (id : String) : Prop where
  attended : Attended c
  tallied : Tallied c id
  current : Current c.registry id

theorem Shared.perform (shared : Shared c id) {e : IconEvent} (allows : c.registry.Allows e)
    (kept : e.registers? ≠ some id) : Shared (c.perform e) id :=
  ⟨shared.attended.perform allows, shared.tallied.perform shared.attended.sound allows,
    shared.current.perform shared.attended.sound allows kept⟩

theorem registry_performAll (c : IconCalls) (events : List IconEvent) :
    (c.performAll events).registry = c.registry.performAll events := by
  induction events generalizing c with
  | nil => rfl
  | cons e rest ih => exact ih (c.perform e)

theorem performAll_append (c : IconCalls) (before after : List IconEvent) :
    c.performAll (before ++ after) = (c.performAll before).performAll after := by
  induction before generalizing c with
  | nil => rfl
  | cons e rest ih => exact ih (c.perform e)

theorem Shared.performAll (shared : Shared c id) {events : List IconEvent}
    (allowed : c.registry.AllowsAll events) (kept : ∀ e ∈ events, e.registers? ≠ some id) :
    Shared (c.performAll events) id := by
  induction events generalizing c with
  | nil => exact shared
  | cons e rest ih =>
    have ⟨first, later⟩ := List.forall_mem_cons.mp kept
    exact ih (shared.perform allowed.1 first) allowed.2 later

/-- Calls stay, in the order in which they were made. -/
theorem asked_performAll (c : IconCalls) (events : List IconEvent) :
    ∃ more, (c.performAll events).calls.map IconCall.asked =
      c.calls.map IconCall.asked ++ more := by
  induction events generalizing c with
  | nil => exact ⟨[], (List.append_nil _).symm⟩
  | cons e rest ih =>
    obtain ⟨first, now⟩ := c.asked_callsAfter e
    obtain ⟨later, ends⟩ := ih (c.perform e)
    rw [calls_perform, now] at ends
    exact ⟨first ++ later, by rw [performAll, ends, List.append_assoc]⟩

/-- A call stays in its place, whatever becomes of it. -/
theorem asked_getElem?_performAll {call : IconCall} {i : Nat} (made : c.calls[i]? = some call)
    (events : List IconEvent) :
    ∃ now, (c.performAll events).calls[i]? = some now ∧ now.asked = call.asked := by
  obtain ⟨more, same⟩ := c.asked_performAll events
  have there : ((c.performAll events).calls.map IconCall.asked)[i]? = some call.asked := by
    rw [same, List.getElem?_append_left, List.getElem?_map, made]
    · rfl
    · rw [List.length_map]
      exact (List.getElem?_eq_some_iff.mp made).1
  rw [List.getElem?_map] at there
  exact Option.map_eq_some_iff.mp there

/-- A loader is not invoked once its provider is ready. -/
theorem Shared.invoked_performAll (shared : Shared c id) (settled : Settled c.registry id)
    {events : List IconEvent} (allowed : c.registry.AllowsAll events)
    (kept : ∀ e ∈ events, e.registers? ≠ some id) :
    (c.performAll events).invoked.count id = c.invoked.count id := by
  induction events generalizing c with
  | nil => rfl
  | cons e rest ih =>
    have ⟨first, later⟩ := List.forall_mem_cons.mp kept
    have h := shared.attended.sound
    have never := settled.not_mem_invokes h shared.current allowed.1
    rw [IconCalls.performAll,
      ih (shared.perform allowed.1 first) (settled.perform h allowed.1 first) allowed.2 later,
      invoked_perform, List.count_append, List.count_eq_zero_of_not_mem never, Nat.add_zero]

end IconCalls

namespace IconRegistry

/-- The calls that events make and answer, from a registry with none. -/
def calls (r : IconRegistry) (events : List IconEvent) : IconCalls :=
  ({ registry := r } : IconCalls).performAll events

/-- A registry without loads of an id has no calls to share them. -/
theorem Sound.shared {r : IconRegistry} {id : String} (h : Sound r)
    (free : ∀ l ∈ r.loads, l.record.id ≠ id) : IconCalls.Shared { registry := r } id := by
  refine ⟨⟨h, ?_, ?_, ?_, ?_⟩, ⟨?_, fun _ => rfl⟩, ?_⟩
  · exact fun e none => absurd none List.not_mem_nil
  · exact fun call none => absurd none List.not_mem_nil
  · exact fun call none => absurd none List.not_mem_nil
  · exact fun call none => absurd none List.not_mem_nil
  · rintro ⟨l, mem, own, -⟩
    exact absurd own (free l mem)
  · exact fun l mem own => absurd own (free l mem)

/-- The end of a load that succeeds leaves its provider ready. -/
theorem Sound.settled_finish {r : IconRegistry} {id : String} (h : Sound r) (current : Current r id)
    {l : IconLoad} (mem : l ∈ r.loads) (own : l.record.id = id) (provider : IconProvider) :
    Settled (r.finish l.key (.loaded provider)).1 id := by
  refine ⟨l.record.closed (.loaded provider), ?_, rfl⟩
  rw [h.finish_records mem, get?_change, current l mem own, Option.map_some, if_pos rfl]

/-- Every call for an id that comes while a load of the id is on its way awaits this load, and
schedules none. Every call that awaits a load has an answer once the load has ended, which is what
the load ended with. While no load of the id waits for its start, the loader was invoked once for
each call that found its provider neither ready nor in flight. After a load of the id has succeeded,
the loader is not invoked. -/
theorem calls_share_loads {r : IconRegistry} {id : String} {events : List IconEvent}
    (reachable : Reachable r) (free : ∀ l ∈ r.loads, l.record.id ≠ id)
    (allowed : r.AllowsAll events) (kept : ∀ e ∈ events, e.registers? ≠ some id) :
    (∀ before written after, events = before ++ .request written :: after ->
        IconProvider.normalizeId written = id ->
        ∀ l ∈ (r.calls before).registry.loads, l.record.id = id ->
          (r.calls (before ++ [.request written])).registry = (r.calls before).registry ∧
            ∃ call, (r.calls events).calls[(r.calls before).calls.length]? = some call ∧
              call.id = written ∧ call.found = .awaits l.key ∧ call.opens = false) ∧
      (∀ call ∈ (r.calls events).calls, ∀ key, call.found = .awaits key ->
        (call.answer = ((r.calls events).outcome? key).map fun outcome => outcome.answer call.id) ∧
          ((r.calls events).outcome? key = none ↔
            ∃ l ∈ (r.calls events).registry.loads, l.key = key)) ∧
      ((∀ l ∈ (r.calls events).registry.loads, l.record.id = id -> l.started = true) ->
        (r.calls events).invoked.count id = (r.calls events).opened id) ∧
      ∀ before key provider after, events = before ++ .finish key (.loaded provider) :: after ->
        (∃ l ∈ (r.calls before).registry.loads, l.key = key ∧ l.record.id = id) ->
        (r.calls events).invoked.count id = (r.calls before).invoked.count id := by
  have initial := reachable.sound.shared free
  have final := initial.performAll allowed kept
  refine ⟨?_, ?_, ?_, ?_⟩
  · rintro before written after rfl spelled l mem own
    have middle := initial.performAll (allowsAll_append.mp allowed).1
      (List.forall_mem_append.mp kept).1
    obtain ⟨found, opens⟩ := middle.attended.sound.request_of_current middle.current mem own spelled
    refine ⟨?_, ?_⟩
    · rw [calls, IconCalls.performAll_append]
      exact congrArg Prod.fst found
    · have made : ((r.calls before).perform (.request written)).calls[
          (r.calls before).calls.length]? = some ((r.calls before).registry.call written) := by
        rw [IconCalls.calls_perform, IconCalls.callsAfter, List.getElem?_concat_length]
      obtain ⟨now, there, same⟩ := IconCalls.asked_getElem?_performAll made after
      simp only [IconCall.asked, Prod.mk.injEq] at same
      refine ⟨now, ?_, same.1, same.2.1.trans (congrArg Prod.snd found), same.2.2.trans opens⟩
      rw [calls, IconCalls.performAll_append]
      exact there
  · intro call mem key awaits
    refine ⟨final.attended.answers call mem key awaits,
      final.attended.waits call mem key awaits, ?_⟩
    rintro ⟨l, held, rfl⟩
    exact final.attended.outcome?_load held
  · intro started
    refine (final.tallied.started ?_).symm
    rintro ⟨l, mem, own, waiting⟩
    have running := started l mem own
    rw [waiting] at running
    cases running
  · rintro before key provider after rfl ⟨l, mem, rfl, own⟩
    obtain ⟨first, last⟩ := allowsAll_append.mp allowed
    obtain ⟨keptFirst, keptLast⟩ := List.forall_mem_append.mp kept
    obtain ⟨keptNow, keptLater⟩ := List.forall_mem_cons.mp keptLast
    have middle := initial.performAll first keptFirst
    rw [← IconCalls.registry_performAll { registry := r }] at last
    have settled := middle.attended.sound.settled_finish middle.current mem own provider
    have later := (middle.perform last.1 keptNow).invoked_performAll settled last.2 keptLater
    rw [calls, IconCalls.performAll_append, IconCalls.performAll, later, IconCalls.invoked_perform]
    exact congrArg (List.count id) (List.append_nil _)

/-- A provider with a loader. -/
def withLoader : IconRegistry :=
  performAll {} [.registerLoader "p" none]

/-- Three calls share a load that fails, and two calls one that succeeds; a last call needs none. -/
def sharedTwice : List IconEvent :=
  [.request "p", .request " P ", .start 1, .request "p", .finish 1 (.failed "network down"),
    .request "P", .start 2, .request "p", .finish 2 (.loaded .lucide), .request "p"]

theorem sharedTwice_share :
    (∃ call, (withLoader.calls sharedTwice).calls[1]? = some call ∧ call.id = " P " ∧
        call.found = .awaits 1 ∧ call.opens = false) ∧
      (withLoader.calls sharedTwice).invoked.count "p" = (withLoader.calls sharedTwice).opened "p" ∧
      (withLoader.calls sharedTwice).opened "p" = 2 := by
  have reachable : Reachable withLoader := reachable_performAll (by decide +kernel)
  have free : ∀ l ∈ withLoader.loads, l.record.id ≠ "p" := by decide +kernel
  have allowed : withLoader.AllowsAll sharedTwice := by decide +kernel
  have kept : ∀ e ∈ sharedTwice, e.registers? ≠ some "p" := by decide +kernel
  have ended : (withLoader.calls sharedTwice).registry.loads.length = 0 := by decide +kernel
  obtain ⟨awaits, -, started, -⟩ := calls_share_loads reachable free allowed kept
  have waiting : ∃ l ∈ (withLoader.calls [.request "p"]).registry.loads,
      l.record.id = "p" ∧ l.key = 1 := by decide +kernel
  obtain ⟨l, mem, own, key⟩ := waiting
  obtain ⟨-, call, there, id, found, opens⟩ := awaits [.request "p"] " P "
    (sharedTwice.drop 2) rfl (by decide +kernel) l mem own
  refine ⟨⟨call, there, id, key ▸ found, opens⟩, started ?_, by decide +kernel⟩
  rw [List.eq_nil_of_length_eq_zero ended]
  exact fun l none => absurd none List.not_mem_nil

end IconRegistry

end ViewDoc
