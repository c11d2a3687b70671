import Mathlib.Data.List.Basic
import ViewDoc.Proofs.Icon.Current
/-!
What observers are told of one provider, as long as no provider is registered twice. Every event
moves the record of an id at most once and tells observers of every move. The main statements tell
the course of a provider that is registered ready, and of one that is registered with a loader.
-/

set_option autoImplicit false

namespace ViewDoc

/-- The states that are about an id. -/
def IconState.about (id : String) (states : List IconState) : List IconState :=
  states.filter fun i => i.id == id

theorem IconState.about_append (id : String) (a b : List IconState) :
    about id (a ++ b) = about id a ++ about id b :=
  List.filter_append ..

/-- Whether an event starts or ends a load. -/
def IconEvent.advances : IconEvent -> Bool
  | .start _ | .finish .. => true
  | _ => false

/-- The statuses that the last attempt to load a provider has gone through. -/
def IconStatus.attempt : IconStatus -> List IconStatus
  | .idle | .error => []
  | .loading => [.loading]
  | .ready => [.loading, .ready]

theorem IconRecord.hasLoader_closed (record : IconRecord) (outcome : LoadOutcome) :
    (record.closed outcome).hasLoader = record.hasLoader := by
  cases outcome <;> rfl

namespace IconRegistry

open IconState (about)

variable {r : IconRegistry} {id : String}

/-- What an event makes of the record under an id, and what observers are told about it. -/
inductive Moves : Option IconRecord -> List IconState -> Option IconRecord -> Prop where
  | stays {o : Option IconRecord} : Moves o [] o
  | registers {record : IconRecord} :
      record.status = .ready -> record.hasLoader = false ->
      Moves none [record.state] (some record)
  | registersLoader {record : IconRecord} :
      record.status = .idle -> record.hasLoader = true ->
      Moves none [record.state] (some record)
  | opens {record : IconRecord} :
      record.status = .idle ∨ record.status = .error ->
      Moves (some record) [record.opened.state] (some record.opened)
  | closes {record : IconRecord} (outcome : LoadOutcome) :
      record.status = .loading ->
      Moves (some record) [(record.closed outcome).state] (some (record.closed outcome))

/-- An event registers no provider under an id that is taken. -/
def RegistersFree (r : IconRegistry) (e : IconEvent) : Prop :=
  ∀ id, e.registers? = some id -> Entries.get? r.records id = none

theorem about_singleton_self (state : IconState) : about state.id [state] = [state] := by
  simp [about]

theorem about_singleton_of_ne {state : IconState} (other : state.id ≠ id) :
    about id [state] = [] := by
  simp [about, other]

theorem Sound.start_told (h : Sound r) {l : IconLoad} (mem : l ∈ r.loads)
    (registered : Entries.get? r.records l.record.id = some l.record) :
    (r.start l.key).2 = [l.record.opened.state] := by
  have told : (r.start l.key).2 = (r.start l.key).1.seen l.record.id := by
    rw [IconRegistry.start, h.load?_eq mem]
    simp only [h.refuses_eq_false, Bool.false_eq_true, if_false]
  rw [told, seen, h.start_records mem, get?_change, registered]
  simp

/-- A change of the record of a load leaves the records under other ids. -/
theorem Sound.get?_change_of_ne (h : Sound r) {l : IconLoad} (mem : l ∈ r.loads)
    (other : l.record.id ≠ id) (f : IconRecord -> IconRecord) :
    Entries.get? (r.change l.record.serial f).records id = Entries.get? r.records id := by
  rw [get?_change]
  cases registered : Entries.get? r.records id with
  | none => rfl
  | some record =>
    have serial : record.serial ≠ l.record.serial := by
      intro same
      obtain rfl := h.eq_of_serial mem (knows_registered registered) same
      exact other (h.keyed id _ registered)
    rw [Option.map_some, if_neg serial]

theorem moves_put {key : String} {make : Nat -> IconRecord} (own : (make r.next).id = key)
    (moves : Moves (Entries.get? r.records key) [(make r.next).state] (some (make r.next))) :
    Moves (Entries.get? r.records id) (about id (r.put key make).2)
      (Entries.get? (r.put key make).1.records id) := by
  have told : (r.put key make).2 = [(make r.next).state] := seen_put r key make
  have state : (make r.next).state.id = key := own
  rw [told]
  by_cases same : id = key
  · subst same
    rw [IconRegistry.put, Entries.get?_set_self]
    conv => arg 2; rw [← state]
    rwa [about_singleton_self]
  · rw [IconRegistry.put, Entries.get?_set_of_ne _ _ same,
      about_singleton_of_ne fun equal => same (equal.symm.trans state)]
    exact .stays

theorem moves_registration {e : IconEvent} (registration : e.isRegistration = true)
    (free : r.RegistersFree e) (id : String) :
    Moves (Entries.get? r.records id) (about id (r.perform e).2)
      (Entries.get? (r.perform e).1.records id) := by
  rcases r.registration_cases registration with
    ⟨-, same⟩ | ⟨key, make, registers, put, own, loader, status⟩
  · rw [same]
    exact .stays
  · rw [put]
    refine moves_put own ?_
    rw [free key registers]
    cases kind : e.hasLoader with
    | true => exact .registersLoader (by rw [status, kind]; rfl) (loader.trans kind)
    | false => exact .registers (by rw [status, kind]; rfl) (loader.trans kind)

/-- An event moves the record under an id once or leaves it, and tells observers just of moves. -/
theorem Sound.moves (h : Sound r) (current : ∀ id, Current r id) {e : IconEvent}
    (allows : r.Allows e) (free : r.RegistersFree e) (id : String) :
    Moves (Entries.get? r.records id) (about id (r.perform e).2)
      (Entries.get? (r.perform e).1.records id) := by
  cases e with
  | register _ _ | registerLoader _ _ => exact moves_registration rfl free id
  | request written =>
    rw [IconRegistry.perform, request_records]
    exact .stays
  | start key =>
    obtain ⟨l, mem, rfl, waiting⟩ := allows
    have registered := current l.record.id l mem rfl
    rw [IconRegistry.perform, h.start_told mem registered, h.start_records mem]
    by_cases own : l.record.id = id
    · subst own
      rw [get?_change, registered, Option.map_some, if_pos rfl]
      have resting : l.record.status ≠ .loading := by
        rw [Ne, (h.status l mem).2, waiting]
        exact Bool.false_ne_true
      have moved : Moves (some l.record) [l.record.opened.state] (some l.record.opened) := by
        refine .opens ?_
        have unready := (h.status l mem).1
        cases status : l.record.status <;> simp_all
      rwa [← about_singleton_self l.record.opened.state] at moved
    · have other : l.record.opened.state.id ≠ id := own
      rw [h.get?_change_of_ne mem own, about_singleton_of_ne other]
      exact .stays
  | finish key outcome =>
    obtain ⟨l, mem, rfl, started⟩ := allows
    have registered := current l.record.id l mem rfl
    have kept : (l.record.closed outcome).state.id = l.record.id := by cases outcome <;> rfl
    rw [IconRegistry.perform, h.finish_told mem outcome registered, h.finish_records mem]
    by_cases own : l.record.id = id
    · subst own
      rw [get?_change, registered, Option.map_some, if_pos rfl]
      have moved := Moves.closes outcome ((h.status l mem).2.mpr started)
      rw [← about_singleton_self (l.record.closed outcome).state, kept] at moved
      exact moved
    · rw [h.get?_change_of_ne mem own, about_singleton_of_ne (kept ▸ own)]
      exact .stays

/-- What observers were told about an id in a run, with the record that is under the id now. -/
inductive Course : List IconState -> Option IconRecord -> Prop where
  | nothing : Course [] none
  | step {told more : List IconState} {o now : Option IconRecord} :
      Course told o -> Moves o more now -> Course (told ++ more) now

theorem Course.eq_nil {told : List IconState} {o : Option IconRecord} (course : Course told o)
    (none : o = none) : told = [] := by
  induction course with
  | nothing => rfl
  | step _ moves ih =>
    cases moves with
    | stays => rw [ih none, List.append_nil]
    | _ => cases none

/-- The last that observers were told about an id is what the provider is now. -/
theorem Course.getLast? {told : List IconState} {o : Option IconRecord} (course : Course told o) :
    told.getLast? = o.map IconRecord.state := by
  induction course with
  | nothing => rfl
  | step _ moves ih =>
    cases moves with
    | stays => rw [List.append_nil, ih]
    | _ => exact List.getLast?_concat

/-- Of a provider that is registered ready, observers are told once. -/
theorem Course.ready {told : List IconState} {record : IconRecord}
    (course : Course told (some record)) (without : record.hasLoader = false) :
    told = [record.state] ∧ record.status = .ready := by
  -- By induction on the course: a record that is ready is neither opened nor closed.
  generalize same : some record = o at course
  induction course generalizing record with
  | nothing => cases same
  | step before moves ih =>
    cases moves with
    | stays =>
      rw [List.append_nil]
      exact ih without same
    | registers ready =>
      cases same
      rw [before.eq_nil rfl]
      exact ⟨rfl, ready⟩
    | registersLoader _ loader =>
      cases same
      rw [without] at loader
      cases loader
    | @opens old unready =>
      cases same
      have ready := (ih (show old.hasLoader = false from without) rfl).2
      simp [ready] at unready
    | @closes old outcome loading =>
      cases same
      have ready := (ih (old.hasLoader_closed outcome ▸ without) rfl).2
      simp [ready] at loading

/-- Of a provider with a loader, observers are told that it is idle, then of attempts that fail, and
of the last attempt as far as it has come. -/
theorem Course.loader {told : List IconState} {record : IconRecord}
    (course : Course told (some record)) (loader : record.hasLoader = true) :
    ∃ n, told.map (fun i => i.status) =
      .idle :: (List.replicate n [.loading, .error]).flatten ++ record.status.attempt := by
  generalize same : some record = o at course
  induction course generalizing record with
  | nothing => cases same
  | step before moves ih =>
    cases moves with
    | stays =>
      rw [List.append_nil]
      exact ih loader same
    | registers _ without =>
      cases same
      rw [without] at loader
      cases loader
    | registersLoader idle _ =>
      cases same
      rw [before.eq_nil rfl]
      exact ⟨0, by simp [IconRecord.state, idle, IconStatus.attempt]⟩
    | @opens old unready =>
      cases same
      obtain ⟨n, statuses⟩ := ih (show old.hasLoader = true from loader) rfl
      refine ⟨n, ?_⟩
      rw [List.map_append, statuses]
      rcases unready with idle | error
      · simp [idle, IconRecord.state, IconRecord.opened, IconStatus.attempt]
      · simp [error, IconRecord.state, IconRecord.opened, IconStatus.attempt]
    | @closes old outcome loading =>
      cases same
      obtain ⟨n, statuses⟩ := ih (old.hasLoader_closed outcome ▸ loader) rfl
      cases outcome with
      | loaded provider =>
        refine ⟨n, ?_⟩
        rw [List.map_append, statuses, loading]
        simp [IconRecord.state, IconRecord.closed, IconStatus.attempt]
      | failed reason =>
        -- The attempt that was the last one joins those that failed.
        refine ⟨n + 1, ?_⟩
        rw [List.map_append, statuses, loading, List.replicate_succ', List.flatten_concat]
        simp [IconRecord.state, IconRecord.closed, IconStatus.attempt]

theorem Moves.hasLoader {record : IconRecord} {told : List IconState} {o : Option IconRecord}
    (moves : Moves (some record) told o) :
    ∃ now, o = some now ∧ now.hasLoader = record.hasLoader := by
  cases moves with
  | stays => exact ⟨record, rfl, rfl⟩
  | opens _ => exact ⟨_, rfl, rfl⟩
  | closes outcome _ => exact ⟨_, rfl, record.hasLoader_closed outcome⟩

/-- An event that registers a provider leaves it with a loader or without. -/
theorem registered_perform (r : IconRegistry) {e : IconEvent} (registers : e.registers? = some id) :
    ∃ record, Entries.get? (r.perform e).1.records id = some record ∧
      record.hasLoader = e.hasLoader := by
  have registration : e.isRegistration = true := by
    cases e with
    | register _ _ | registerLoader _ _ => rfl
    | _ => cases registers
  rcases r.registration_cases registration with ⟨none, -⟩ | ⟨key, make, own, put, -, loader, -⟩
  · rw [none] at registers
    cases registers
  · obtain rfl : key = id := Option.some.inj (own.symm.trans registers)
    refine ⟨make r.next, ?_, loader⟩
    rw [put, IconRegistry.put, Entries.get?_set_self]

/-- What is not registered is registered by no other event. -/
theorem get?_perform_eq_none {e : IconEvent} (h : Sound r) (allows : r.Allows e)
    (kept : e.registers? ≠ some id) (free : Entries.get? r.records id = none) :
    Entries.get? (r.perform e).1.records id = none := by
  cases e with
  | register _ _ | registerLoader _ _ => rw [(leaves_registration rfl kept).record, free]
  | request written => rw [perform, request_records, free]
  | start key =>
    obtain ⟨l, mem, rfl, -⟩ := allows
    rw [perform, h.start_records mem, get?_change, free, Option.map_none]
  | finish key outcome =>
    obtain ⟨l, mem, rfl, -⟩ := allows
    rw [perform, h.finish_records mem, get?_change, free, Option.map_none]

/-- A registration tells observers nothing about another id. -/
theorem about_registration {e : IconEvent} (registration : e.isRegistration = true)
    (kept : e.registers? ≠ some id) : about id (r.perform e).2 = [] := by
  rcases r.registration_cases registration with ⟨-, same⟩ | ⟨key, make, registers, put, own, -⟩
  · rw [same]
    rfl
  · rw [put, seen_put]
    refine about_singleton_of_ne fun same => kept ?_
    rw [registers, ← own]
    exact congrArg some same

/-- An event that is not about an id, and not about loads, leaves what is registered under the id,
and tells observers nothing about it. -/
theorem rests_perform {e : IconEvent} (kept : e.registers? ≠ some id)
    (rests : e.advances = false) :
    Entries.get? (r.perform e).1.records id = Entries.get? r.records id ∧
      about id (r.perform e).2 = [] := by
  cases e with
  | register _ _ | registerLoader _ _ =>
    exact ⟨(leaves_registration rfl kept).record, about_registration rfl kept⟩
  | request written => exact ⟨congrArg (Entries.get? · id) (request_records r written), rfl⟩
  | start key => cases rests
  | finish key outcome => cases rests

/-- What observers are told about an id is what the provider is now. -/
theorem Moves.state_eq {o now : Option IconRecord} {told : List IconState}
    (moves : Moves o told now) {i : IconState} (mem : i ∈ told) :
    now.map IconRecord.state = some i := by
  cases moves with
  | stays => cases mem
  | _ => exact congrArg some (List.mem_singleton.mp mem).symm

/-- A registry after events that register no id twice, with what observers were told in turn. -/
structure Followed (r : IconRegistry) (events : List IconEvent) (told : List IconState) :
    Prop where
  sound : Sound r
  current : ∀ id, Current r id
  course : ∀ id, Course (about id told) (Entries.get? r.records id)
  taken : ∀ id record, Entries.get? r.records id = some record ->
    ∃ e ∈ events, e.registers? = some id
  kinds : ∀ e ∈ events, ∀ id, e.registers? = some id ->
    ∃ record, Entries.get? r.records id = some record ∧ record.hasLoader = e.hasLoader

theorem followed_empty : Followed {} [] [] :=
  ⟨sound_empty, fun _ _ none => absurd none List.not_mem_nil, fun _ => .nothing,
    fun _ _ registered => absurd registered (by simp), fun _ none => absurd none List.not_mem_nil⟩

variable {events : List IconEvent} {told : List IconState}

theorem Followed.registersFree (followed : Followed r events told) {e : IconEvent}
    (new : ∀ id, e.registers? = some id -> ∀ old ∈ events, old.registers? ≠ some id) :
    r.RegistersFree e := by
  intro id registers
  cases registered : Entries.get? r.records id with
  | none => rfl
  | some record =>
    obtain ⟨old, mem, same⟩ := followed.taken id record registered
    exact absurd same (new id registers old mem)

theorem Followed.perform (followed : Followed r events told) {e : IconEvent} (allows : r.Allows e)
    (new : ∀ id, e.registers? = some id -> ∀ old ∈ events, old.registers? ≠ some id) :
    Followed (r.perform e).1 (events ++ [e]) (told ++ (r.perform e).2) := by
  have h := followed.sound
  have free := followed.registersFree new
  have moves := h.moves followed.current allows free
  refine ⟨h.perform allows, ?_, ?_, ?_, ?_⟩
  · intro id
    by_cases registers : e.registers? = some id
    · -- No load is on its way for an id that has just been registered.
      have loads : (r.perform e).1.loads = r.loads := by
        cases e with
        | register _ _ | registerLoader _ _ => exact loads_registration rfl
        | _ => cases registers
      intro l mem own
      have held := followed.current id l (loads ▸ mem) own
      rw [free id registers] at held
      cases held
    · exact (followed.current id).perform h allows registers
  · intro id
    rw [IconState.about_append]
    exact .step (followed.course id) (moves id)
  · intro id record registered
    by_cases registers : e.registers? = some id
    · exact ⟨e, List.mem_append_right _ (List.mem_singleton_self e), registers⟩
    · cases before : Entries.get? r.records id with
      | none =>
        rw [get?_perform_eq_none h allows registers before] at registered
        cases registered
      | some old =>
        obtain ⟨first, mem, same⟩ := followed.taken id old before
        exact ⟨first, List.mem_append_left _ mem, same⟩
  · intro first mem id registers
    rcases List.mem_append.mp mem with old | last
    · obtain ⟨record, registered, loader⟩ := followed.kinds first old id registers
      obtain ⟨now, after, same⟩ := (registered ▸ moves id).hasLoader
      exact ⟨now, after, same.trans loader⟩
    · obtain rfl := List.mem_singleton.mp last
      exact registered_perform r registers

end IconRegistry

end ViewDoc
