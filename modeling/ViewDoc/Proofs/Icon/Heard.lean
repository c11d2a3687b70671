import Mathlib.Data.List.Induction
import ViewDoc.Observers
import ViewDoc.Proofs.Icon.Course
/-!
What observers of a registry hear. The observers of the moment are told of a change one after the
other; one that raises an error is passed over, and the next is told. When an observer is told, it
may register providers, ask for them, and begin and end subscriptions, so that others are told of
that first. Loads start and end when nobody is being told anything. The main statement is that an
observer that stays subscribed hears of every provider its whole course, whatever the others do.
-/

set_option autoImplicit false

namespace ViewDoc

/-- A registry with its observers, what these have still to be told, what they have heard, and where
they have failed, all in order. -/
structure IconAudience where
  registry : IconRegistry := {}
  observers : Observers := {}
  pending : List ((Nat × String) × IconState) := []
  heard : List ((Nat × String) × IconState) := []
  failures : List (((Nat × String) × IconState) × String) := []

/-- What happens in turn to a registry with observers: an event, the begin or the end of a
subscription, or that the next observer is told, with the error that it raises. -/
inductive IconStep where
  | happen (e : IconEvent)
  | subscribe (name : String)
  | unsubscribe (number : Nat)
  | tell (failure : Option String)

namespace IconStep

/-- The event of a step. -/
def event? : IconStep -> Option IconEvent
  | .happen e => some e
  | .subscribe _ | .unsubscribe _ | .tell _ => none

/-- A step in which no observer raises an error. -/
def calm : IconStep -> IconStep
  | .tell _ => .tell none
  | step => step

end IconStep

namespace Observers

/-- One subscription has a number, and later ones will have others. -/
structure Lists (o : Observers) (k : Nat) : Prop where
  once : (o.current.filter fun s => s.1 == k).length = 1
  below : k < o.next

variable {o : Observers} {k : Nat}

theorem Lists.subscribe (lists : o.Lists k) (name : String) : (o.subscribe name).Lists k := by
  refine ⟨?_, Nat.lt_succ_of_lt lists.below⟩
  have other : (o.next == k) = false := beq_eq_false_iff_ne.mpr (Nat.ne_of_gt lists.below)
  rw [Observers.subscribe, List.filter_append, List.filter_cons_of_neg (by simp [other]),
    List.filter_nil, List.append_nil]
  exact lists.once

theorem Lists.drop (lists : o.Lists k) {number : Nat} (other : number ≠ k) :
    (o.drop number).Lists k := by
  refine ⟨?_, lists.below⟩
  have same : (o.drop number).current.filter (fun s => s.1 == k) =
      o.current.filter fun s => s.1 == k := by
    rw [Observers.drop, List.filter_filter]
    refine List.filter_congr fun s _ => ?_
    by_cases number : s.1 = k <;> simp [number, other.symm]
  rw [same]
  exact lists.once

theorem next_foldl_subscribe (names : List String) :
    (names.foldl Observers.subscribe {}).next = names.length ∧
      ∀ s ∈ (names.foldl Observers.subscribe {}).current, s.1 < names.length := by
  induction names using List.reverseRecOn with
  | nil => exact ⟨rfl, fun s none => absurd none List.not_mem_nil⟩
  | append_singleton names name ih =>
    rw [List.foldl_concat, List.length_append]
    refine ⟨congrArg (· + 1) ih.1, fun s mem => ?_⟩
    rcases List.mem_append.mp mem with old | new
    · exact Nat.lt_succ_of_lt (ih.2 s old)
    · rw [List.mem_singleton.mp new, ih.1]
      exact Nat.lt_succ_self _

/-- Of names that are subscribed in turn, each has a subscription of its own. -/
theorem lists_foldl_subscribe {names : List String} (k_lt : k < names.length) :
    (names.foldl Observers.subscribe {}).Lists k := by
  induction names using List.reverseRecOn with
  | nil => exact absurd k_lt (Nat.not_lt_zero k)
  | append_singleton names name ih =>
    obtain ⟨next, below⟩ := next_foldl_subscribe names
    rw [List.foldl_concat]
    rw [List.length_append] at k_lt
    rcases Nat.lt_succ_iff_lt_or_eq.mp k_lt with old | rfl
    · exact (ih old).subscribe name
    · refine ⟨?_, next ▸ Nat.lt_succ_self _⟩
      have others : (names.foldl Observers.subscribe {}).current.filter
          (fun s => s.1 == names.length) = [] :=
        List.filter_eq_nil_iff.mpr fun s mem => by simpa using Nat.ne_of_lt (below s mem)
      rw [Observers.subscribe, List.filter_append, others, next]
      simp

end Observers

namespace IconAudience

open IconRegistry (Followed)
open IconState (about)

/-- A registry without providers, with observers under the given names. -/
def ofNames (names : List String) : IconAudience :=
  { observers := names.foldl Observers.subscribe {} }

/-- Loads start and end when nobody is being told anything. -/
def Allows (a : IconAudience) : IconStep -> Prop
  | .happen e => a.registry.Allows e ∧ (e.advances = true -> a.pending = [])
  | .tell _ => a.pending ≠ []
  | .subscribe _ | .unsubscribe _ => True

/-- Tells the next observer. An error that it raises is noted. -/
def tell (a : IconAudience) (failure : Option String) : IconAudience :=
  match a.pending with
  | [] => a
  | telling :: rest =>
    { a with pending := rest, heard := a.heard ++ [telling],
             failures := a.failures ++ failure.toList.map fun reason => (telling, reason) }

/-- What a step does. -/
def perform (a : IconAudience) : IconStep -> IconAudience
  | .happen e =>
    { a with registry := (a.registry.perform e).1,
             pending := a.observers.tellings (a.registry.perform e).2 ++ a.pending }
  | .subscribe name => { a with observers := a.observers.subscribe name }
  | .unsubscribe number => { a with observers := a.observers.drop number }
  | .tell failure => a.tell failure

/-- What steps do in turn. -/
def performAll (a : IconAudience) : List IconStep -> IconAudience
  | [] => a
  | step :: steps => (a.perform step).performAll steps

/-- Steps can happen in turn. -/
def AllowsAll (a : IconAudience) : List IconStep -> Prop
  | [] => True
  | step :: steps => a.Allows step ∧ (a.perform step).AllowsAll steps

instance (a : IconAudience) : (step : IconStep) -> Decidable (a.Allows step)
  | .happen e =>
    inferInstanceAs (Decidable (a.registry.Allows e ∧ (e.advances = true -> a.pending = [])))
  | .tell _ => inferInstanceAs (Decidable (a.pending ≠ []))
  | .subscribe _ => inferInstanceAs (Decidable True)
  | .unsubscribe _ => inferInstanceAs (Decidable True)

instance decidableAllowsAll (a : IconAudience) :
    (steps : List IconStep) -> Decidable (a.AllowsAll steps)
  | [] => inferInstanceAs (Decidable True)
  | step :: steps =>
    have := decidableAllowsAll (a.perform step) steps
    inferInstanceAs (Decidable (a.Allows step ∧ (a.perform step).AllowsAll steps))

/-- What is addressed to a subscription, of all that is about an id. -/
def addressed (k : Nat) (id : String) (tellings : List ((Nat × String) × IconState)) :
    List IconState :=
  (tellings.filter fun t => t.1.1 == k && t.2.id == id).map (·.2)

/-- What has been heard under a subscription about an id. -/
def received (a : IconAudience) (k : Nat) (id : String) : List IconState :=
  addressed k id a.heard

variable {a : IconAudience} {k : Nat} {id : String}

theorem addressed_append (x y : List ((Nat × String) × IconState)) :
    addressed k id (x ++ y) = addressed k id x ++ addressed k id y := by
  rw [addressed, List.filter_append, List.map_append]
  rfl

/-- An observer is told everything once. -/
theorem addressed_tellings {o : Observers} (lists : o.Lists k) (states : List IconState) :
    addressed k id (o.tellings states) = about id states := by
  induction states with
  | nil => rfl
  | cons i rest ih =>
    obtain ⟨own, once⟩ := List.length_eq_one_iff.mp lists.once
    have first : addressed k id (o.current.map fun s => (s, i)) = about id [i] := by
      by_cases same : i.id = id
      · simp only [addressed, List.filter_map, Function.comp_def, same, beq_self_eq_true,
          Bool.and_true, once]
        simp [about, same]
      · simp only [addressed, List.filter_map, Function.comp_def, beq_false_of_ne same,
          Bool.and_false, List.filter_false]
        simp [about, same]
    calc addressed k id (o.tellings (i :: rest))
        = addressed k id (o.current.map fun s => (s, i)) ++ addressed k id (o.tellings rest) :=
          addressed_append _ _
      _ = about id [i] ++ about id rest := by rw [first, ih]
      _ = about id (i :: rest) := (IconState.about_append id [i] rest).symm

/-- What an observer has heard, with what it has still to be told, is what observers were told in
all. It is told what is so now. -/
structure Attends (a : IconAudience) (k : Nat) (events : List IconEvent)
    (told : List IconState) : Prop where
  followed : Followed a.registry events told
  lists : a.observers.Lists k
  present : ∀ t ∈ a.pending,
    (Entries.get? a.registry.records t.2.id).map IconRecord.state = some t.2
  delivered : ∀ id, a.received k id ++ addressed k id a.pending = about id told

variable {events : List IconEvent} {told : List IconState}

theorem Attends.happen (attends : Attends a k events told) {e : IconEvent}
    (allows : a.Allows (.happen e))
    (new : ∀ id, e.registers? = some id -> ∀ old ∈ events, old.registers? ≠ some id) :
    Attends (a.perform (.happen e)) k (events ++ [e]) (told ++ (a.registry.perform e).2) := by
  have h := attends.followed.sound
  have free := attends.followed.registersFree new
  have moves := h.moves attends.followed.current allows.1 free
  -- What is still to be told is about ids that the event leaves as they are.
  have rests (t : (Nat × String) × IconState) (mem : t ∈ a.pending) :
      e.registers? ≠ some t.2.id ∧ e.advances = false := by
    refine ⟨fun registers => ?_, Bool.eq_false_iff.mpr fun advances => ?_⟩
    · have known := attends.present t mem
      rw [free _ registers] at known
      cases known
    · rw [allows.2 advances] at mem
      cases mem
  refine ⟨attends.followed.perform allows.1 new, attends.lists, ?_, ?_⟩
  · intro t mem
    rcases List.mem_append.mp mem with now | before
    · obtain ⟨i, told, addressee⟩ := List.mem_flatMap.mp now
      obtain ⟨s, -, rfl⟩ := List.mem_map.mp addressee
      exact (moves i.id).state_eq (List.mem_filter.mpr ⟨told, beq_self_eq_true _⟩)
    · obtain ⟨kept, still⟩ := rests t before
      rw [perform, (IconRegistry.rests_perform kept still).1]
      exact attends.present t before
  · intro id
    have delivered := attends.delivered id
    rw [IconState.about_append, ← delivered, perform, addressed_append,
      addressed_tellings attends.lists]
    cases waiting : addressed k id a.pending with
    | nil => simp [received]
    | cons i more =>
      obtain ⟨t, mem, rfl⟩ : ∃ t ∈ a.pending, t.2.id = id := by
        have some : i ∈ addressed k id a.pending := by simp [waiting]
        obtain ⟨t, held, -⟩ := List.mem_map.mp some
        obtain ⟨mem, own⟩ := List.mem_filter.mp held
        exact ⟨t, mem, by simpa using (Bool.and_eq_true_iff.mp own).2⟩
      obtain ⟨kept, still⟩ := rests t mem
      rw [(IconRegistry.rests_perform kept still).2]
      simp [received]

theorem Attends.tell (attends : Attends a k events told) (failure : Option String) :
    Attends (a.tell failure) k events told := by
  rw [IconAudience.tell]
  cases pending : a.pending with
  | nil => exact attends
  | cons t rest =>
    refine ⟨attends.followed, attends.lists, fun u mem => ?_, fun id => ?_⟩
    · exact attends.present u (pending ▸ List.mem_cons_of_mem t mem)
    · have delivered := attends.delivered id
      rw [pending, ← List.singleton_append, addressed_append, ← List.append_assoc, received,
        ← addressed_append] at delivered
      exact delivered

theorem Attends.perform (attends : Attends a k events told) {step : IconStep}
    (allows : a.Allows step) (stays : step ≠ .unsubscribe k)
    (new : ∀ e, step.event? = some e -> ∀ id, e.registers? = some id ->
      ∀ old ∈ events, old.registers? ≠ some id) :
    ∃ told, Attends (a.perform step) k (events ++ step.event?.toList) told := by
  cases step with
  | happen e => exact ⟨_, attends.happen allows (new e rfl)⟩
  | subscribe name =>
    rw [IconStep.event?, Option.toList_none, List.append_nil]
    exact ⟨told, attends.followed, attends.lists.subscribe name, attends.present, attends.delivered⟩
  | unsubscribe number =>
    have other : number ≠ k := fun same => stays (congrArg IconStep.unsubscribe same)
    rw [IconStep.event?, Option.toList_none, List.append_nil]
    exact ⟨told, attends.followed, attends.lists.drop other, attends.present, attends.delivered⟩
  | tell failure =>
    rw [IconStep.event?, Option.toList_none, List.append_nil]
    exact ⟨told, attends.tell failure⟩

theorem Attends.performAll {steps : List IconStep} (attends : Attends a k events told)
    (allowed : a.AllowsAll steps) (stays : .unsubscribe k ∉ steps)
    (once : ((events ++ steps.filterMap IconStep.event?).filterMap IconEvent.registers?).Nodup) :
    ∃ told, Attends (a.performAll steps) k (events ++ steps.filterMap IconStep.event?) told := by
  induction steps generalizing a events told with
  | nil => exact ⟨told, by rwa [List.filterMap_nil, List.append_nil]⟩
  | cons step rest ih =>
    have split : events ++ (step :: rest).filterMap IconStep.event? =
        (events ++ step.event?.toList) ++ rest.filterMap IconStep.event? := by
      rw [List.filterMap_cons]
      cases step.event? <;> simp
    have new : ∀ e, step.event? = some e -> ∀ id, e.registers? = some id ->
        ∀ old ∈ events, old.registers? ≠ some id := by
      intro e event id registers old mem same
      rw [List.filterMap_append] at once
      refine (List.nodup_append.mp once).2.2 id (List.mem_filterMap.mpr ⟨old, mem, same⟩) id
        (List.mem_filterMap.mpr ⟨e, ?_, registers⟩) rfl
      exact List.mem_filterMap.mpr ⟨step, List.mem_cons_self, event⟩
    obtain ⟨more, now⟩ := attends.perform allowed.1
      (fun same => stays (same ▸ List.mem_cons_self)) new
    rw [split] at once ⊢
    exact ih now allowed.2 (fun later => stays (List.mem_cons_of_mem _ later)) once

theorem attends_ofNames {names : List String} (subscribed : k < names.length) :
    Attends (ofNames names) k [] [] :=
  ⟨IconRegistry.followed_empty, Observers.lists_foldl_subscribe subscribed,
    fun _ none => absurd none List.not_mem_nil, fun _ => rfl⟩

theorem allowsAll_append {before after : List IconStep} :
    a.AllowsAll (before ++ after) ↔
      a.AllowsAll before ∧ (a.performAll before).AllowsAll after := by
  induction before generalizing a with
  | nil => exact ⟨fun allowed => ⟨trivial, allowed⟩, fun allowed => allowed.2⟩
  | cons step rest ih =>
    rw [List.cons_append, AllowsAll, AllowsAll, ih, and_assoc]
    rfl

theorem performAll_tell (failures : List (Option String)) (a : IconAudience)
    (all : failures.length = a.pending.length) :
    (a.performAll (failures.map .tell)).heard = a.heard ++ a.pending ∧
      (a.performAll (failures.map .tell)).pending = [] := by
  induction failures generalizing a with
  | nil =>
    have done : a.pending = [] := List.eq_nil_of_length_eq_zero all.symm
    rw [done, List.append_nil]
    exact ⟨rfl, done⟩
  | cons failure rest ih =>
    cases pending : a.pending with
    | nil => simp [pending] at all
    | cons t more =>
      have now : (a.tell failure).pending = more ∧ (a.tell failure).heard = a.heard ++ [t] := by
        rw [IconAudience.tell, pending]
        exact ⟨rfl, rfl⟩
      have later := ih (a.tell failure) (by simpa [now.1, pending] using all)
      rw [now.1, now.2, List.append_assoc] at later
      exact later

/-- Where no observer does anything when it is told, all of them hear of an event in the order of
their subscriptions, whichever of them raise errors. -/
theorem heard_event (a : IconAudience) (quiet : a.pending = []) (e : IconEvent)
    (failures : List (Option String))
    (all : failures.length = (a.observers.tellings (a.registry.perform e).2).length) :
    (a.performAll (.happen e :: failures.map .tell)).heard.map (fun t => (t.1.2, t.2)) =
      a.heard.map (fun t => (t.1.2, t.2)) ++ a.observers.told (a.registry.perform e).2 := by
  have pending : (a.perform (.happen e)).pending =
      a.observers.tellings (a.registry.perform e).2 := by
    rw [perform, quiet, List.append_nil]
  have heard := (performAll_tell failures (a.perform (.happen e)) (by rw [pending, all])).1
  rw [performAll, heard, pending, List.map_append]
  rfl

/-- Errors that observers raise change nothing but what is noted about them. -/
theorem performAll_calm (steps : List IconStep)
    (failures : List (((Nat × String) × IconState) × String)) (a : IconAudience) :
    ({ a with failures } : IconAudience).performAll (steps.map IconStep.calm) =
      { a.performAll steps with failures } := by
  induction steps generalizing a with
  | nil => rfl
  | cons step rest ih =>
    have first : ({ a with failures } : IconAudience).perform step.calm =
        { a.perform step with failures } := by
      cases step with
      | tell failure =>
        obtain ⟨registry, observers, pending, heard, noted⟩ := a
        cases pending with
        | nil => rfl
        | cons t more => simp [IconStep.calm, perform, IconAudience.tell]
      | _ => rfl
    rw [List.map_cons, performAll, first, ih, performAll]

theorem Attends.received_eq (attends : Attends a k events told) (quiet : a.pending = [])
    (id : String) : a.received k id = about id told := by
  have delivered := attends.delivered id
  rwa [quiet, addressed, List.filter_nil, List.map_nil, List.append_nil] at delivered

theorem Attends.hears_loader (attends : Attends a k events told) (quiet : a.pending = [])
    {written : String} {label : Option String} (mem : .registerLoader written label ∈ events)
    (named : IconProvider.normalizeId written ≠ "") :
    ∃ n last, (a.received k (IconProvider.normalizeId written)).map (fun i => i.status) =
        .idle :: (List.replicate n [.loading, .error]).flatten ++ last ∧
      last ∈ [[], [.loading], [.loading, .ready]] := by
  obtain ⟨record, found, loader⟩ := attends.followed.kinds _ mem
    (IconProvider.normalizeId written) (by rw [IconEvent.registers?, if_neg named])
  have course := attends.followed.course (IconProvider.normalizeId written)
  rw [found] at course
  obtain ⟨n, statuses⟩ := course.loader loader
  rw [attends.received_eq quiet]
  refine ⟨n, _, statuses, ?_⟩
  cases record.status <;> simp [IconStatus.attempt]

theorem Attends.hears_ready (attends : Attends a k events told) (quiet : a.pending = [])
    {written : String} {provider : IconProvider} (mem : .register written provider ∈ events)
    (named : IconProvider.normalizeId written ≠ "") :
    (a.received k (IconProvider.normalizeId written)).map (fun i => i.status) = [.ready] := by
  obtain ⟨record, found, without⟩ := attends.followed.kinds _ mem
    (IconProvider.normalizeId written) (by rw [IconEvent.registers?, if_neg named])
  have course := attends.followed.course (IconProvider.normalizeId written)
  rw [found] at course
  obtain ⟨once, ready⟩ := course.ready without
  rw [attends.received_eq quiet, once, List.map_singleton, IconRecord.state, ready]

/-- What an observer is told next is so now. -/
theorem Attends.next (attends : Attends a k events told) {t : (Nat × String) × IconState}
    (next : a.pending.head? = some t) :
    (∀ written, IconProvider.normalizeId written = t.2.id ->
        a.registry.state? written = some t.2) ∧
      (t.2.error.isSome ↔ t.2.status = .error) := by
  have now := attends.present t (List.mem_of_mem_head? next)
  refine ⟨fun written spelled => ?_, ?_⟩
  · rw [IconRegistry.state?, IconRegistry.record?, spelled]
    exact now
  · obtain ⟨record, found, same⟩ := Option.map_eq_some_iff.mp now
    rw [← same]
    exact (attends.followed.sound.valid record (IconRegistry.knows_registered found)).error

/-- An observer that stays subscribed hears of a provider with a loader that it is idle, then of
attempts that fail, and of the last attempt as far as it has come; of a provider that is registered
ready it hears once; and the last that it hears about a provider is what the provider is. Whatever
is told is so at this moment, with an error just for a provider in error. Errors that observers
raise change nothing of this. -/
theorem hears_course {names : List String} {k : Nat} {steps : List IconStep}
    (subscribed : k < names.length) (stays : .unsubscribe k ∉ steps)
    (allowed : (ofNames names).AllowsAll steps)
    (once : ((steps.filterMap IconStep.event?).filterMap IconEvent.registers?).Nodup) :
    let a := (ofNames names).performAll steps
    (a.pending = [] ->
      (∀ written label, .happen (.registerLoader written label) ∈ steps ->
        IconProvider.normalizeId written ≠ "" ->
        ∃ n last, (a.received k (IconProvider.normalizeId written)).map (fun i => i.status) =
            .idle :: (List.replicate n [.loading, .error]).flatten ++ last ∧
          last ∈ [[], [.loading], [.loading, .ready]]) ∧
      (∀ written provider, .happen (.register written provider) ∈ steps ->
        IconProvider.normalizeId written ≠ "" ->
        (a.received k (IconProvider.normalizeId written)).map (fun i => i.status) = [.ready]) ∧
      ∀ written, (a.received k (IconProvider.normalizeId written)).getLast? =
        a.registry.state? written) ∧
    (∀ before failure after, steps = before ++ .tell failure :: after ->
      ∀ t, ((ofNames names).performAll before).pending.head? = some t ->
        (∀ written, IconProvider.normalizeId written = t.2.id ->
          ((ofNames names).performAll before).registry.state? written = some t.2) ∧
        (t.2.error.isSome ↔ t.2.status = .error)) ∧
    (ofNames names).performAll (steps.map IconStep.calm) = { a with failures := [] } := by
  intro a
  have initial := attends_ofNames subscribed
  refine ⟨fun quiet => ?_, ?_, performAll_calm steps [] (ofNames names)⟩
  · obtain ⟨told, attends⟩ := initial.performAll allowed stays once
    have event {e : IconEvent} (mem : .happen e ∈ steps) :
        e ∈ [] ++ steps.filterMap IconStep.event? :=
      List.mem_filterMap.mpr ⟨_, mem, rfl⟩
    refine ⟨fun written label mem named => attends.hears_loader quiet (event mem) named,
      fun written provider mem named => attends.hears_ready quiet (event mem) named,
      fun written => ?_⟩
    rw [attends.received_eq quiet, (attends.followed.course _).getLast?, IconRegistry.state?,
      IconRegistry.record?]
  · rintro before failure after rfl t next
    rw [List.filterMap_append, List.filterMap_append] at once
    obtain ⟨told, attends⟩ := initial.performAll (allowsAll_append.mp allowed).1
      (fun mem => stays (List.mem_append_left _ mem)) (List.nodup_append.mp once).1
    exact attends.next next

/-- One of two observers registers a provider when it is told of another one, and fails later on.
The other provider fails to load and is loaded again. -/
def retriedUnderFailures : List IconStep :=
  [.happen (.registerLoader " P " none), .tell none, .happen (.register "q" .lucide), .tell none,
    .tell none, .tell none, .happen (.request "p"), .happen (.start 2), .tell (some "broken"),
    .tell none, .happen (.finish 2 (.failed "network down")), .tell (some "broken"), .tell none,
    .happen (.request "p"), .happen (.start 3), .tell (some "broken"), .subscribe "third",
    .unsubscribe 0, .tell none, .happen (.finish 3 (.loaded .lucide)), .tell none, .tell none]

theorem retriedUnderFailures_heard :
    ((ofNames ["first", "second"]).performAll retriedUnderFailures).failures.length = 3 ∧
      (∃ n last, (((ofNames ["first", "second"]).performAll retriedUnderFailures).received 1
            (IconProvider.normalizeId " P ")).map (fun i => i.status) =
          .idle :: (List.replicate n [.loading, .error]).flatten ++ last ∧
        last ∈ [[], [.loading], [.loading, .ready]]) ∧
      (((ofNames ["first", "second"]).performAll retriedUnderFailures).received 1
        (IconProvider.normalizeId " P ")).map (fun i => i.status) =
        [.idle, .loading, .error, .loading, .ready] := by
  have stays : IconStep.unsubscribe 1 ∉ retriedUnderFailures := by simp [retriedUnderFailures]
  have allowed : (ofNames ["first", "second"]).AllowsAll retriedUnderFailures := by decide +kernel
  have once : ((retriedUnderFailures.filterMap IconStep.event?).filterMap
      IconEvent.registers?).Nodup := by
    decide +kernel
  have quiet : ((ofNames ["first", "second"]).performAll retriedUnderFailures).pending.length = 0 :=
    by decide +kernel
  have heard := (hears_course (k := 1) (by decide) stays allowed once).1
    (List.eq_nil_of_length_eq_zero quiet)
  exact ⟨by decide +kernel, heard.1 " P " none List.mem_cons_self (by decide +kernel),
    by decide +kernel⟩

end IconAudience

end ViewDoc
