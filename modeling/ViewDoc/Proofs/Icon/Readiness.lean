import ViewDoc.Proofs.Icon.Sound
/-!
What a request for readiness leads to. A caller that awaits a load goes on when the load ends. When
that is a success, the provider is ready unless a record with a loader has replaced the one that the
load holds: the new record is idle then, and the caller is not told.
-/

set_option autoImplicit false

namespace ViewDoc

namespace IconRegistry

/-- A record with a loader has replaced the one that the load with a key holds. -/
def Outdated (r : IconRegistry) (key : Nat) : Prop :=
  ∃ l ∈ r.loads, l.key = key ∧ ∃ record, Entries.get? r.records l.record.id = some record ∧
    record.serial ≠ l.record.serial ∧ record.hasLoader = true

/-- The load with a key, while it has not ended, is one for an id under which a record is
registered. Later loads have other keys. -/
structure Serves (r : IconRegistry) (key : Nat) (id : String) : Prop where
  below : key < r.next
  owner : ∀ l ∈ r.loads, l.key = key -> l.record.id = id
  registered : (Entries.get? r.records id).isSome

namespace Serves

variable {r : IconRegistry} {key : Nat} {id : String}

theorem put (h : Serves r key id) (other : String) (make : Nat -> IconRecord) :
    Serves (r.put other make).1 key id := by
  refine ⟨Nat.lt_succ_of_lt h.below, h.owner, ?_⟩
  simp only [IconRegistry.put]
  by_cases same : id = other
  · subst same
    simp [Entries.get?_set_self]
  · rw [Entries.get?_set_of_ne _ _ same]
    exact h.registered

theorem request (h : Serves r key id) (other : String) : Serves (r.request other).1 key id := by
  rw [IconRegistry.request]
  split
  · exact h
  · split
    · exact h
    · split
      · exact h
      · refine ⟨Nat.lt_succ_of_lt h.below, ?_, h.registered⟩
        intro l mem own
        rcases List.mem_append.mp mem with old | new
        · exact h.owner l old own
        · have fresh : l.key = r.next := by rw [List.mem_singleton.mp new]
          have below := h.below
          omega

/-- The record of a load may change, as long as it keeps its id. -/
theorem change (h : Serves r key id) {s : IconRegistry} {serial : Nat}
    {f : IconRecord -> IconRecord} (records : s.records = (r.change serial f).records)
    (next : s.next = r.next)
    (loads : ∀ m ∈ s.loads, ∃ l ∈ r.loads, l.key = m.key ∧ l.record.id = m.record.id) :
    Serves s key id := by
  refine ⟨next ▸ h.below, ?_, ?_⟩
  · intro m mem own
    obtain ⟨l, old, same, owner⟩ := loads m mem
    rw [← owner]
    exact h.owner l old (same.trans own)
  · rw [records, get?_change, Option.isSome_map]
    exact h.registered

theorem perform (h : Serves r key id) (sound : Sound r) {e : IconEvent} (allows : r.Allows e) :
    Serves (r.perform e).1 key id := by
  cases e with
  | register other provider =>
    simp only [IconRegistry.perform, IconRegistry.register]
    split
    · exact h
    · exact h.put _ _
  | registerLoader other label =>
    simp only [IconRegistry.perform, IconRegistry.registerLoader]
    split
    · exact h
    · exact h.put _ _
  | request other => exact h.request other
  | start key =>
    obtain ⟨l, mem, rfl, -⟩ := allows
    rw [IconRegistry.perform, sound.start_eq mem]
    refine h.change rfl rfl ?_
    intro m held
    rcases (mem_opening_iff mem).mp held with rfl | ⟨old, -⟩
    · exact ⟨l, mem, rfl, rfl⟩
    · exact ⟨m, old, rfl, rfl⟩
  | finish key outcome =>
    obtain ⟨l, mem, rfl, -⟩ := allows
    rw [IconRegistry.perform, sound.finish_eq mem]
    refine h.change (f := fun record => record.closed outcome) rfl rfl ?_
    intro m held
    exact ⟨m, (mem_without_iff.mp held).1, rfl, rfl⟩

end Serves

/-- A request is answered with a load that serves its id. -/
theorem Sound.serves_of_awaits {r : IconRegistry} (h : Sound r) {id : String} {key : Nat}
    (awaits : (r.request id).2 = .awaits key) :
    Serves (r.request id).1 key (IconProvider.normalizeId id) := by
  have sound := h.request id
  rw [IconRegistry.request] at awaits sound ⊢
  split at awaits
  · cases awaits
  · rename_i record registered
    have own : record.id = IconProvider.normalizeId id := h.keyed _ record registered
    have present : (Entries.get? r.records (IconProvider.normalizeId id)).isSome := by
      rw [← IconRegistry.record?, registered]
      rfl
    split at awaits
    · cases awaits
    · rename_i unready
      split at awaits
      · rename_i load flying
        obtain rfl : load = key := IconRequest.awaits.inj awaits
        obtain ⟨l, mem, rfl, owner⟩ := (h.flying record.id load).mp flying
        simp only [unready, if_false]
        refine ⟨h.loadBelow l mem, ?_, present⟩
        intro m held same
        rw [h.eq_of_key held mem same, owner, own]
      · rename_i free
        obtain rfl : r.next = key := IconRequest.awaits.inj awaits
        simp only [registered, unready, if_false, free] at sound ⊢
        refine ⟨Nat.lt_succ_self _, ?_, present⟩
        intro m held same
        have new : (⟨r.next, record, false⟩ : IconLoad) ∈ r.loads ++ [⟨r.next, record, false⟩] := by
          simp
        rw [sound.eq_of_key held new same]
        exact own

/-- A load that succeeds leaves its id ready, unless it is outdated, and idle in this case. -/
theorem Sound.status_of_loaded {r : IconRegistry} (h : Sound r) {l : IconLoad} (mem : l ∈ r.loads)
    {old : IconRecord} (registered : Entries.get? r.records l.record.id = some old)
    (provider : IconProvider) :
    ∃ record, Entries.get? (r.finish l.key (.loaded provider)).1.records l.record.id = some record ∧
      ((r.Outdated l.key ∧ record.status = .idle) ∨
        (¬ r.Outdated l.key ∧ record.status = .ready)) := by
  have outdated : r.Outdated l.key ↔ old.serial ≠ l.record.serial ∧ old.hasLoader = true := by
    constructor
    · rintro ⟨m, held, key, record, found, replaced⟩
      obtain rfl := h.eq_of_key held mem key
      obtain rfl : old = record := Option.some.inj (registered.symm.trans found)
      exact replaced
    · intro replaced
      exact ⟨l, mem, rfl, old, registered, replaced⟩
  rw [h.finish_records mem, get?_change, registered, Option.map_some, outdated]
  by_cases serial : old.serial = l.record.serial
  · exact ⟨_, rfl, .inr ⟨by simp [serial], by simp [serial, IconRecord.closed]⟩⟩
  · refine ⟨old, by simp [serial], ?_⟩
    rcases h.replaced l mem old registered serial with idle | ⟨ready, without⟩
    · have loader : old.hasLoader = true :=
        (h.valid old (knows_registered registered)).loader (by simp [idle])
      exact .inl ⟨⟨serial, loader⟩, idle⟩
    · exact .inr ⟨by simp [without], ready⟩

/-- A caller that awaits a load which succeeds finds its provider ready just when the load is not
outdated at its end. Otherwise the provider is idle. -/
theorem awaited_loaded_status {r s : IconRegistry} {id : String} {key : Nat}
    {events : List IconEvent} {told : List IconState} {provider : IconProvider}
    (reachable : Reachable r) (awaits : (r.request id).2 = .awaits key)
    (run : Run (r.request id).1 events told s) (ends : s.Allows (.finish key (.loaded provider))) :
    ∃ record, (s.finish key (.loaded provider)).1.record? id = some record ∧
      (record.status = .ready ↔ ¬ s.Outdated key) ∧
      (record.status = .idle ↔ s.Outdated key) := by
  have asked : Sound (r.request id).1 := reachable.sound.request id
  obtain ⟨sound, serves⟩ : Sound s ∧ Serves s key (IconProvider.normalizeId id) :=
    run.keeps (P := fun s => Sound s ∧ Serves s key (IconProvider.normalizeId id))
      (fun _ _ h allows => ⟨h.1.perform allows, h.2.perform h.1 allows⟩)
      ⟨asked, reachable.sound.serves_of_awaits awaits⟩
  obtain ⟨l, mem, rfl, -⟩ := ends
  have owner := serves.owner l mem rfl
  obtain ⟨old, registered⟩ := Option.isSome_iff_exists.mp serves.registered
  rw [← owner] at registered
  obtain ⟨record, found, status⟩ := sound.status_of_loaded mem registered provider
  refine ⟨record, ?_, ?_⟩
  · rw [record?, ← owner]
    exact found
  · rcases status with ⟨outdated, idle⟩ | ⟨current, ready⟩
    · simp [outdated, idle]
    · simp [current, ready]

/-- A provider with a loader, as a caller begins to wait for it. -/
def waitedFor : IconRegistry × IconRequest :=
  (performAll {} [.registerLoader "p" none]).request " P "

/-- The load starts, and its record is registered again. -/
def overtaken : List IconEvent :=
  [.start 1, .registerLoader "p" none]

theorem overtaken_idle :
    waitedFor.2 = .awaits 1 ∧ waitedFor.1.AllowsAll overtaken ∧
      ∃ record, ((waitedFor.1.performAll overtaken).finish 1 (.loaded .lucide)).1.record? " P " =
        some record ∧ record.status = .idle := by
  have reachable : Reachable (performAll {} [.registerLoader "p" none]) :=
    reachable_performAll (by decide)
  have awaits : waitedFor.2 = .awaits 1 := by decide
  have allowed : waitedFor.1.AllowsAll overtaken := by decide
  have ends : (waitedFor.1.performAll overtaken).Allows (.finish 1 (.loaded .lucide)) := by decide
  have outdated : (waitedFor.1.performAll overtaken).Outdated 1 :=
    ⟨_, .head _, rfl, _, rfl, by decide, rfl⟩
  obtain ⟨told, run⟩ := run_performAll allowed
  obtain ⟨record, found, -, idle⟩ := awaited_loaded_status reachable awaits run ends
  exact ⟨awaits, allowed, record, found, idle.mpr outdated⟩

end IconRegistry

end ViewDoc
