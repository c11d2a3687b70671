import ViewDoc.Proofs.Icon.Sound
/-!
What icons are shown by. A reference amounts to an element by the provider that is ready for it, and
by nothing else. An event that changes which providers are ready tells observers of a record that is
ready or in error, unless it registers a loader under an id that is taken.
-/

set_option autoImplicit false

namespace ViewDoc

/-- The provider of a record, once it is ready. -/
def IconRecord.ready? (record : IconRecord) : Option IconProvider :=
  if record.status = .ready then record.provider else none

theorem IconRecord.ready?_of_ne {record : IconRecord} (unready : record.status ≠ .ready) :
    record.ready? = none := by
  rw [IconRecord.ready?, if_neg unready]

namespace IconRegistry

/-- The provider that is ready under a key. -/
def ready? (r : IconRegistry) (id : String) : Option IconProvider :=
  (Entries.get? r.records id).bind IconRecord.ready?

theorem resolve_element (r : IconRegistry) (ref : IconRef) :
    (r.resolve ref).element =
      (r.ready? (IconProvider.normalizeId ref.provider)).bind fun p =>
        p.resolve ref.name ref.variant := by
  unfold resolve record? ready?
  cases Entries.get? r.records (IconProvider.normalizeId ref.provider) with
  | none => rfl
  | some record =>
    simp only [Option.bind_some, IconRecord.ready?]
    cases record.status <;> cases record.provider <;> rfl

theorem resolve_status_ready {r : IconRegistry} {ref : IconRef} {element : String}
    (shown : (r.resolve ref).element = some element) : (r.resolve ref).status = some .ready := by
  unfold resolve at shown ⊢
  cases registered : r.record? ref.provider with
  | none => simp [registered] at shown
  | some record =>
    simp only [registered] at shown ⊢
    split at shown
    · rfl
    · cases shown

/-- An event that does not register a loader under an id that is taken. -/
def RegistersNew (r : IconRegistry) : IconEvent -> Prop
  | .registerLoader id _ => r.record? id = none
  | _ => True

theorem request_records (r : IconRegistry) (id : String) :
    (r.request id).1.records = r.records := by
  unfold request
  split
  · rfl
  · split
    · rfl
    · split <;> rfl

theorem seen_put (r : IconRegistry) (id : String) (make : Nat -> IconRecord) :
    (r.put id make).2 = [(make r.next).state] := by
  simp [put, seen, Entries.get?_set_self]

theorem ready?_put_of_ne (r : IconRegistry) {id other : String} (make : Nat -> IconRecord)
    (different : other ≠ id) : (r.put id make).1.ready? other = r.ready? other := by
  rw [ready?, put, Entries.get?_set_of_ne _ _ different, ready?]

/-- What is ready stays when the record of a load changes, if this record is as ready as it was. -/
theorem Sound.ready?_change {r : IconRegistry} (h : Sound r) {l : IconLoad} (mem : l ∈ r.loads)
    {f : IconRecord -> IconRecord} {id : String}
    (same : Entries.get? r.records id = some l.record -> (f l.record).ready? = l.record.ready?) :
    (r.change l.record.serial f).ready? id = r.ready? id := by
  rw [ready?, ready?, get?_change]
  cases registered : Entries.get? r.records id with
  | none => rfl
  | some record =>
    simp only [Option.map_some, Option.bind_some]
    by_cases serial : record.serial = l.record.serial
    · obtain rfl := h.eq_of_serial mem (knows_registered registered) serial
      rw [if_pos rfl]
      exact same registered
    · rw [if_neg serial]

theorem Sound.finish_told {r : IconRegistry} (h : Sound r) {l : IconLoad} (mem : l ∈ r.loads)
    (outcome : LoadOutcome) (registered : Entries.get? r.records l.record.id = some l.record) :
    (r.finish l.key outcome).2 = [(l.record.closed outcome).state] := by
  have told : (r.finish l.key outcome).2 = (r.finish l.key outcome).1.seen l.record.id := by
    rw [IconRegistry.finish, h.load?_eq mem]
  rw [told, seen, h.finish_records mem, get?_change, registered]
  simp

/-- An event that tells observers of nothing but records on their way to be ready leaves what is
ready as it is. -/
theorem Sound.ready?_perform {r : IconRegistry} (h : Sound r) {e : IconEvent} (allows : r.Allows e)
    (new : r.RegistersNew e) (pending : ∀ i ∈ (r.perform e).2, i.status.isPending = true)
    (id : String) : (r.perform e).1.ready? id = r.ready? id := by
  cases e with
  | register other provider =>
    simp only [IconRegistry.perform, IconRegistry.register] at pending ⊢
    split
    · rfl
    · rename_i named
      simp [if_neg named, seen_put, IconRecord.state, IconStatus.isPending] at pending
  | registerLoader other label =>
    simp only [IconRegistry.perform, IconRegistry.registerLoader]
    split
    · rfl
    · by_cases same : id = IconProvider.normalizeId other
      · have free : Entries.get? r.records id = none := same ▸ new
        rw [ready?, ready?, IconRegistry.put, free, same, Entries.get?_set_self]
        rfl
      · exact ready?_put_of_ne r _ same
  | request other =>
    rw [ready?, ready?, IconRegistry.perform, request_records]
  | start key =>
    obtain ⟨l, mem, rfl, -⟩ := allows
    rw [ready?, IconRegistry.perform, h.start_records mem]
    apply h.ready?_change mem
    intro _
    rw [IconRecord.ready?_of_ne (h.status l mem).1]
    rfl
  | finish key outcome =>
    obtain ⟨l, mem, rfl, -⟩ := allows
    rw [ready?, IconRegistry.perform, h.finish_records mem]
    apply h.ready?_change mem
    intro registered
    obtain rfl : l.record.id = id := h.keyed id l.record registered
    rw [IconRegistry.perform, h.finish_told mem outcome registered] at pending
    have settled := pending _ (List.mem_singleton_self _)
    cases outcome <;> simp [IconRecord.closed, IconRecord.state, IconStatus.isPending] at settled

end IconRegistry

end ViewDoc
