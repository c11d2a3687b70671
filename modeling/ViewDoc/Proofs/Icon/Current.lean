import ViewDoc.Proofs.Icon.Shown
/-!
The record that loads are for. As long as the provider of an id is not registered again, every load
of the id holds the record that is registered under it, and requests that come while a load is on
its way await this load.
-/

set_option autoImplicit false

namespace ViewDoc

/-- Whether an event registers a provider, ready or with a loader. -/
def IconEvent.isRegistration : IconEvent -> Bool
  | .register .. | .registerLoader .. => true
  | _ => false

/-- Whether an event registers a provider with a loader. -/
def IconEvent.hasLoader : IconEvent -> Bool
  | .registerLoader .. => true
  | _ => false

namespace IconRegistry

variable {r : IconRegistry} {id : String}

/-- Whether a call for an id finds a provider that is neither ready nor in flight. -/
def opens (r : IconRegistry) (id : String) : Bool :=
  match r.record? id with
  | none => false
  | some record =>
    decide (record.status ≠ .ready) && (Entries.get? r.inFlight record.id).isNone

/-- Every load of an id holds the record that is registered under the id. -/
def Current (r : IconRegistry) (id : String) : Prop :=
  ∀ l ∈ r.loads, l.record.id = id -> Entries.get? r.records id = some l.record

/-- What a request finds: nothing, a provider that is ready, a load on its way, or none, where it
schedules one. -/
theorem Sound.request_cases (h : Sound r) (written : String) :
    (r.opens written = false ∧ ((r.request written) = (r, .unknown) ∨
        (r.request written) = (r, .ready) ∨
        ∃ l ∈ r.loads, r.request written = (r, .awaits l.key))) ∨
      r.opens written = true ∧ ∃ record,
        Entries.get? r.records (IconProvider.normalizeId written) = some record ∧
        (∀ l ∈ r.loads, l.record.id ≠ IconProvider.normalizeId written) ∧
        r.request written = (r.scheduling record, .awaits r.next) := by
  cases found : r.record? written with
  | none => exact .inl ⟨by simp [opens, found], .inl (by simp [IconRegistry.request, found])⟩
  | some record =>
    by_cases ready : record.status = .ready
    · exact .inl ⟨by simp [opens, found, ready],
        .inr (.inl (by simp [IconRegistry.request, found, ready]))⟩
    · cases flying : Entries.get? r.inFlight record.id with
      | some key =>
        obtain ⟨l, mem, rfl, -⟩ := (h.flying record.id key).mp flying
        exact .inl ⟨by simp [opens, found, flying],
          .inr (.inr ⟨l, mem, by simp [IconRegistry.request, found, ready, flying]⟩)⟩
      | none =>
        have own : record.id = IconProvider.normalizeId written := h.keyed _ record found
        refine .inr ⟨by simp [opens, found, ready, flying], record, found, ?_,
          by simp [IconRegistry.request, found, ready, flying, scheduling]⟩
        exact fun l mem => own ▸ h.id_ne_of_free flying mem

/-- A request for an id with a load on its way awaits this load and schedules none. -/
theorem Sound.request_of_current (h : Sound r) (current : Current r id) {l : IconLoad}
    (mem : l ∈ r.loads) (own : l.record.id = id) {written : String}
    (spelled : IconProvider.normalizeId written = id) :
    r.request written = (r, .awaits l.key) ∧ r.opens written = false := by
  have found : r.record? written = some l.record := by
    rw [record?, spelled]
    exact current l mem own
  have unready := (h.status l mem).1
  have flying := (h.flying l.record.id l.key).mpr ⟨l, mem, rfl, rfl⟩
  exact ⟨by simp [IconRegistry.request, found, unready, flying],
    by simp [opens, found, unready, flying]⟩

/-- A registered record stays when another record changes. -/
theorem get?_change_of_ne {record : IconRecord} {serial : Nat} {f : IconRecord -> IconRecord}
    (registered : Entries.get? r.records id = some record) (other : record.serial ≠ serial) :
    Entries.get? (r.change serial f).records id = some record := by
  simp [get?_change, registered, other]

/-- Nothing becomes of an id: neither of the record that is registered under it, nor of loads. -/
structure Leaves (r s : IconRegistry) (id : String) : Prop where
  record : Entries.get? s.records id = Entries.get? r.records id
  loads : s.loads = r.loads

/-- A registration puts a record under an id, or does nothing. -/
theorem registration_cases (r : IconRegistry) {e : IconEvent}
    (registration : e.isRegistration = true) :
    (e.registers? = none ∧ r.perform e = (r, [])) ∨
      ∃ key make, e.registers? = some key ∧ r.perform e = r.put key make ∧
        (make r.next).id = key ∧ (make r.next).hasLoader = e.hasLoader ∧
        (make r.next).status = if e.hasLoader then .idle else .ready := by
  cases e with
  | register written provider =>
    by_cases blank : IconProvider.normalizeId written = ""
    · exact .inl ⟨by rw [IconEvent.registers?, if_pos blank],
        by simp only [perform, register, if_pos blank]⟩
    · refine .inr ⟨IconProvider.normalizeId written, fun serial =>
        { serial, id := IconProvider.normalizeId written,
          label := (provider.label.filter (· ≠ "")).getD (Text.trim written), status := .ready,
          provider := some provider }, ?_, ?_, rfl, rfl, rfl⟩
      · rw [IconEvent.registers?, if_neg blank]
      · simp only [perform, register, if_neg blank]
  | registerLoader written label =>
    by_cases blank : IconProvider.normalizeId written = ""
    · exact .inl ⟨by rw [IconEvent.registers?, if_pos blank],
        by simp only [perform, registerLoader, if_pos blank]⟩
    · refine .inr ⟨IconProvider.normalizeId written, fun serial =>
        { serial, id := IconProvider.normalizeId written,
          label := (label.filter (· ≠ "")).getD (Text.trim written), status := .idle,
          hasLoader := true }, ?_, ?_, rfl, rfl, rfl⟩
      · rw [IconEvent.registers?, if_neg blank]
      · simp only [perform, registerLoader, if_neg blank]
  | _ => cases registration

section

variable {e : IconEvent} (registration : e.isRegistration = true)

include registration

theorem leaves_registration (kept : e.registers? ≠ some id) : Leaves r (r.perform e).1 id := by
  rcases r.registration_cases registration with ⟨-, same⟩ | ⟨key, make, registers, put, -⟩
  · rw [same]
    exact ⟨rfl, rfl⟩
  · rw [put]
    refine ⟨Entries.get?_set_of_ne _ _ fun same => kept ?_, rfl⟩
    rw [registers, same]

theorem loads_registration : (r.perform e).1.loads = r.loads := by
  rcases r.registration_cases registration with ⟨-, same⟩ | ⟨key, make, -, put, -⟩
  · rw [same]
  · rw [put]
    rfl

theorem next_le_registration : r.next ≤ (r.perform e).1.next := by
  rcases r.registration_cases registration with ⟨-, same⟩ | ⟨key, make, -, put, -⟩
  · exact Nat.le_of_eq (by rw [same])
  · rw [put]
    exact Nat.le_succ _

end

theorem Current.leaves (current : Current r id) {s : IconRegistry} (leaves : Leaves r s id) :
    Current s id := by
  intro l mem own
  rw [leaves.record]
  exact current l (leaves.loads ▸ mem) own

/-- A load is scheduled for the record that is registered, and stays a load of this record. -/
theorem Current.perform (current : Current r id) (h : Sound r) {e : IconEvent}
    (allows : r.Allows e) (kept : e.registers? ≠ some id) : Current (r.perform e).1 id := by
  cases e with
  | register _ _ | registerLoader _ _ => exact current.leaves (leaves_registration rfl kept)
  | request written =>
    rw [IconRegistry.perform]
    rcases h.request_cases written with ⟨-, same | same | ⟨l, -, same⟩⟩ | ⟨-, record, found, -, new⟩
    · rw [same]
      exact current
    · rw [same]
      exact current
    · rw [same]
      exact current
    · rw [new]
      intro l mem own
      rcases mem_scheduling_iff.mp mem with old | rfl
      · exact current l old own
      · have key : record.id = IconProvider.normalizeId written := h.keyed _ record found
        rw [← own, key]
        exact found
  | start key =>
    obtain ⟨l, mem, rfl, -⟩ := allows
    rw [IconRegistry.perform, h.start_eq mem]
    intro m held own
    rcases (mem_opening_iff mem).mp held with rfl | ⟨old, other⟩
    · have registered := current l mem own
      simp [get?_change, registered]
    · exact get?_change_of_ne (current m old own) (h.serial_ne mem old other)
  | finish key outcome =>
    obtain ⟨l, mem, rfl, -⟩ := allows
    rw [IconRegistry.perform, h.finish_eq mem]
    intro m held own
    obtain ⟨old, other⟩ := mem_without_iff.mp held
    have different := h.serial_ne mem old other
    exact get?_change_of_ne (f := fun record => record.closed outcome) (current m old own) different

end IconRegistry

end ViewDoc
