import Mathlib.Data.List.Nodup
import ViewDoc.Proofs.Icon.Run
/-!
What holds of a registry of icon providers in every run. A record is known while it is registered or
held by a load. The main statement tells, of all that is known, which records have a provider, a
loader and an error, and that no two loads of one id are ever on their way.
-/

set_option autoImplicit false

namespace ViewDoc

namespace IconRecord

/-- A record has what its status tells. -/
structure Valid (record : IconRecord) : Prop where
  provider : record.status = .ready -> record.provider.isSome
  loader : record.status ≠ .ready -> record.hasLoader = true
  error : record.error.isSome ↔ record.status = .error

/-- A record that replaced another one is as it was when it was registered. -/
def Untouched (record : IconRecord) : Prop :=
  record.status = .idle ∨ record.status = .ready ∧ record.hasLoader = false

theorem Valid.opened {record : IconRecord} (valid : record.Valid)
    (unready : record.status ≠ .ready) : record.opened.Valid := by
  refine ⟨?_, fun _ => valid.loader unready, ?_⟩ <;> simp [IconRecord.opened]

theorem Valid.closed {record : IconRecord} (valid : record.Valid)
    (loading : record.status = .loading) (outcome : LoadOutcome) :
    (record.closed outcome).Valid := by
  have loader : record.hasLoader = true := valid.loader (by simp [loading])
  have error : record.error = none := by simpa [loading] using valid.error
  cases outcome with
  | failed reason =>
    exact ⟨by simp [IconRecord.closed], fun _ => loader, by simp [IconRecord.closed]⟩
  | loaded provider =>
    exact ⟨by simp [IconRecord.closed], fun _ => loader, by simp [IconRecord.closed, error]⟩

end IconRecord

namespace IconRegistry

/-- The loads after one of them has started. -/
def opening (r : IconRegistry) (l : IconLoad) : List IconLoad :=
  r.loads.map fun m => if m.key = l.key then ⟨l.key, l.record.opened, true⟩ else m

/-- The loads after one of them has ended. -/
def without (r : IconRegistry) (l : IconLoad) : List IconLoad :=
  r.loads.filter fun m => m.key ≠ l.key

/-- The registry after a load of a record has been scheduled. -/
def scheduling (r : IconRegistry) (record : IconRecord) : IconRegistry :=
  { r with inFlight := Entries.set r.inFlight record.id r.next,
           loads := r.loads ++ [⟨r.next, record, false⟩], next := r.next + 1 }

/-- A record that is registered or held. -/
def Knows (r : IconRegistry) (record : IconRecord) : Prop :=
  (∃ id, Entries.get? r.records id = some record) ∨ ∃ l ∈ r.loads, l.record = record

/-- What holds of a registry between any two events. -/
structure Sound (r : IconRegistry) : Prop where
  keyed : ∀ id record, Entries.get? r.records id = some record -> record.id = id
  valid : ∀ record, r.Knows record -> record.Valid
  below : ∀ record, r.Knows record -> record.serial < r.next
  same : ∀ a b, r.Knows a -> r.Knows b -> a.serial = b.serial -> a = b
  loadBelow : ∀ l ∈ r.loads, l.key < r.next
  keys : (r.loads.map fun l => l.key).Nodup
  ids : (r.loads.map fun l => l.record.id).Nodup
  flying : ∀ id key, Entries.get? r.inFlight id = some key ↔
    ∃ l ∈ r.loads, l.key = key ∧ l.record.id = id
  status : ∀ l ∈ r.loads, l.record.status ≠ .ready ∧ (l.record.status = .loading ↔ l.started = true)
  loading : ∀ id record, Entries.get? r.records id = some record -> record.status = .loading ->
    ∃ l ∈ r.loads, l.record = record
  replaced : ∀ l ∈ r.loads, ∀ record, Entries.get? r.records l.record.id = some record ->
    record.serial ≠ l.record.serial -> record.Untouched

theorem knows_registered {r : IconRegistry} {id : String} {record : IconRecord}
    (registered : Entries.get? r.records id = some record) : r.Knows record :=
  .inl ⟨id, registered⟩

theorem knows_held {r : IconRegistry} {l : IconLoad} (mem : l ∈ r.loads) : r.Knows l.record :=
  .inr ⟨l, mem, rfl⟩

theorem get?_change (r : IconRegistry) (serial : Nat) (f : IconRecord -> IconRecord) (id : String) :
    Entries.get? (r.change serial f).records id =
      (Entries.get? r.records id).map fun record =>
        if record.serial = serial then f record else record :=
  Entries.get?_map (fun record : IconRecord => if record.serial = serial then f record else record)
    r.records id

theorem mem_opening_iff {r : IconRegistry} {l m : IconLoad} (mem : l ∈ r.loads) :
    m ∈ r.opening l ↔ m = ⟨l.key, l.record.opened, true⟩ ∨ m ∈ r.loads ∧ m.key ≠ l.key := by
  constructor
  · intro held
    obtain ⟨old, was, rfl⟩ := List.mem_map.mp held
    by_cases key : old.key = l.key
    · exact .inl (by simp [key])
    · exact .inr (by simpa [key] using was)
  · rintro (rfl | ⟨was, key⟩)
    · exact List.mem_map.mpr ⟨l, mem, by simp⟩
    · exact List.mem_map.mpr ⟨m, was, by simp [key]⟩

theorem keys_opening (r : IconRegistry) (l : IconLoad) :
    (r.opening l).map (fun m => m.key) = r.loads.map fun m => m.key := by
  rw [opening, List.map_map]
  refine List.map_congr_left fun m _ => ?_
  by_cases key : m.key = l.key <;> simp [key]

theorem mem_without_iff {r : IconRegistry} {l m : IconLoad} :
    m ∈ r.without l ↔ m ∈ r.loads ∧ m.key ≠ l.key := by
  simp [without, List.mem_filter]

/-- What a registration leaves under an id: the new record, or what was there under another one. -/
theorem registered_put {r : IconRegistry} {make : Nat -> IconRecord} {id other : String}
    {record : IconRecord} (registered : Entries.get? (r.put id make).1.records other = some record) :
    (other = id ∧ record = make r.next) ∨
      other ≠ id ∧ Entries.get? r.records other = some record := by
  by_cases same : other = id
  · subst same
    rw [IconRegistry.put, Entries.get?_set_self] at registered
    exact .inl ⟨rfl, (Option.some.inj registered).symm⟩
  · rw [IconRegistry.put, Entries.get?_set_of_ne _ _ same] at registered
    exact .inr ⟨same, registered⟩

theorem knows_put {r : IconRegistry} {make : Nat -> IconRecord} {id : String} {record : IconRecord}
    (known : (r.put id make).1.Knows record) : record = make r.next ∨ r.Knows record := by
  rcases known with ⟨other, registered⟩ | held
  · rcases registered_put registered with ⟨-, new⟩ | ⟨-, old⟩
    · exact .inl new
    · exact .inr (knows_registered old)
  · exact .inr (.inr held)

theorem mem_scheduling_iff {r : IconRegistry} {record : IconRecord} {l : IconLoad} :
    l ∈ (r.scheduling record).loads ↔ l ∈ r.loads ∨ l = ⟨r.next, record, false⟩ := by
  simp [scheduling]

theorem knows_scheduling {r : IconRegistry} {record other : IconRecord} (registered : r.Knows record)
    (known : (r.scheduling record).Knows other) : r.Knows other := by
  rcases known with registered' | ⟨l, mem, rfl⟩
  · exact .inl registered'
  · rcases mem_scheduling_iff.mp mem with old | rfl
    · exact knows_held old
    · exact registered

/-- What tells loads apart still does when the new load differs from them in it. -/
theorem nodup_map_scheduling {r : IconRegistry} {record : IconRecord} {α : Type}
    {f : IconLoad -> α} (distinct : (r.loads.map f).Nodup)
    (new : ∀ l ∈ r.loads, f l ≠ f ⟨r.next, record, false⟩) :
    ((r.scheduling record).loads.map f).Nodup := by
  rw [scheduling, List.map_append, List.map_singleton, ← List.concat_eq_append]
  refine distinct.concat fun mem => ?_
  obtain ⟨l, old, same⟩ := List.mem_map.mp mem
  exact new l old same

theorem sound_empty : Sound {} := by
  have nothing : ∀ record, ¬ Knows {} record := by
    rintro record (⟨id, registered⟩ | ⟨l, mem, -⟩)
    · simp at registered
    · simp at mem
  refine ⟨?_, ?_, ?_, ?_, ?_, ?_, ?_, ?_, ?_, ?_, ?_⟩
  · simp
  · exact fun record known => absurd known (nothing record)
  · exact fun record known => absurd known (nothing record)
  · exact fun a b known => absurd known (nothing a)
  all_goals simp

namespace Sound

variable {r : IconRegistry}

theorem eq_of_key (h : Sound r) {l m : IconLoad} (hl : l ∈ r.loads) (hm : m ∈ r.loads)
    (key : l.key = m.key) : l = m :=
  List.inj_on_of_nodup_map h.keys hl hm key

theorem eq_of_id (h : Sound r) {l m : IconLoad} (hl : l ∈ r.loads) (hm : m ∈ r.loads)
    (id : l.record.id = m.record.id) : l = m :=
  List.inj_on_of_nodup_map h.ids hl hm id

/-- A registered record with the serial number of a held one is the held one. -/
theorem eq_of_serial (h : Sound r) {l : IconLoad} (mem : l ∈ r.loads) {record : IconRecord}
    (known : r.Knows record) (serial : record.serial = l.record.serial) : record = l.record :=
  h.same record l.record known (knows_held mem) serial

theorem load?_eq (h : Sound r) {l : IconLoad} (mem : l ∈ r.loads) : r.load? l.key = some l := by
  cases found : r.load? l.key with
  | none =>
    have fails := List.find?_eq_none.mp found l mem
    simp at fails
  | some m =>
    have key : m.key = l.key := by simpa using List.find?_some found
    rw [h.eq_of_key (List.mem_of_find?_eq_some found) mem key]

theorem hasLoader (h : Sound r) {l : IconLoad} (mem : l ∈ r.loads) : l.record.hasLoader = true :=
  (h.valid _ (knows_held mem)).loader (h.status l mem).1

/-- No load is ever without a loader. -/
theorem refuses_eq_false (h : Sound r) (key : Nat) : r.refuses key = false := by
  rw [refuses]
  cases found : r.load? key with
  | none => rfl
  | some l => simp [h.hasLoader (List.mem_of_find?_eq_some found)]

/-- A record with the next serial number may be registered under its id. -/
theorem put (h : Sound r) {make : Nat -> IconRecord} {id : String}
    (serial : (make r.next).serial = r.next) (own : (make r.next).id = id)
    (valid : (make r.next).Valid) (untouched : (make r.next).Untouched) :
    Sound (r.put id make).1 := by
  refine ⟨?_, ?_, ?_, ?_, ?_, h.keys, h.ids, h.flying, h.status, ?_, ?_⟩
  · intro other record registered
    rcases registered_put registered with ⟨rfl, rfl⟩ | ⟨-, old⟩
    · exact own
    · exact h.keyed other record old
  · intro record known
    rcases knows_put known with rfl | old
    · exact valid
    · exact h.valid record old
  · intro record known
    change record.serial < r.next + 1
    rcases knows_put known with rfl | old
    · omega
    · exact Nat.lt_succ_of_lt (h.below record old)
  · intro a b knownA knownB equal
    rcases knows_put knownA with rfl | oldA <;> rcases knows_put knownB with rfl | oldB
    · rfl
    · have := h.below b oldB
      omega
    · have := h.below a oldA
      omega
    · exact h.same a b oldA oldB equal
  · intro l mem
    exact Nat.lt_succ_of_lt (h.loadBelow l mem)
  · intro other record registered loading
    rcases registered_put registered with ⟨-, rfl⟩ | ⟨-, old⟩
    · rcases untouched with idle | ⟨ready, -⟩
      · simp [idle] at loading
      · simp [ready] at loading
    · exact h.loading other record old loading
  · intro l mem record registered different
    rcases registered_put registered with ⟨-, rfl⟩ | ⟨-, old⟩
    · exact untouched
    · exact h.replaced l mem record old different

theorem register (h : Sound r) (id : String) (provider : IconProvider) :
    Sound (r.register id provider).1 := by
  rw [IconRegistry.register]
  split
  · exact h
  · exact h.put rfl rfl ⟨by simp, by simp, by simp⟩ (.inr ⟨rfl, rfl⟩)

theorem registerLoader (h : Sound r) (id : String) (label : Option String) :
    Sound (r.registerLoader id label).1 := by
  rw [IconRegistry.registerLoader]
  split
  · exact h
  · exact h.put rfl rfl ⟨by simp, by simp, by simp⟩ (.inl rfl)

/-- Where no load is in flight for an id, none of the id is on its way. -/
theorem id_ne_of_free (h : Sound r) {id : String} (free : Entries.get? r.inFlight id = none)
    {l : IconLoad} (mem : l ∈ r.loads) : l.record.id ≠ id := by
  rintro rfl
  have found := (h.flying l.record.id l.key).mpr ⟨l, mem, rfl, rfl⟩
  rw [free] at found
  cases found

/-- The load that is scheduled for an id with none is in flight for it. -/
theorem flying_scheduling (h : Sound r) {record : IconRecord}
    (alone : ∀ l ∈ r.loads, l.record.id ≠ record.id) (id : String) (key : Nat) :
    Entries.get? (r.scheduling record).inFlight id = some key ↔
      ∃ l ∈ (r.scheduling record).loads, l.key = key ∧ l.record.id = id := by
  by_cases same : id = record.id
  · subst same
    rw [scheduling, Entries.get?_set_self]
    constructor
    · intro found
      exact ⟨_, mem_scheduling_iff.mpr (.inr rfl), Option.some.inj found, rfl⟩
    · rintro ⟨l, mem, rfl, own⟩
      rcases mem_scheduling_iff.mp mem with old | rfl
      · exact absurd own (alone l old)
      · rfl
  · rw [scheduling, Entries.get?_set_of_ne _ _ same, h.flying]
    constructor
    · rintro ⟨l, mem, found⟩
      exact ⟨l, mem_scheduling_iff.mpr (.inl mem), found⟩
    · rintro ⟨l, mem, key, own⟩
      rcases mem_scheduling_iff.mp mem with old | rfl
      · exact ⟨l, old, key, own⟩
      · exact absurd own.symm same

/-- A load of a registered record may be scheduled where none is in flight. -/
theorem schedule (h : Sound r) {id : String} {record : IconRecord}
    (registered : Entries.get? r.records id = some record) (unready : record.status ≠ .ready)
    (free : Entries.get? r.inFlight record.id = none) : Sound (r.scheduling record) := by
  have alone : ∀ l ∈ r.loads, l.record.id ≠ record.id := fun _ mem => h.id_ne_of_free free mem
  have resting : record.status ≠ .loading := by
    intro loading
    obtain ⟨l, mem, held⟩ := h.loading id record registered loading
    exact alone l mem (held ▸ rfl)
  have known {other : IconRecord} : (r.scheduling record).Knows other -> r.Knows other :=
    knows_scheduling (knows_registered registered)
  refine ⟨h.keyed, ?_, ?_, ?_, ?_, ?_, ?_, h.flying_scheduling alone, ?_, ?_, ?_⟩
  · exact fun other now => h.valid other (known now)
  · exact fun other now => Nat.lt_succ_of_lt (h.below other (known now))
  · exact fun a b nowA nowB => h.same a b (known nowA) (known nowB)
  · intro l mem
    rcases mem_scheduling_iff.mp mem with old | rfl
    · exact Nat.lt_succ_of_lt (h.loadBelow l old)
    · exact Nat.lt_succ_self _
  · exact nodup_map_scheduling h.keys fun l mem => Nat.ne_of_lt (h.loadBelow l mem)
  · exact nodup_map_scheduling h.ids alone
  · intro l mem
    rcases mem_scheduling_iff.mp mem with old | rfl
    · exact h.status l old
    · exact ⟨unready, by simp [resting]⟩
  · intro other record' registered' loading
    obtain ⟨l, mem, held⟩ := h.loading other record' registered' loading
    exact ⟨l, mem_scheduling_iff.mpr (.inl mem), held⟩
  · intro l mem record' registered' different
    rcases mem_scheduling_iff.mp mem with old | rfl
    · exact h.replaced l old record' registered' different
    · have same : some record = some record' := by
        rw [← registered, ← h.keyed id record registered]
        exact registered'
      exact absurd (congrArg IconRecord.serial (Option.some.inj same).symm) different

theorem request (h : Sound r) (id : String) : Sound (r.request id).1 := by
  rw [IconRegistry.request]
  split
  · exact h
  · rename_i record registered
    split
    · exact h
    · rename_i unready
      split
      · exact h
      · rename_i free
        exact h.schedule registered unready free

/-- The registered records after the record of a load has changed. -/
theorem registered_of_change (h : Sound r) {l : IconLoad} (mem : l ∈ r.loads)
    {f : IconRecord -> IconRecord} {id : String} {record : IconRecord}
    (registered : Entries.get? (r.change l.record.serial f).records id = some record) :
    (Entries.get? r.records id = some record ∧ record.serial ≠ l.record.serial) ∨
      Entries.get? r.records id = some l.record ∧ record = f l.record := by
  rw [get?_change] at registered
  obtain ⟨old, found, rfl⟩ := Option.map_eq_some_iff.mp registered
  by_cases serial : old.serial = l.record.serial
  · obtain rfl := h.eq_of_serial mem (knows_registered found) serial
    exact .inr ⟨found, by simp⟩
  · simp only [serial, if_false]
    exact .inl ⟨found, serial⟩

theorem serial_ne (h : Sound r) {l m : IconLoad} (hl : l ∈ r.loads) (hm : m ∈ r.loads)
    (key : m.key ≠ l.key) : m.record.serial ≠ l.record.serial := by
  intro serial
  have same := h.eq_of_serial hl (knows_held hm) serial
  exact key (congrArg IconLoad.key (h.eq_of_id hm hl (congrArg IconRecord.id same)))

theorem key_ne (h : Sound r) {l m : IconLoad} (hl : l ∈ r.loads) (hm : m ∈ r.loads)
    (serial : m.record.serial ≠ l.record.serial) : m.key ≠ l.key := by
  intro key
  exact serial (congrArg (fun m => m.record.serial) (h.eq_of_key hm hl key))

/-- The start of a load opens the record that it holds, wherever this one is. -/
theorem start_eq (h : Sound r) {l : IconLoad} (mem : l ∈ r.loads) :
    (r.start l.key).1 =
      { r.change l.record.serial IconRecord.opened with loads := r.opening l } := by
  rw [IconRegistry.start, h.load?_eq mem]
  simp only [h.refuses_eq_false, Bool.false_eq_true, if_false, IconRegistry.change, List.map_map]
  congr 1
  refine List.map_congr_left fun m hm => ?_
  by_cases key : m.key = l.key
  · obtain rfl := h.eq_of_key hm mem key
    simp
  · simp [key, h.serial_ne mem hm key]

theorem ids_opening (h : Sound r) {l : IconLoad} (mem : l ∈ r.loads) :
    (r.opening l).map (fun m => m.record.id) = r.loads.map fun m => m.record.id := by
  rw [opening, List.map_map]
  refine List.map_congr_left fun m held => ?_
  by_cases key : m.key = l.key
  · obtain rfl := h.eq_of_key held mem key
    simp [IconRecord.opened]
  · simp [key]

/-- The end of a load closes the record that it holds, wherever this one is. -/
theorem finish_eq (h : Sound r) {l : IconLoad} (mem : l ∈ r.loads) (outcome : LoadOutcome) :
    (r.finish l.key outcome).1 =
      { r.change l.record.serial (fun record => record.closed outcome) with
        inFlight := Entries.erase r.inFlight l.record.id,
        loads := r.without l } := by
  rw [IconRegistry.finish, h.load?_eq mem]
  simp only [IconRegistry.change, IconRegistry.drop]
  congr 1
  refine (List.map_congr_left fun m hm => ?_).trans (List.map_id _)
  obtain ⟨hm, key⟩ := mem_without_iff.mp hm
  simp [h.serial_ne mem hm key]

theorem start_records (h : Sound r) {l : IconLoad} (mem : l ∈ r.loads) :
    (r.start l.key).1.records = (r.change l.record.serial IconRecord.opened).records := by
  rw [h.start_eq mem]

theorem finish_records (h : Sound r) {l : IconLoad} (mem : l ∈ r.loads) (outcome : LoadOutcome) :
    (r.finish l.key outcome).1.records =
      (r.change l.record.serial fun record => record.closed outcome).records := by
  rw [h.finish_eq mem]

/-- What is known after the record of a load has changed: what was known and is not this record, and
the record as it is now. -/
theorem known_of_change (h : Sound r) {l : IconLoad} (mem : l ∈ r.loads)
    {f : IconRecord -> IconRecord} {s : IconRegistry}
    (records : s.records = (r.change l.record.serial f).records)
    (loads : ∀ m ∈ s.loads, m.record = f l.record ∨ m ∈ r.loads ∧ m.key ≠ l.key)
    {record : IconRecord} (known : s.Knows record) :
    record = f l.record ∨ r.Knows record ∧ record.serial ≠ l.record.serial := by
  rcases known with ⟨id, registered⟩ | ⟨m, held, rfl⟩
  · rw [records] at registered
    rcases h.registered_of_change mem registered with ⟨old, different⟩ | ⟨-, now⟩
    · exact .inr ⟨knows_registered old, different⟩
    · exact .inl now
  · rcases loads m held with now | ⟨old, key⟩
    · exact .inl now
    · exact .inr ⟨knows_held old, h.serial_ne mem old key⟩

/-- What holds of records stays when the record of a load changes and stays valid. -/
theorem records_of_change (h : Sound r) {l : IconLoad} (mem : l ∈ r.loads)
    {f : IconRecord -> IconRecord} {s : IconRegistry}
    (records : s.records = (r.change l.record.serial f).records) (next : s.next = r.next)
    (loads : ∀ m ∈ s.loads, m.record = f l.record ∨ m ∈ r.loads ∧ m.key ≠ l.key)
    (valid : (f l.record).Valid) (serial : (f l.record).serial = l.record.serial)
    (own : (f l.record).id = l.record.id) :
    (∀ id record, Entries.get? s.records id = some record -> record.id = id) ∧
      (∀ record, s.Knows record -> record.Valid) ∧
      (∀ record, s.Knows record -> record.serial < s.next) ∧
      (∀ a b, s.Knows a -> s.Knows b -> a.serial = b.serial -> a = b) := by
  refine ⟨?_, ?_, ?_, ?_⟩
  · intro id record registered
    rw [records] at registered
    rcases h.registered_of_change mem registered with ⟨old, -⟩ | ⟨old, rfl⟩
    · exact h.keyed id record old
    · exact own.trans (h.keyed id l.record old)
  · intro record known
    rcases h.known_of_change mem records loads known with rfl | ⟨old, -⟩
    · exact valid
    · exact h.valid record old
  · intro record known
    rw [next]
    rcases h.known_of_change mem records loads known with rfl | ⟨old, -⟩
    · exact serial ▸ h.below l.record (knows_held mem)
    · exact h.below record old
  · intro a b knownA knownB equal
    rcases h.known_of_change mem records loads knownA with rfl | ⟨oldA, differentA⟩ <;>
      rcases h.known_of_change mem records loads knownB with rfl | ⟨oldB, differentB⟩
    · rfl
    · exact absurd (equal.symm.trans serial) differentB
    · exact absurd (equal.trans serial) differentA
    · exact h.same a b oldA oldB equal

/-- What replaced the records of other loads stays untouched. -/
theorem untouched_of_change (h : Sound r) {l m : IconLoad} (mem : l ∈ r.loads) (held : m ∈ r.loads)
    (key : m.key ≠ l.key) {f : IconRecord -> IconRecord} {record : IconRecord}
    (registered : Entries.get? (r.change l.record.serial f).records m.record.id = some record)
    (different : record.serial ≠ m.record.serial) : record.Untouched := by
  rcases h.registered_of_change mem registered with ⟨old, -⟩ | ⟨old, -⟩
  · exact h.replaced m held record old different
  · have id : l.record.id = m.record.id := h.keyed m.record.id l.record old
    exact absurd (congrArg IconLoad.key (h.eq_of_id held mem id.symm)) key

/-- What is in flight stays so when a load starts. -/
theorem flying_opening (h : Sound r) {l : IconLoad} (mem : l ∈ r.loads) (id : String) (key : Nat) :
    Entries.get? r.inFlight id = some key ↔ ∃ m ∈ r.opening l, m.key = key ∧ m.record.id = id := by
  rw [h.flying]
  constructor
  · rintro ⟨m, held, rfl, rfl⟩
    by_cases key : m.key = l.key
    · obtain rfl := h.eq_of_key held mem key
      exact ⟨_, (mem_opening_iff mem).mpr (.inl rfl), rfl, rfl⟩
    · exact ⟨m, (mem_opening_iff mem).mpr (.inr ⟨held, key⟩), rfl, rfl⟩
  · rintro ⟨m, held, rfl, rfl⟩
    rcases (mem_opening_iff mem).mp held with rfl | ⟨old, -⟩
    · exact ⟨l, mem, rfl, rfl⟩
    · exact ⟨m, old, rfl, rfl⟩

theorem start (h : Sound r) {l : IconLoad} (mem : l ∈ r.loads) : Sound (r.start l.key).1 := by
  rw [h.start_eq mem]
  have opens : ⟨l.key, l.record.opened, true⟩ ∈ r.opening l := (mem_opening_iff mem).mpr (.inl rfl)
  obtain ⟨keyed, valid, below, same⟩ := h.records_of_change mem
    (s := { r.change l.record.serial IconRecord.opened with loads := r.opening l }) rfl rfl
    (fun m held => ((mem_opening_iff mem).mp held).imp (fun now => congrArg IconLoad.record now) id)
    ((h.valid _ (knows_held mem)).opened (h.status l mem).1) rfl rfl
  refine ⟨keyed, valid, below, same, ?_, keys_opening r l ▸ h.keys, h.ids_opening mem ▸ h.ids,
    h.flying_opening mem, ?_, ?_, ?_⟩
  · intro m held
    rcases (mem_opening_iff mem).mp held with rfl | ⟨old, -⟩
    · exact h.loadBelow l mem
    · exact h.loadBelow m old
  · intro m held
    rcases (mem_opening_iff mem).mp held with rfl | ⟨old, -⟩
    · simp [IconRecord.opened]
    · exact h.status m old
  · intro id record registered loading
    rcases h.registered_of_change mem registered with ⟨old, different⟩ | ⟨-, rfl⟩
    · obtain ⟨m, held, rfl⟩ := h.loading id record old loading
      exact ⟨m, (mem_opening_iff mem).mpr (.inr ⟨held, h.key_ne mem held different⟩), rfl⟩
    · exact ⟨_, opens, rfl⟩
  · intro m held record registered different
    rcases (mem_opening_iff mem).mp held with rfl | ⟨old, key⟩
    · rcases h.registered_of_change mem registered with ⟨was, -⟩ | ⟨-, rfl⟩
      · exact h.replaced l mem record was different
      · exact absurd rfl different
    · exact h.untouched_of_change mem old key registered different

/-- The end of a load takes just the load out of those in flight. -/
theorem flying_without (h : Sound r) {l : IconLoad} (mem : l ∈ r.loads) (id : String) (key : Nat) :
    Entries.get? (Entries.erase r.inFlight l.record.id) id = some key ↔
      ∃ m ∈ r.without l, m.key = key ∧ m.record.id = id := by
  by_cases same : id = l.record.id
  · subst same
    rw [Entries.get?_erase_self]
    refine iff_of_false (by simp) ?_
    rintro ⟨m, held, -, id⟩
    obtain ⟨old, different⟩ := mem_without_iff.mp held
    exact different (congrArg IconLoad.key (h.eq_of_id old mem id))
  · rw [Entries.get?_erase_of_ne _ same, h.flying]
    constructor
    · rintro ⟨m, held, rfl, rfl⟩
      refine ⟨m, mem_without_iff.mpr ⟨held, fun key => same ?_⟩, rfl, rfl⟩
      exact congrArg (fun m => m.record.id) (h.eq_of_key held mem key)
    · rintro ⟨m, held, found⟩
      exact ⟨m, (mem_without_iff.mp held).1, found⟩

theorem finish (h : Sound r) {l : IconLoad} (mem : l ∈ r.loads) (started : l.started = true)
    (outcome : LoadOutcome) : Sound (r.finish l.key outcome).1 := by
  rw [h.finish_eq mem]
  have sublist : (r.without l).Sublist r.loads := List.filter_sublist
  have loading : l.record.status = .loading := (h.status l mem).2.mpr started
  have serial : (l.record.closed outcome).serial = l.record.serial := by cases outcome <;> rfl
  have own : (l.record.closed outcome).id = l.record.id := by cases outcome <;> rfl
  have settled : (l.record.closed outcome).status ≠ .loading := by
    cases outcome <;> simp [IconRecord.closed]
  obtain ⟨keyed, valid, below, same⟩ := h.records_of_change mem
    (f := fun record => record.closed outcome)
    (s := { r.change l.record.serial (fun record => record.closed outcome) with
            inFlight := Entries.erase r.inFlight l.record.id, loads := r.without l }) rfl rfl
    (fun m held => .inr (mem_without_iff.mp held))
    ((h.valid _ (knows_held mem)).closed loading outcome) serial own
  refine ⟨keyed, valid, below, same, ?_, h.keys.sublist (sublist.map _),
    h.ids.sublist (sublist.map _), h.flying_without mem, ?_, ?_, ?_⟩
  · intro m held
    exact h.loadBelow m (mem_without_iff.mp held).1
  · intro m held
    exact h.status m (mem_without_iff.mp held).1
  · intro id record registered loads
    rcases h.registered_of_change (f := fun record => record.closed outcome) mem registered with
      ⟨old, different⟩ | ⟨-, rfl⟩
    · obtain ⟨m, held, rfl⟩ := h.loading id record old loads
      exact ⟨m, mem_without_iff.mpr ⟨held, h.key_ne mem held different⟩, rfl⟩
    · exact absurd loads settled
  · intro m held record registered different
    obtain ⟨old, key⟩ := mem_without_iff.mp held
    exact h.untouched_of_change (f := fun record => record.closed outcome) mem old key registered
      different

theorem perform (h : Sound r) {e : IconEvent} (allows : r.Allows e) : Sound (r.perform e).1 := by
  cases e with
  | register id provider => exact h.register id provider
  | registerLoader id label => exact h.registerLoader id label
  | request id => exact h.request id
  | start key =>
    obtain ⟨l, mem, rfl, -⟩ := allows
    exact h.start mem
  | finish key outcome =>
    obtain ⟨l, mem, rfl, started⟩ := allows
    exact h.finish mem started outcome

end Sound

theorem Run.sound {r s : IconRegistry} {events : List IconEvent} {told : List IconState}
    (run : Run r events told s) (h : Sound r) : Sound s :=
  run.keeps (fun _ _ h allows => h.perform allows) h

theorem Reachable.sound {r : IconRegistry} (reachable : Reachable r) : Sound r := by
  obtain ⟨events, told, run⟩ := reachable
  exact run.sound sound_empty

/-- In every run, records that are ready have a provider and all others a loader, so that no load is
ever refused; just the records in error have an error; a registered record that is loading is held
by the load in flight for its id; and no two loads of one id are on their way. -/
theorem reachable_consistent {r : IconRegistry} (reachable : Reachable r) :
    (∀ record, r.Knows record ->
        (record.status = .ready -> record.provider.isSome) ∧
        (record.status ≠ .ready -> record.hasLoader = true) ∧
        (record.error.isSome ↔ record.status = .error)) ∧
      (∀ key, r.refuses key = false) ∧
      (∀ id record, Entries.get? r.records id = some record -> record.status = .loading ->
        ∃ l ∈ r.loads, l.started = true ∧ l.record = record ∧
          Entries.get? r.inFlight id = some l.key) ∧
      (r.loads.map fun l => l.record.id).Nodup := by
  have h := reachable.sound
  refine ⟨?_, h.refuses_eq_false, ?_, h.ids⟩
  · intro record known
    have valid := h.valid record known
    exact ⟨valid.provider, valid.loader, valid.error⟩
  · intro id record registered loading
    obtain ⟨l, mem, rfl⟩ := h.loading id record registered loading
    have started := (h.status l mem).2.mp loading
    exact ⟨l, mem, started, rfl, (h.flying id l.key).mpr ⟨l, mem, rfl, h.keyed id _ registered⟩⟩

/-- A load fails, is tried again, and its record is replaced while the second attempt runs. -/
def retriedAndReplaced : List IconEvent :=
  [.registerLoader "p" none, .request "p", .start 1, .finish 1 (.failed "network down"),
    .request " P ", .start 2, .registerLoader "p" (some "Again"), .request "p"]

theorem retriedAndReplaced_consistent :
    Reachable (performAll {} retriedAndReplaced) ∧
      (performAll {} retriedAndReplaced).refuses 2 = false ∧
      ((performAll {} retriedAndReplaced).loads.map fun l => l.record.id).Nodup := by
  have allowed : AllowsAll {} retriedAndReplaced := by decide
  have reachable := reachable_performAll allowed
  have consistent := reachable_consistent reachable
  exact ⟨reachable, consistent.2.1 2, consistent.2.2.2⟩

end IconRegistry

end ViewDoc
