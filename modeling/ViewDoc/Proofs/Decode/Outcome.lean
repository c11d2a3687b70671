import ViewDoc.Failure
import ViewDoc.Proofs.Value.Distinct
/-!
When decoding succeeds: a record is read just when every field of it is, and an operation gives a
result just when each of its steps does. A source may bring a record of set-aside fields of its own
along, and the main statement says which of these can be joined with what is newly set aside.
-/

set_option autoImplicit false

namespace ViewDoc

namespace Decoded

variable {α β : Type}

/-- Decoding gives a value. -/
def Succeeds (x : Decoded α) : Prop :=
  ∃ a, x = .value a

@[simp] theorem succeeds_value (a : α) : (value a).Succeeds :=
  ⟨a, rfl⟩

@[simp] theorem not_succeeds_problems (ps : List Problem) :
    ¬ (problems ps : Decoded α).Succeeds := by
  rintro ⟨a, same⟩
  cases same

@[simp] theorem not_succeeds_fault (f : Fault) : ¬ (fault f : Decoded α).Succeeds := by
  rintro ⟨a, same⟩
  cases same

@[simp] theorem not_succeeds_fail (kind : Problem.Kind) : ¬ (fail kind : Decoded α).Succeeds :=
  not_succeeds_problems _

theorem seq_eq_value_iff (f : Decoded (α -> β)) (x : Decoded α) (b : β) :
    f <*> x = .value b ↔ ∃ g a, f = .value g ∧ x = .value a ∧ g a = b := by
  show seq f (fun _ => x) = .value b ↔ _
  cases f <;> cases x <;> simp [seq]

theorem map_eq_value_iff (f : α -> β) (x : Decoded α) (b : β) :
    f <$> x = .value b ↔ ∃ a, x = .value a ∧ f a = b := by
  show seq (.value f) (fun _ => x) = .value b ↔ _
  cases x <;> simp [seq]

@[simp] theorem succeeds_seq_iff (f : Decoded (α -> β)) (x : Decoded α) :
    (f <*> x).Succeeds ↔ f.Succeeds ∧ x.Succeeds := by
  show (seq f fun _ => x).Succeeds ↔ _
  cases f <;> cases x <;> simp [seq]

@[simp] theorem succeeds_map_iff (f : α -> β) (x : Decoded α) :
    (f <$> x).Succeeds ↔ x.Succeeds := by
  show (seq (.value f) fun _ => x).Succeeds ↔ _
  cases x <;> simp [seq]

@[simp] theorem succeeds_map (f : α -> β) (x : Decoded α) :
    (x.map f).Succeeds ↔ x.Succeeds := by
  cases x <;> simp [map]

theorem under_eq_value_iff (step : Loc) (x : Decoded α) (a : α) :
    x.under step = .value a ↔ x = .value a := by
  cases x <;> simp [under]

@[simp] theorem succeeds_under_iff (step : Loc) (x : Decoded α) :
    (x.under step).Succeeds ↔ x.Succeeds := by
  cases x <;> simp [under]

theorem andThen_eq_value_iff (x : Decoded α) (f : α -> Decoded β) (b : β) :
    x.andThen f = .value b ↔ ∃ a, x = .value a ∧ f a = .value b := by
  cases x <;> simp [andThen]

theorem succeeds_andThen_iff (x : Decoded α) (f : α -> Decoded β) :
    (x.andThen f).Succeeds ↔ ∃ a, x = .value a ∧ (f a).Succeeds := by
  cases x <;> simp [andThen]

theorem ofExcept_eq_value_iff (x : Except Fault α) (a : α) : ofExcept x = .value a ↔ x = .ok a := by
  cases x with
  | ok b => simp [ofExcept]
  | error f => cases f <;> simp [ofExcept, fail]

end Decoded

namespace Decode

variable {α : Type}

theorem object_eq_value_iff (v : Value) (es : Entries) : object v = .value es ↔ v = .object es := by
  cases v <;> simp [object, Decoded.fail]

theorem field_eq_value_iff (es : Entries) (name : String) (absent : Decoded α)
    (decode : Value -> Decoded α) (a : α) :
    field es [name] absent decode = .value a ↔
      (∃ v, Entries.get? es name = some v ∧ decode v = .value a) ∨
        Entries.get? es name = none ∧ absent = .value a := by
  cases found : Entries.get? es name <;>
    simp [field, lookup?, found, Decoded.under_eq_value_iff]

end Decode

namespace Failure

variable {α : Type}

theorem ofFault_eq_ok_iff (x : Except Fault α) (a : α) : ofFault x = .ok a ↔ x = .ok a := by
  cases x <;> simp [ofFault]

theorem ofDecoded_eq_ok_iff (x : Decoded α) (a : α) : ofDecoded x = .ok a ↔ x = .value a := by
  cases x <;> simp [ofDecoded]

end Failure

theorem Fault.map_eq_ok_iff {α β : Type} (f : α -> β) (x : Except Fault α) (b : β) :
    x.map f = .ok b ↔ ∃ a, x = .ok a ∧ f a = b := by
  cases x <;> simp [Except.map]

/-- A computation in two steps gives a result just when both steps do. -/
theorem Failure.bind_eq_ok_iff {α β : Type} (x : Except Failure α) (f : α -> Except Failure β)
    (b : β) : x >>= f = .ok b ↔ ∃ a, x = .ok a ∧ f a = .ok b := by
  cases x <;> simp [bind, Except.bind]

namespace Keyed

variable {α : Type}

/-- Every key is a text. -/
def Textual (es : List (Key × α)) : Prop :=
  ∀ e ∈ es, ∃ s, e.1 = .text s

/-- Putting a value under a text key adds no other key. -/
theorem textual_set_iff (es : List (Key × α)) (name : String) (v : α) :
    Textual (set es (.text name) v) ↔ Textual es := by
  induction es with
  | nil => simp [Textual, set]
  | cons e rest ih =>
    obtain ⟨k, w⟩ := e
    rw [set]
    split
    · simp [Textual]
    · simpa [Textual] using fun _ _ => ih

theorem textual_merge_iff (es : List (Key × α)) (updates : List (String × α)) :
    Textual (merge es (ofEntries updates)) ↔ Textual es := by
  induction updates generalizing es with
  | nil => rfl
  | cons e rest ih =>
    exact (ih (set es (.text e.1) e.2)).trans (textual_set_iff es e.1 e.2)

theorem set_ne_nil (es : List (Key × α)) (key : Key) (v : α) : set es key v ≠ [] := by
  cases es with
  | nil => simp [set]
  | cons e rest =>
    obtain ⟨k, w⟩ := e
    rw [set]
    split <;> simp

theorem merge_eq_nil_iff (es updates : List (Key × α)) :
    merge es updates = [] ↔ es = [] ∧ updates = [] := by
  induction updates generalizing es with
  | nil => simp [merge]
  | cons e rest ih => simpa [merge, set_ne_nil] using ih (set es e.1 e.2)

end Keyed

namespace Value

theorem eq_nil_of_mapM_eq_nil {α β : Type} {f : α -> Except Fault β} {items : List α}
    (done : items.mapM f = .ok []) : items = [] := by
  cases items with
  | nil => rfl
  | cons a rest =>
    rw [List.mapM_cons] at done
    obtain ⟨b, -, done⟩ := Fault.exists_of_bind_ok done
    obtain ⟨bs, -, done⟩ := Fault.exists_of_bind_ok done
    cases done

/-- A value that consists of no entries does not hold. -/
theorem isTruthy_eq_false_of_entries {v : Value} (empty : v.entries = .ok []) :
    v.isTruthy = false := by
  have sequence {items : List Value} (members : v.members? = some items) (plain : v.keyed? = none) :
      items = [] := by
    rw [entries, members, plain] at empty
    obtain ⟨pairs, read, done⟩ := Fault.exists_of_bind_ok empty
    obtain rfl := ((Keyed.merge_eq_nil_iff [] pairs).mp (Except.ok.inj done)).2
    exact eq_nil_of_mapM_eq_nil read
  cases v with
  | list items =>
    obtain rfl := sequence rfl rfl
    rfl
  | str s =>
    have blank := List.map_eq_nil_iff.mp (sequence rfl rfl)
    simpa [isTruthy] using blank
  | object es =>
    have none : Keyed.ofEntries es = [] := Except.ok.inj empty
    simpa [isTruthy, Keyed.ofEntries] using none
  | mapping es =>
    have none : es = [] := Except.ok.inj empty
    simp [isTruthy, none]
  | _ => cases empty

end Value

namespace Decode

/-- A field is an object if it is there. -/
def HoldsObject (es : Entries) (key : String) : Prop :=
  ∀ v, Entries.get? es key = some v -> ∃ ms, v = .object ms

/-- What an object brings along under `invalid_fields` can be joined with more entries: it consists
of entries under text keys, or it is empty and makes way for them. -/
structure Recordable (es more : Entries) : Prop where
  entries : (Entries.get es "invalid_fields").isTruthy = true ->
    ∃ record, (Entries.get es "invalid_fields").entries = .ok record ∧ Keyed.Textual record
  object : (Entries.get es "invalid_fields").isTruthy = false -> more = [] ->
    HoldsObject es "invalid_fields"

variable {α : Type}

theorem succeeds_field_iff (es : Entries) (name : String) (absent : Decoded α)
    (decode : Value -> Decoded α) :
    (field es [name] absent decode).Succeeds ↔
      (∀ v, Entries.get? es name = some v -> (decode v).Succeeds) ∧
        (Entries.get? es name = none -> absent.Succeeds) := by
  cases found : Entries.get? es name <;> simp [field, lookup?, found]

theorem succeeds_object_iff (v : Value) : (object v).Succeeds ↔ ∃ ms, v = .object ms := by
  cases v <;> simp [object]

theorem succeeds_objectField_iff (es : Entries) (name : String) (other : Entries) :
    (field es [name] (.value other) object).Succeeds ↔ HoldsObject es name := by
  simp [succeeds_field_iff, succeeds_object_iff, HoldsObject]

theorem succeeds_textKeys_iff (es : List (Key × Value)) :
    (textKeys es).Succeeds ↔ Keyed.Textual es := by
  induction es with
  | nil => simp [textKeys, Keyed.Textual]
  | cons e rest ih =>
    have own : (textKey e).Succeeds ↔ ∃ s, e.1 = .text s := by
      rw [textKey]
      cases e.1 <;> simp [Key.text?]
    simp [textKeys, Keyed.Textual, own, ih]

theorem succeeds_asideField_iff (es : Entries) (key : String) (record : List (Key × Value)) :
    (asideField es key record).Succeeds ↔
      Keyed.Textual record ∧ (record = [] -> HoldsObject es key) := by
  rw [asideField]
  cases record with
  | nil => simp [succeeds_objectField_iff, Keyed.Textual]
  | cons e rest => simp [succeeds_textKeys_iff]

/-- A record can be made of what is brought along and of what is set aside. -/
theorem recordable_iff {es kept more : Entries}
    (same : Entries.get? kept "invalid_fields" = Entries.get? es "invalid_fields") :
    Recordable es more ↔ ∃ record, asideRecord es "invalid_fields" = .value record ∧
      (asideField kept "invalid_fields"
        (Keyed.merge record (Keyed.ofEntries more))).Succeeds := by
  have holds : HoldsObject kept "invalid_fields" ↔ HoldsObject es "invalid_fields" := by
    rw [HoldsObject, same, HoldsObject]
  simp only [succeeds_asideField_iff, Keyed.textual_merge_iff, Keyed.merge_eq_nil_iff, holds,
    asideRecord]
  cases truthy : (Entries.get es "invalid_fields").isTruthy with
  | true =>
    simp only [if_true, Decoded.ofExcept_eq_value_iff]
    constructor
    · intro able
      obtain ⟨record, read, textual⟩ := able.entries truthy
      refine ⟨record, read, textual, fun none => ?_⟩
      rw [none.1] at read
      rw [Value.isTruthy_eq_false_of_entries read] at truthy
      cases truthy
    · rintro ⟨record, read, textual, -⟩
      exact ⟨fun _ => ⟨record, read, textual⟩,
        fun falsy => absurd (truthy.symm.trans falsy) (by decide)⟩
  | false =>
    simp only [Bool.false_eq_true, if_false, Decoded.value.injEq]
    constructor
    · intro able
      refine ⟨[], rfl, by simp [Keyed.Textual], fun none => able.object truthy ?_⟩
      simpa [Keyed.ofEntries] using none.2
    · rintro ⟨_, rfl, -, object⟩
      refine ⟨fun other => absurd (other.symm.trans truthy) (by decide),
        fun _ none => object ⟨rfl, ?_⟩⟩
      rw [none]
      rfl

end Decode

end ViewDoc
