import ViewDoc.Document.Upgrade
import ViewDoc.Proofs.Decode.Outcome
import ViewDoc.Proofs.Tree.Positions
import ViewDoc.Proofs.Value.Distinct
/-!
Distinct keys of events. The main statement is that the nodes of a tree have events under distinct
keys when the value that the tree is read from has distinct keys everywhere.
-/

set_option autoImplicit false

namespace ViewDoc

namespace Node

/-- Every node of a tree has events under distinct keys. -/
def EventsDistinct (t : Node) : Prop :=
  ∀ m ∈ t.walk, (Entries.keys m.value.events).Nodup

theorem eventsDistinct_node {n : NodeFields} {cs : List Node}
    (own : (Entries.keys n.events).Nodup) (below : ∀ c ∈ cs, EventsDistinct c) :
    EventsDistinct (.node n cs) := by
  intro m mem
  rw [Tree.walk, Tree.walkAll_eq_flatMap, List.mem_cons, List.mem_flatMap] at mem
  rcases mem with rfl | ⟨c, child, mem⟩
  · exact own
  · exact below c child m mem

theorem eventsDistinct_iff (t : Node) :
    t.EventsDistinct ↔ ∀ p ∈ t.positions, (Entries.keys p.2.events).Nodup :=
  t.forall_mem_walk_iff fun n => (Entries.keys n.events).Nodup

theorem decodeFields_eq_value {es : Entries} {children : Unit -> Decoded (List Node)} {t : Node}
    (read : decodeFields es children = .value t) :
    Decode.field (settled es) ["events"] (.value []) Decode.object = .value t.value.events ∧
      children () = .value t.children := by
  simp only [decodeFields, Decoded.andThen_eq_value_iff, Decoded.seq_eq_value_iff,
    Decoded.map_eq_value_iff] at read
  obtain ⟨record, -, -, aside, ⟨-, cs, ⟨-, list, ⟨-, data, ⟨-, events, ⟨-, props, ⟨-, style,
    ⟨-, type, ⟨id, -, rfl⟩, -, rfl⟩, -, rfl⟩, -, rfl⟩, found, rfl⟩, -, rfl⟩, -, rfl⟩, below, rfl⟩,
    -, rfl⟩ := read
  exact ⟨found, below⟩

theorem keys_events_nodup {es evs : Entries} (distinct : (Value.object es).hasDistinctKeys = true)
    (read : Decode.field (settled es) ["events"] (.value []) Decode.object = .value evs) :
    (Entries.keys evs).Nodup := by
  rcases (Decode.field_eq_value_iff _ _ _ _ _).mp read with ⟨v, found, object⟩ | ⟨-, absent⟩
  · obtain rfl := (Decode.object_eq_value_iff v evs).mp object
    have mem : ("events", Value.object evs) ∈ es :=
      List.mem_of_mem_filter (Entries.mem_of_get? found)
    have inner := Value.hasDistinctKeys_of_mem ((Value.hasDistinctKeys_object es).mp distinct).2 mem
    exact ((Value.hasDistinctKeys_object evs).mp inner).1
  · cases absent
    exact List.nodup_nil

mutual

theorem eventsDistinct_decode {v : Value} {t : Node} (distinct : v.hasDistinctKeys = true)
    (read : decode v = .value t) : EventsDistinct t := by
  cases v with
  | object es =>
    rw [decode] at read
    obtain ⟨events, below⟩ := decodeFields_eq_value read
    cases t with
    | node n cs =>
      exact eventsDistinct_node (keys_events_nodup distinct events)
        (eventsDistinct_decodeChildren ((Value.hasDistinctKeys_object es).mp distinct).2 below)
  | _ => cases read
termination_by structural v

theorem eventsDistinct_decodeChildren {es : Entries} {ts : List Node}
    (distinct : Value.membersHaveDistinctKeys es = true) (read : decodeChildren es = .value ts) :
    ∀ t ∈ ts, EventsDistinct t := by
  cases es with
  | nil =>
    cases read
    simp
  | cons head rest =>
    obtain ⟨key, v⟩ := head
    rw [Value.membersHaveDistinctKeys_cons] at distinct
    rw [decodeChildren] at read
    split at read
    · rw [Decoded.under_eq_value_iff] at read
      exact eventsDistinct_decodeItemsOf distinct.1 read
    · exact eventsDistinct_decodeChildren distinct.2 read
termination_by structural es

theorem eventsDistinct_decodeItemsOf {v : Value} {ts : List Node}
    (distinct : v.hasDistinctKeys = true) (read : decodeItemsOf v = .value ts) :
    ∀ t ∈ ts, EventsDistinct t := by
  cases v with
  | list items =>
    rw [Value.hasDistinctKeys] at distinct
    exact eventsDistinct_decodeItems distinct read
  | _ =>
    cases read
    simp
termination_by structural v

theorem eventsDistinct_decodeItems {i : Nat} {items : List Value} {ts : List Node}
    (distinct : Value.itemsHaveDistinctKeys items = true) (read : decodeItems i items = .value ts) :
    ∀ t ∈ ts, EventsDistinct t := by
  cases items with
  | nil =>
    cases read
    simp
  | cons v rest =>
    rw [Value.itemsHaveDistinctKeys_cons] at distinct
    rw [decodeItems] at read
    split at read
    · obtain ⟨_, more, first, later, rfl⟩ := (Decoded.seq_eq_value_iff _ _ _).mp read
      obtain ⟨t, own, rfl⟩ := (Decoded.map_eq_value_iff _ _ _).mp first
      rw [Decoded.under_eq_value_iff] at own
      exact List.forall_mem_cons.mpr
        ⟨eventsDistinct_decode distinct.1 own, eventsDistinct_decodeItems distinct.2 later⟩
    · exact eventsDistinct_decodeItems distinct.2 read
termination_by structural items

end

end Node

namespace Document

theorem eventsDistinct_decodeTree {v : Value} {ui : Node × Entries}
    (distinct : v.hasDistinctKeys = true) (read : decodeTree v = .value ui) :
    ui.1.EventsDistinct := by
  cases v with
  | object es =>
    rw [decodeTree, Decoded.map_eq_value_iff] at read
    obtain ⟨root, read, rfl⟩ := read
    rw [Decode.required, Decode.field_eq_value_iff] at read
    rcases read with ⟨v, found, read⟩ | ⟨-, absent⟩
    · exact Node.eventsDistinct_decode (Value.hasDistinctKeys_of_get? distinct found) read
    · cases absent
  | _ => cases read

theorem eventsDistinct_decode {v : Value} {d : Document} (distinct : v.hasDistinctKeys = true)
    (read : decode v = .value d) : d.root.EventsDistinct := by
  cases v with
  | object es =>
    simp only [decode, Decoded.andThen_eq_value_iff, Decoded.seq_eq_value_iff,
      Decoded.map_eq_value_iff] at read
    obtain ⟨record, -, -, aside, ⟨-, logic, ⟨-, ui, ⟨-, metadata, ⟨version, -, rfl⟩, -, rfl⟩, read,
      rfl⟩, -, rfl⟩, -, rfl⟩ := read
    rw [Decode.required, Decode.field_eq_value_iff] at read
    rcases read with ⟨v, found, read⟩ | ⟨-, absent⟩
    · have mem : ("ui", v) ∈ es := List.mem_of_mem_filter (Entries.mem_of_get? found)
      exact eventsDistinct_decodeTree
        (Value.hasDistinctKeys_of_mem ((Value.hasDistinctKeys_object es).mp distinct).2 mem) read
    · cases absent
  | _ => cases read

/-- A document that is read from a value with distinct keys has events under distinct keys. -/
theorem eventsDistinct_ofValue {v : Value} {d : Document} (distinct : v.hasDistinctKeys = true)
    (read : ofValue v = .value d) : d.root.EventsDistinct := by
  rw [ofValue] at read
  split at read
  · exact eventsDistinct_decode distinct read
  · cases read
    exact Node.eventsDistinct_node List.nodup_nil (by simp)

/-- Upgrading keeps the keys of events. -/
theorem keys_upgradeFields (n : NodeFields) :
    Entries.keys (upgradeFields n).events = Entries.keys n.events := by
  simp [Entries.keys, upgradeFields]

theorem eventsDistinct_upgrade {d u : Document} (distinct : d.root.EventsDistinct)
    (done : d.upgrade = .ok u) : u.root.EventsDistinct := by
  rcases upgrade_cases done with rfl | rfl
  · exact distinct
  · rw [Node.eventsDistinct_iff] at distinct ⊢
    simp only [Tree.positions, Tree.located_map, List.forall_mem_map, keys_upgradeFields]
    exact distinct

end Document

end ViewDoc
