import ViewDoc.Node.Basic
import ViewDoc.Proofs.Decode.Outcome
/-!
Which values are read as nodes. Reading puts up with most malformed fields, and the main statement
says with which it does not: a null where a text belongs, a second spelling of a declaration, and a
record of set-aside fields that is no record.
-/

set_option autoImplicit false

namespace ViewDoc

theorem Value.isText_iff (v : Value) : v.isText = true ↔ ∃ s, v = .str s := by
  cases v <;> simp [isText]

theorem Value.isNull_iff (v : Value) : v.isNull = true ↔ v = .null := by
  cases v <;> simp [isNull]

/-- A value is null or an object with text keys. -/
def Value.IsDeclaration (v : Value) : Prop :=
  v = .null ∨ ∃ ms, v = .object ms

namespace Decode

theorem mem_wrongShape_iff (es : Entries) (wanted : Value -> Bool) (names : List String)
    (e : String × Value) :
    e ∈ wrongShape es wanted names ↔
      e.1 ∈ names ∧ Entries.get? es e.1 = some e.2 ∧ e.2.isNull = false ∧ wanted e.2 = false := by
  rw [wrongShape, List.mem_filterMap]
  constructor
  · rintro ⟨name, mem, taken⟩
    split at taken
    · rename_i v found
      split at taken
      · cases taken
      · rename_i wrong
        cases taken
        rw [Bool.or_eq_true, not_or, Bool.not_eq_true, Bool.not_eq_true] at wrong
        exact ⟨mem, found, wrong⟩
    · cases taken
  · rintro ⟨mem, found, present, wrong⟩
    exact ⟨e.1, mem, by simp [found, present, wrong]⟩

theorem mem_keys_wrongShape_iff (es : Entries) (wanted : Value -> Bool) (names : List String)
    (key : String) :
    key ∈ Entries.keys (wrongShape es wanted names) ↔
      key ∈ names ∧ ∃ v, Entries.get? es key = some v ∧ v.isNull = false ∧ wanted v = false := by
  simp only [Entries.keys, List.mem_map, mem_wrongShape_iff]
  constructor
  · rintro ⟨e, ⟨mem, found⟩, rfl⟩
    exact ⟨mem, e.2, found⟩
  · rintro ⟨mem, v, found⟩
    exact ⟨(key, v), ⟨mem, found⟩, rfl⟩

theorem succeeds_optional_iff {α : Type} {decode : Value -> Decoded α}
    (objects : ∀ v, (decode v).Succeeds ↔ ∃ ms, v = .object ms) (v : Value) :
    (optional decode v).Succeeds ↔ v.IsDeclaration := by
  cases v <;> simp [optional, objects, Value.IsDeclaration]

theorem succeeds_text_iff (v : Value) : (text v).Succeeds ↔ v.isText = true := by
  cases v <;> simp [text, Value.isText]

end Decode

theorem DataDecl.succeeds_decode_iff (v : Value) : (decode v).Succeeds ↔ ∃ ms, v = .object ms := by
  cases v <;> simp [decode]

theorem ListDecl.succeeds_decode_iff (v : Value) : (decode v).Succeeds ↔ ∃ ms, v = .object ms := by
  cases v <;> simp [decode]

namespace Node

/-- The fields of a node can be read, whatever its children are. -/
structure FieldsReadable (es : Entries) : Prop where
  texts : ∀ key ∈ ["id", "type"], Entries.get? es key ≠ some .null
  objects : ∀ key ∈ ["data", "list", "style", "props", "events"], ∀ v,
    Entries.get? es key = some v -> v.isObject = true -> ∃ ms, v = .object ms
  list : (∀ v, Entries.get? es "list" = some v -> v.isNull = false ∧ v.isObject = false) ->
    ∀ v, Entries.get? es "list_" = some v -> v.IsDeclaration
  record : Decode.Recordable es (setAside es)

/-- An object can be read as a node, with the objects among its children. -/
inductive Readable : Value -> Prop where
  | node {es : Entries} (fields : FieldsReadable es)
      (children : ∀ items, Entries.get? es "children" = some (.list items) ->
        ∀ v ∈ items, v.isObject = true -> Readable v) : Readable (.object es)

theorem eq_children_of_mem_keys_misplacedChildren {es : Entries} {key : String}
    (mem : key ∈ Entries.keys (misplacedChildren es)) : key = "children" := by
  have shape : misplacedChildren es = [] ∨ ∃ v, misplacedChildren es = [("children", v)] := by
    rw [misplacedChildren]
    split
    · exact .inl rfl
    · exact .inl rfl
    · split
      · exact .inl rfl
      · exact .inr ⟨_, rfl⟩
    · exact .inr ⟨_, rfl⟩
  rcases shape with none | ⟨v, one⟩
  · simp [none, Entries.keys] at mem
  · simpa [one, Entries.keys] using mem

theorem get?_settled_eq_some_iff {es : Entries} (distinct : (Entries.keys es).Nodup)
    {key : String} (other : key ≠ "children") (v : Value) :
    Entries.get? (settled es) key = some v ↔ Entries.get? es key = some v ∧
      (key ∈ ["id", "type"] -> v.isNull = true ∨ v.isText = true) ∧
      (key ∈ ["data", "list", "style", "props", "events"] -> v.isNull = true ∨ v.isObject = true) ∧
      (key ∈ ["style", "props", "events"] -> v.isNull = false) := by
  rw [settled, Entries.get?_filter distinct, Option.filter_eq_some_iff]
  refine and_congr_right fun found => ?_
  have aside : key ∈ Entries.keys (setAside es) ↔
      key ∈ ["id", "type"] ∧ v.isNull = false ∧ v.isText = false ∨
        key ∈ ["data", "list", "style", "props", "events"] ∧ v.isNull = false ∧
          v.isObject = false := by
    have rest : key ∉ Entries.keys (misplacedChildren es) :=
      mt eq_children_of_mem_keys_misplacedChildren other
    simp only [setAside, Entries.keys_append, List.mem_append, Decode.mem_keys_wrongShape_iff,
      rest, found, Option.some.injEq, exists_eq_left', or_false]
  simp only [Bool.and_eq_true, Bool.not_eq_true', Bool.and_eq_false_iff, List.contains_eq_mem,
    decide_eq_false_iff_not, List.mem_filter, decide_eq_true_eq, aside]
  cases v.isNull <;> cases v.isText <;> cases v.isObject <;> simp [other]

section

variable {es : Entries} (distinct : (Entries.keys es).Nodup) {key : String}

include distinct

theorem succeeds_textField_iff (text : key ∈ ["id", "type"]) :
    (textField (settled es) key).Succeeds ↔ Entries.get? es key ≠ some .null := by
  have kept (v : Value) : Entries.get? (settled es) key = some v ↔
      Entries.get? es key = some v ∧ (v.isNull = true ∨ v.isText = true) := by
    simp only [List.mem_cons, List.not_mem_nil, or_false] at text
    rcases text with rfl | rfl <;> simp [get?_settled_eq_some_iff distinct]
  rw [textField, Decode.succeeds_field_iff]
  simp only [kept, Decode.succeeds_text_iff, Decoded.succeeds_value, implies_true, and_true]
  constructor
  · intro texts null
    cases texts .null ⟨null, .inl rfl⟩
  · rintro present v ⟨found, null | text⟩
    · obtain rfl := (Value.isNull_iff v).mp null
      exact absurd found present
    · exact text

theorem succeeds_objectField_iff (object : key ∈ ["style", "props", "events"]) :
    (objectField (settled es) key).Succeeds ↔ ∀ v, Entries.get? es key = some v ->
      v.isObject = true -> ∃ ms, v = .object ms := by
  have kept (v : Value) : Entries.get? (settled es) key = some v ↔
      Entries.get? es key = some v ∧ v.isObject = true := by
    simp only [List.mem_cons, List.not_mem_nil, or_false] at object
    rcases object with rfl | rfl | rfl <;> cases v <;>
      simp [get?_settled_eq_some_iff distinct, Value.isNull, Value.isObject]
  simp only [objectField, Decode.succeeds_objectField_iff, Decode.HoldsObject, kept, and_imp]

theorem get?_settled_declaration (declaration : key ∈ ["data", "list"]) (v : Value) :
    Entries.get? (settled es) key = some v ↔
      Entries.get? es key = some v ∧ (v.isNull = true ∨ v.isObject = true) := by
  simp only [List.mem_cons, List.not_mem_nil, or_false] at declaration
  rcases declaration with rfl | rfl <;> simp [get?_settled_eq_some_iff distinct]

theorem get?_settled_other (key : String)
    (other : key ∉ ["id", "type", "data", "list", "style", "props", "events", "children"]) :
    Entries.get? (settled es) key = Entries.get? es key := by
  simp only [List.mem_cons, List.not_mem_nil, or_false, not_or] at other
  refine Option.ext fun v => ?_
  rw [get?_settled_eq_some_iff distinct other.2.2.2.2.2.2.2]
  simp [other]

theorem isDeclaration_settled_iff (declaration : key ∈ ["data", "list"]) :
    (∀ v, Entries.get? (settled es) key = some v -> v.IsDeclaration) ↔
      ∀ v, Entries.get? es key = some v -> v.isObject = true -> ∃ ms, v = .object ms := by
  simp only [get?_settled_declaration distinct declaration, and_imp]
  refine forall₂_congr fun v _ => ?_
  cases v <;> simp [Value.isNull, Value.isObject, Value.IsDeclaration]

theorem succeeds_data_iff :
    (Decode.field (settled es) ["data"] (.value none)
        (Decode.optional DataDecl.decode)).Succeeds ↔
      ∀ v, Entries.get? es "data" = some v -> v.isObject = true -> ∃ ms, v = .object ms := by
  rw [← isDeclaration_settled_iff distinct (by decide), Decode.succeeds_field_iff]
  simp [Decode.succeeds_optional_iff DataDecl.succeeds_decode_iff]

theorem succeeds_list_iff :
    (Decode.field (settled es) ["list", "list_"] (.value none)
        (Decode.optional ListDecl.decode)).Succeeds ↔
      (∀ v, Entries.get? es "list" = some v -> v.isObject = true -> ∃ ms, v = .object ms) ∧
        ((∀ v, Entries.get? es "list" = some v -> v.isNull = false ∧ v.isObject = false) ->
          ∀ v, Entries.get? es "list_" = some v -> v.IsDeclaration) := by
  have absent : Entries.get? (settled es) "list" = none ↔
      ∀ v, Entries.get? es "list" = some v -> v.isNull = false ∧ v.isObject = false := by
    simp [Option.eq_none_iff_forall_ne_some, get?_settled_declaration distinct]
  rw [← isDeclaration_settled_iff distinct (by decide), ← absent,
    ← get?_settled_other distinct "list_" (by decide)]
  cases own : Entries.get? (settled es) "list" with
  | some v => simp [Decode.field, Decode.lookup?, own,
      Decode.succeeds_optional_iff ListDecl.succeeds_decode_iff]
  | none =>
    cases other : Entries.get? (settled es) "list_" <;>
      simp [Decode.field, Decode.lookup?, own, other,
        Decode.succeeds_optional_iff ListDecl.succeeds_decode_iff]

theorem succeeds_fields_iff (children : Unit -> Decoded (List Node)) :
    (decodeFields es children).Succeeds ↔ FieldsReadable es ∧ (children ()).Succeeds := by
  have recordable := @Decode.recordable_iff es (settled es) (setAside es)
    (get?_settled_other distinct _ (by decide))
  simp only [decodeFields, Decoded.succeeds_andThen_iff, Decoded.succeeds_seq_iff,
    Decoded.succeeds_map_iff, succeeds_data_iff distinct, succeeds_list_iff distinct]
  constructor
  · rintro ⟨record, brought, fields, aside⟩
    obtain ⟨⟨⟨⟨⟨⟨⟨id, type⟩, style⟩, props⟩, events⟩, data⟩, list⟩, below⟩ := fields
    rw [succeeds_textField_iff distinct (by decide)] at id type
    rw [succeeds_objectField_iff distinct (by decide)] at style props events
    refine ⟨⟨?_, ?_, list.2, recordable.mpr ⟨record, brought, aside⟩⟩, below⟩
    · simpa using ⟨id, type⟩
    · simpa using ⟨data, list.1, style, props, events⟩
  · rintro ⟨able, below⟩
    obtain ⟨record, brought, aside⟩ := recordable.mp able.record
    have texts {key} (mem : key ∈ ["id", "type"]) :=
      (succeeds_textField_iff distinct mem).mpr (able.texts key mem)
    have objects {key} (mem : key ∈ ["style", "props", "events"]) :=
      (succeeds_objectField_iff distinct mem).mpr (able.objects key (by simp at mem ⊢; tauto))
    exact ⟨record, brought, ⟨⟨⟨⟨⟨⟨⟨⟨texts (by decide), texts (by decide)⟩, objects (by decide)⟩,
      objects (by decide)⟩, objects (by decide)⟩, able.objects "data" (by decide)⟩,
      able.objects "list" (by decide), able.list⟩, below⟩, aside⟩⟩

end

mutual

theorem succeeds_decode_iff (v : Value) (distinct : v.hasDistinctKeys = true) :
    (decode v).Succeeds ↔ Readable v := by
  cases v with
  | object es =>
    obtain ⟨own, below⟩ := (Value.hasDistinctKeys_object es).mp distinct
    rw [decode, succeeds_fields_iff own, succeeds_decodeChildren_iff es below]
    constructor
    · rintro ⟨fields, children⟩
      exact .node fields children
    · rintro ⟨fields, children⟩
      exact ⟨fields, children⟩
  | _ =>
    simp only [decode, Decoded.not_succeeds_fail, false_iff]
    exact fun readable => nomatch readable
termination_by structural v

theorem succeeds_decodeChildren_iff (es : Entries)
    (distinct : Value.membersHaveDistinctKeys es = true) :
    (decodeChildren es).Succeeds ↔ ∀ items, Entries.get? es "children" = some (.list items) ->
      ∀ v ∈ items, v.isObject = true -> Readable v := by
  cases es with
  | nil => simp [decodeChildren]
  | cons head rest =>
    obtain ⟨key, v⟩ := head
    rw [Value.membersHaveDistinctKeys_cons] at distinct
    rw [decodeChildren, Entries.get?]
    split
    · rw [Decoded.succeeds_under_iff, succeeds_decodeItemsOf_iff v distinct.1]
      simp only [Option.some.injEq]
    · exact succeeds_decodeChildren_iff rest distinct.2
termination_by structural es

theorem succeeds_decodeItemsOf_iff (v : Value) (distinct : v.hasDistinctKeys = true) :
    (decodeItemsOf v).Succeeds ↔ ∀ items, v = .list items ->
      ∀ v ∈ items, v.isObject = true -> Readable v := by
  cases v with
  | list items =>
    rw [Value.hasDistinctKeys] at distinct
    simp only [decodeItemsOf, succeeds_decodeItems_iff 0 items distinct, Value.list.injEq,
      forall_eq']
  | _ => simp [decodeItemsOf]
termination_by structural v

theorem succeeds_decodeItems_iff (i : Nat) (items : List Value)
    (distinct : Value.itemsHaveDistinctKeys items = true) :
    (decodeItems i items).Succeeds ↔ ∀ v ∈ items, v.isObject = true -> Readable v := by
  cases items with
  | nil => simp [decodeItems]
  | cons v rest =>
    rw [Value.itemsHaveDistinctKeys_cons] at distinct
    have later (j : Nat) := succeeds_decodeItems_iff j rest distinct.2
    rw [decodeItems, List.forall_mem_cons]
    split
    · rename_i object
      rw [Decoded.succeeds_seq_iff, Decoded.succeeds_map_iff, Decoded.succeeds_under_iff,
        succeeds_decode_iff v distinct.1, later]
      simp only [object, true_imp_iff]
    · rename_i dropped
      rw [later]
      simp [dropped]
termination_by structural items

end

end Node

end ViewDoc
