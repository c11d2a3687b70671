import ViewDoc.Proofs.Canonical.Form
import ViewDoc.Proofs.Node.Readable
import ViewDoc.Validation
/-!
Which values are normalized and validated. The main statement is the condition under which both
give an answer: a version whose digits write numbers, a tree that can be read, and records of
set-aside fields that are records.
-/

set_option autoImplicit false

namespace ViewDoc

namespace Version

/-- The parts of a version write numbers, up to the first with another character than a digit. -/
def Readable (version : String) : Prop :=
  ∀ part ∈ (Text.split '.' (Text.trim version)).takeWhile Text.isDigits,
    part.toList.length ≤ Text.numeralLimit ∧ part.toList.all Text.isDecimal = true

theorem numbers_ok_iff (parts : List String) :
    (∃ ns, numbers parts = .ok ns) ↔ ∀ part ∈ parts.takeWhile Text.isDigits,
      part.toList.length ≤ Text.numeralLimit ∧ part.toList.all Text.isDecimal = true := by
  induction parts with
  | nil => simp [numbers]
  | cons part rest ih =>
    rw [numbers, List.takeWhile_cons]
    split
    · rename_i digits
      rw [List.forall_mem_cons, ← Text.isSome_numeral?_of_isDigits digits, ← ih]
      cases Text.numeral? part.toList with
      | none => simp
      | some n => cases numbers rest <;> simp [bind, Except.bind, pure, Except.pure]
    · simp

theorem isCurrent_ok_iff (version : String) :
    (∃ b, isCurrent version = .ok b) ↔ Readable version := by
  rw [Readable, ← numbers_ok_iff, isCurrent, parse]
  rcases numbers (Text.split '.' (Text.trim version)) with f | (_ | ns) <;>
    simp [bind, Except.bind, pure, Except.pure]

end Version

namespace Document

theorem upgrade_ok_iff (d : Document) :
    (∃ u, d.upgrade = .ok u) ↔ Version.Readable d.version := by
  rw [← Version.isCurrent_ok_iff, upgrade]
  rcases Version.isCurrent d.version with f | (_ | _) <;>
    simp [bind, Except.bind, pure, Except.pure]

theorem readable_latestVersion : Version.Readable latestVersion :=
  (Version.isCurrent_ok_iff latestVersion).mp ⟨true, rfl⟩

/-- An upgraded document can be upgraded again. -/
theorem readable_upgrade {d u : Document} (done : d.upgrade = .ok u) :
    Version.Readable u.version := by
  rcases upgrade_cases done with rfl | rfl
  · exact (upgrade_ok_iff u).mp ⟨u, done⟩
  · exact readable_latestVersion

theorem normalize_ok_iff (d : Document) :
    (∃ n, d.normalize = .ok n) ↔ Version.Readable d.version := by
  rw [← upgrade_ok_iff, normalize]
  cases d.upgrade <;> simp [Except.map]

end Document

theorem normalize_ok_iff (v : Value) :
    (∃ n, normalize v = .ok n) ↔
      ∃ d, Document.ofValue v = .value d ∧ Version.Readable d.version := by
  simp only [normalize_eq_ok_iff, ← Document.upgrade_ok_iff]
  constructor
  · rintro ⟨n, d, u, read, upgraded, -⟩
    exact ⟨d, read, u, upgraded⟩
  · rintro ⟨d, read, u, upgraded⟩
    exact ⟨u.canonical, d, u, read, upgraded, rfl⟩

theorem Validation.ofDocument_ok_iff (d : Document) :
    (∃ r, ofDocument d = .ok r) ↔ Version.Readable d.version := by
  constructor
  · rintro ⟨r, done⟩
    obtain ⟨u, upgraded, -⟩ := Fault.exists_of_bind_ok done
    exact (Document.upgrade_ok_iff d).mp ⟨u, upgraded⟩
  · intro readable
    obtain ⟨u, upgraded⟩ := (Document.upgrade_ok_iff d).mpr readable
    obtain ⟨n, normalized⟩ := (Document.normalize_ok_iff u).mpr (Document.readable_upgrade upgraded)
    refine ⟨⟨u, issues u, n.diagnostics⟩, ?_⟩
    simp only [ofDocument, upgraded, normalized, bind, Except.bind, pure, Except.pure]

theorem Validation.ofValue_ok_iff (v : Value) :
    (∃ r, ofValue v = .ok r) ↔
      ∃ d, Document.ofValue v = .value d ∧ Version.Readable d.version := by
  simp only [← ofDocument_ok_iff]
  constructor
  · rintro ⟨r, done⟩
    rw [ofValue, Failure.bind_eq_ok_iff] at done
    obtain ⟨d, read, done⟩ := done
    obtain ⟨report, made, -⟩ := (Failure.bind_eq_ok_iff _ _ _).mp done
    exact ⟨d, (Failure.ofDecoded_eq_ok_iff _ _).mp read, report,
      (Failure.ofFault_eq_ok_iff _ _).mp made⟩
  · rintro ⟨d, read, report, made⟩
    simp only [ofValue, read, made, Failure.ofDecoded, Failure.ofFault, bind, Except.bind]
    split <;> exact ⟨_, rfl⟩

section

variable {es : Entries} {names : List String} {key : String}

theorem get?_withTexts (other : key ∉ names) :
    Entries.get? (withTexts es names) key = Entries.get? es key :=
  Entries.get?_filter_of_forall es fun v => by simp [other]

theorem isText_of_get?_withTexts {v : Value} (named : key ∈ names)
    (found : Entries.get? (withTexts es names) key = some v) : v.isText = true := by
  have kept := (List.mem_filter.mp (Entries.mem_of_get? found)).2
  simpa [named] using kept

theorem succeeds_withTexts (named : key ∈ names) (other : String) :
    (Decode.field (withTexts es names) [key] (.value other) Decode.text).Succeeds := by
  rw [Decode.succeeds_field_iff]
  refine ⟨fun v found => (Decode.succeeds_text_iff v).mpr (isText_of_get?_withTexts named found),
    fun _ => Decoded.succeeds_value other⟩

theorem succeeds_optionalText (named : key ∈ names) :
    (optionalText (withTexts es names) key).Succeeds := by
  rw [optionalText, Decode.succeeds_field_iff]
  refine ⟨fun v found => ?_, fun _ => Decoded.succeeds_value none⟩
  obtain ⟨s, rfl⟩ := (Value.isText_iff v).mp (isText_of_get?_withTexts named found)
  simp [Decode.optional, Decode.text]

theorem succeeds_asideOf_iff (es more : Entries) :
    (asideOf es more).Succeeds ↔ (more = [] -> Decode.HoldsObject es "invalid_fields") := by
  rw [asideOf]
  cases more <;> simp [Decode.succeeds_objectField_iff]

theorem succeeds_asideOf_withTexts_iff (more : Entries) (other : "invalid_fields" ∉ names) :
    (asideOf (withTexts es names) more).Succeeds ↔
      (more = [] -> Decode.HoldsObject es "invalid_fields") := by
  rw [succeeds_asideOf_iff, Decode.HoldsObject, get?_withTexts other, Decode.HoldsObject]

end

/-- A prop declaration can be read. -/
def PropDecl.Readable (es : Entries) : Prop :=
  Decode.wrongShape es Value.isText ["type", "description"] = [] ->
    Decode.HoldsObject es "invalid_fields"

/-- A state declaration can be read. -/
def StateDecl.Readable (es : Entries) : Prop :=
  Decode.wrongShape es Value.isText ["type"] = [] -> Decode.HoldsObject es "invalid_fields"

/-- The metadata of a document can be read. -/
def Metadata.Readable (es : Entries) : Prop :=
  Decode.wrongShape es Value.isText ["name", "description"] ++ asideTags es = [] ->
    Decode.HoldsObject es "invalid_fields"

/-- The logic of a document can be read. -/
structure Logic.Readable (es : Entries) : Prop where
  props : ∀ members, Entries.get? es "props" = some (.object members) -> ∀ e ∈ members,
    e.2.isObject = true -> ∃ ms, e.2 = .object ms ∧ PropDecl.Readable ms
  state : ∀ members, Entries.get? es "state" = some (.object members) -> ∀ e ∈ members,
    e.2.isObject = true -> ∃ ms, e.2 = .object ms ∧ StateDecl.Readable ms
  record : Decode.wrongShape es Value.isObject ["props", "state"] = [] ->
    Decode.HoldsObject es "invalid_fields"
  entries : droppedEntries es "props" ++ droppedEntries es "state" = [] ->
    ∀ v, Entries.get? es "invalid_entries" = some v ->
      ∃ sections, v = .object sections ∧ ∀ s ∈ sections, ∃ ms, s.2 = .object ms

theorem PropDecl.succeeds_decode_iff (v : Value) :
    (decode v).Succeeds ↔ ∃ es, v = .object es ∧ Readable es := by
  cases v with
  | object es =>
    rw [decode]
    simp [succeeds_withTexts, succeeds_optionalText, succeeds_asideOf_withTexts_iff, Readable]
  | _ => simp [decode]

theorem StateDecl.succeeds_decode_iff (v : Value) :
    (decode v).Succeeds ↔ ∃ es, v = .object es ∧ Readable es := by
  cases v with
  | object es => simp [decode, succeeds_withTexts, succeeds_asideOf_withTexts_iff, Readable]
  | _ => simp [decode]

theorem Metadata.succeeds_decode_iff (v : Value) :
    (decode v).Succeeds ↔ ∃ es, v = .object es ∧ Readable es := by
  cases v with
  | object es => simp [decode, succeeds_optionalText, succeeds_asideOf_withTexts_iff, Readable]
  | _ => simp [decode]

theorem Decode.succeeds_members_iff {α : Type} (decode : Value -> Decoded α) (es : Entries) :
    (members decode es).Succeeds ↔ ∀ e ∈ es, (decode e.2).Succeeds := by
  induction es with
  | nil => simp [members]
  | cons e rest ih => simp [members, ih]

theorem Logic.succeeds_decodeSection_iff {α : Type} (es : Entries) (name : String)
    (decode : Value -> Decoded α) :
    (decodeSection es name decode).Succeeds ↔
      ∀ members, Entries.get? es name = some (.object members) -> ∀ e ∈ members,
        e.2.isObject = true -> (decode e.2).Succeeds := by
  rw [decodeSection, Decoded.succeeds_under_iff, keptSection]
  split
  · rename_i members found
    simp [found, Decode.objectOf, Decode.succeeds_members_iff]
  · rename_i absent
    exact ⟨fun _ members found => (absent members found).elim, fun _ => Decoded.succeeds_value []⟩

/-- A record of set-aside entries, each under the name of its section. -/
theorem Logic.succeeds_sections_iff (v : Value) :
    (Decode.objectOf Decode.object v).Succeeds ↔
      ∃ sections, v = .object sections ∧ ∀ s ∈ sections, ∃ ms, s.2 = .object ms := by
  cases v <;> simp [Decode.objectOf, Decode.succeeds_members_iff, Decode.succeeds_object_iff]

theorem Logic.succeeds_decode_iff (v : Value) :
    (decode v).Succeeds ↔ ∃ es, v = .object es ∧ Readable es := by
  cases v with
  | object es =>
    have entries (dropped : List (String × Entries)) :
        (if dropped.isEmpty then
          Decode.field es ["invalid_entries"] (.value []) (Decode.objectOf Decode.object)
          else .value dropped).Succeeds ↔
        (dropped = [] -> ∀ v, Entries.get? es "invalid_entries" = some v ->
          ∃ sections, v = .object sections ∧ ∀ s ∈ sections, ∃ ms, s.2 = .object ms) := by
      cases dropped <;> simp [Decode.succeeds_field_iff, succeeds_sections_iff]
    simp only [decode, Decoded.succeeds_seq_iff, Decoded.succeeds_map_iff,
      succeeds_decodeSection_iff, PropDecl.succeeds_decode_iff, StateDecl.succeeds_decode_iff,
      succeeds_asideOf_iff, entries, Value.object.injEq, exists_eq_left']
    constructor
    · rintro ⟨⟨⟨props, state⟩, record⟩, entries⟩
      exact ⟨props, state, record, entries⟩
    · rintro ⟨props, state, record, entries⟩
      exact ⟨⟨⟨props, state⟩, record⟩, entries⟩
  | _ => simp [decode]

namespace Document

/-- A source with a tree can be read as a document whose version can be told. -/
structure Readable (es : Entries) : Prop where
  version : ∀ s, Entries.get? es "version" = some (.str s) -> Version.Readable s
  metadata : ∀ v, Entries.get? es "metadata" = some v -> v.isObject = true ->
    ∃ ms, v = .object ms ∧ Metadata.Readable ms
  tree : ∃ ui root, Entries.get? es "ui" = some (.object ui) ∧
    Entries.get? ui "root" = some root ∧ Node.Readable root
  logic : ∀ v, Entries.get? es "logic" = some v -> v.isObject = true ->
    ∃ ms, v = .object ms ∧ Logic.Readable ms
  record : Decode.Recordable es (setAside es)

section

variable {es : Entries} (distinct : (Entries.keys es).Nodup) {key : String}

include distinct

theorem get?_settled_eq_some_iff (v : Value) :
    Entries.get? (settled es) key = some v ↔ Entries.get? es key = some v ∧
      (key = "version" -> v.isText = true) ∧
      (key ∈ ["metadata", "logic"] -> v.isNull = true ∨ v.isObject = true) := by
  rw [settled, Entries.get?_filter distinct, Option.filter_eq_some_iff]
  refine and_congr_right fun found => ?_
  have aside : key ∈ Entries.keys (setAside es) ↔
      key ∈ ["version"] ∧ v.isNull = false ∧ v.isText = false ∨
        key ∈ ["metadata", "logic"] ∧ v.isNull = false ∧ v.isObject = false := by
    simp only [setAside, Entries.keys_append, List.mem_append, Decode.mem_keys_wrongShape_iff,
      found, Option.some.injEq, exists_eq_left']
  simp only [Bool.and_eq_true, Bool.not_eq_true', Bool.and_eq_false_iff, List.contains_eq_mem,
    decide_eq_false_iff_not, aside, beq_eq_false_iff_ne]
  cases v <;> simp [Value.isNull, Value.isText, Value.isObject]

theorem get?_settled_other (other : key ∉ ["version", "metadata", "logic"]) :
    Entries.get? (settled es) key = Entries.get? es key := by
  simp only [List.mem_cons, List.not_mem_nil, or_false, not_or] at other
  refine Option.ext fun v => ?_
  rw [get?_settled_eq_some_iff distinct]
  simp [other]

/-- The version that is read: the one in the source, or the latest where there is none. -/
theorem exists_version_iff (wanted : String -> Prop) (default : wanted latestVersion) :
    (∃ s, Decode.field (settled es) ["version"] (.value latestVersion) Decode.text = .value s ∧
        wanted s) ↔
      ∀ s, Entries.get? es "version" = some (.str s) -> wanted s := by
  constructor
  · rintro ⟨s, read, holds⟩ t found
    have kept := (get?_settled_eq_some_iff distinct (.str t)).mpr
      ⟨found, fun _ => rfl, fun other => by simp at other⟩
    rcases (Decode.field_eq_value_iff _ _ _ _ _).mp read with ⟨v, same, text⟩ | ⟨none, -⟩
    · rw [kept] at same
      cases same
      cases text
      exact holds
    · rw [kept] at none
      cases none
  · intro every
    cases found : Entries.get? (settled es) "version" with
    | none =>
      exact ⟨_, (Decode.field_eq_value_iff _ _ _ _ _).mpr (.inr ⟨found, rfl⟩), default⟩
    | some v =>
      obtain ⟨own, text, -⟩ := (get?_settled_eq_some_iff distinct v).mp found
      obtain ⟨s, rfl⟩ := (Value.isText_iff v).mp (text rfl)
      exact ⟨s, (Decode.field_eq_value_iff _ _ _ _ _).mpr (.inl ⟨_, found, rfl⟩), every s own⟩

theorem succeeds_part_iff {α : Type} {decode : Value -> Decoded α} {readable : Entries -> Prop}
    (succeeds : ∀ v, (decode v).Succeeds ↔ ∃ ms, v = .object ms ∧ readable ms)
    (part : key ∈ ["metadata", "logic"]) :
    (Decode.field (settled es) [key] (.value none) (Decode.optional decode)).Succeeds ↔
      ∀ v, Entries.get? es key = some v -> v.isObject = true ->
        ∃ ms, v = .object ms ∧ readable ms := by
  have kept (v : Value) : Entries.get? (settled es) key = some v ↔
      Entries.get? es key = some v ∧ (v.isNull = true ∨ v.isObject = true) := by
    simp only [List.mem_cons, List.not_mem_nil, or_false] at part
    rcases part with rfl | rfl <;> simp [get?_settled_eq_some_iff distinct]
  simp only [Decode.succeeds_field_iff, kept, and_imp, Decoded.succeeds_value, implies_true,
    and_true]
  refine forall₂_congr fun v _ => ?_
  cases v <;> simp [Value.isNull, Value.isObject, Decode.optional, succeeds]

theorem succeeds_tree_iff (members : Value.membersHaveDistinctKeys es = true) :
    (Decode.required (settled es) ["ui"] decodeTree).Succeeds ↔
      ∃ ui root, Entries.get? es "ui" = some (.object ui) ∧
        Entries.get? ui "root" = some root ∧ Node.Readable root := by
  rw [Decode.required, Decode.succeeds_field_iff, get?_settled_other distinct (by decide)]
  cases found : Entries.get? es "ui" with
  | none => simp
  | some v =>
    have inner := Value.hasDistinctKeys_of_mem members (Entries.mem_of_get? found)
    cases v with
    | object ui =>
      cases rooted : Entries.get? ui "root" with
      | none => simp [decodeTree, Decode.required, Decode.succeeds_field_iff, rooted]
      | some root =>
        have readable := Node.succeeds_decode_iff root (Value.hasDistinctKeys_of_get? inner rooted)
        simp [decodeTree, Decode.required, Decode.succeeds_field_iff, rooted, readable]
    | _ => simp [decodeTree]

end

theorem exists_decode_iff {es : Entries} (distinct : (Value.object es).hasDistinctKeys = true) :
    (∃ d, decode (.object es) = .value d ∧ Version.Readable d.version) ↔ Readable es := by
  obtain ⟨own, members⟩ := (Value.hasDistinctKeys_object es).mp distinct
  have recordable := @Decode.recordable_iff es (settled es) (setAside es)
    (get?_settled_other own (by decide))
  have version := exists_version_iff own Version.Readable readable_latestVersion
  have metadata := succeeds_part_iff own Metadata.succeeds_decode_iff
    (show "metadata" ∈ ["metadata", "logic"] by decide)
  have logic := succeeds_part_iff own Logic.succeeds_decode_iff
    (show "logic" ∈ ["metadata", "logic"] by decide)
  have tree := succeeds_tree_iff own members
  constructor
  · rintro ⟨d, read, current⟩
    simp only [decode, Decoded.andThen_eq_value_iff, Decoded.seq_eq_value_iff,
      Decoded.map_eq_value_iff] at read
    obtain ⟨record, brought, -, aside, ⟨-, l, ⟨-, ui, ⟨-, m, ⟨s, found, rfl⟩, meta_, rfl⟩, root,
      rfl⟩, logical, rfl⟩, recorded, rfl⟩ := read
    exact ⟨version.mp ⟨s, found, current⟩, metadata.mp ⟨m, meta_⟩, tree.mp ⟨ui, root⟩,
      logic.mp ⟨l, logical⟩, recordable.mpr ⟨record, brought, aside, recorded⟩⟩
  · intro able
    obtain ⟨s, found, current⟩ := version.mpr able.version
    obtain ⟨m, meta_⟩ := metadata.mpr able.metadata
    obtain ⟨ui, root⟩ := tree.mpr able.tree
    obtain ⟨l, logical⟩ := logic.mpr able.logic
    obtain ⟨record, brought, aside, recorded⟩ := recordable.mp able.record
    simp only [decode, brought, Decoded.andThen, found, meta_, root, logical, recorded]
    exact ⟨_, rfl, current⟩

theorem exists_ofValue_iff {es : Entries} (distinct : (Value.object es).hasDistinctKeys = true) :
    (∃ d, ofValue (.object es) = .value d ∧ Version.Readable d.version) ↔
      (hasRoot (.object es) = true -> Readable es) := by
  rw [ofValue]
  split
  · rename_i rooted
    rw [exists_decode_iff distinct]
    simp only [rooted, true_imp_iff]
  · rename_i unrooted
    refine ⟨fun _ rooted => absurd rooted unrooted, fun _ => ⟨standard, rfl, ?_⟩⟩
    exact readable_latestVersion

end Document

/-- Normalization and validation give an answer for a source just when it has no tree or can be
read. -/
theorem answered_iff_readable {es : Entries}
    (distinct : (Value.object es).hasDistinctKeys = true) :
    ((∃ n, normalize (.object es) = .ok n) ↔
        (Document.hasRoot (.object es) = true -> Document.Readable es)) ∧
      ((∃ r, Validation.ofValue (.object es) = .ok r) ↔
        (Document.hasRoot (.object es) = true -> Document.Readable es)) := by
  rw [normalize_ok_iff, Validation.ofValue_ok_iff, Document.exists_ofValue_iff distinct]
  exact ⟨Iff.rfl, Iff.rfl⟩

/-- A source whose root has null for an id. -/
def nullId : Entries :=
  [("ui", .object [("root", .object [("id", .null), ("type", .str "div")])])]

theorem nullId_unanswered :
    (¬ ∃ n, normalize (.object nullId) = .ok n) ∧
      ¬ ∃ r, Validation.ofValue (.object nullId) = .ok r := by
  have unreadable : ¬ (Document.hasRoot (.object nullId) = true -> Document.Readable nullId) := by
    intro readable
    obtain ⟨_, _, found, rooted, node⟩ := (readable rfl).tree
    cases found
    cases rooted
    cases node with
    | node fields => exact fields.texts "id" (by decide) rfl
  have distinct : (Value.object nullId).hasDistinctKeys = true := rfl
  have answered := answered_iff_readable distinct
  exact ⟨mt answered.1.mp unreadable, mt answered.2.mp unreadable⟩

/-- A source whose version is a digit that writes no number. -/
def superscriptVersion : Entries :=
  [("version", .str "²"),
    ("ui", .object [("root", .object [("id", .str "r"), ("type", .str "div")])])]

theorem superscriptVersion_unanswered :
    ¬ ((∃ n, normalize (.object superscriptVersion) = .ok n) ∧
      ∃ r, Validation.ofValue (.object superscriptVersion) = .ok r) := by
  have fault : normalize (.object superscriptVersion) = .error (.fault (.numeral "²")) := rfl
  rintro ⟨⟨n, done⟩, -⟩
  rw [fault] at done
  cases done

end ViewDoc
