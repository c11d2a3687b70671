import ViewDoc.Proofs.Document.Readable
import ViewDoc.Proofs.Value.Sorted
/-!
The records outside the tree of a document: declarations of props and state, metadata and logic. The
main statements are that reading one sorts its source: exactly the values of a wrong type are set
aside, and the others are read as they stand.
-/

set_option autoImplicit false

namespace ViewDoc

namespace Decode

/-- A key that no field has a name for keeps its value. -/
theorem get?_extras {fields : List (List String)} {key : String}
    (other : ∀ names ∈ fields, key ∉ names) (es : Entries) :
    Entries.get? (extras es fields) key = Entries.get? es key := by
  have named (names : List String) (e : String × Value) (taken : lookup? es names = some e) :
      e.1 ∈ names := by
    induction names with
    | nil => cases taken
    | cons name rest ih =>
      rw [lookup?] at taken
      split at taken
      · cases taken
        exact List.mem_cons_self
      · exact List.mem_cons_of_mem _ (ih taken)
  refine Entries.get?_filter_of_forall es fun v => ?_
  rw [Bool.not_eq_true', List.contains_eq_mem, decide_eq_false_iff_not, List.mem_filterMap]
  rintro ⟨names, field, taken⟩
  obtain ⟨e, found, rfl⟩ := Option.map_eq_some_iff.mp taken
  exact other names field (named names e found)

theorem keys_wrongShape_sublist (es : Entries) (wanted : Value -> Bool) (names : List String) :
    (Entries.keys (wrongShape es wanted names)).Sublist names := by
  induction names with
  | nil => exact List.Sublist.refl _
  | cons name rest ih =>
    rw [wrongShape, List.filterMap_cons]
    split
    · exact ih.cons name
    · rename_i e taken
      have first : e.1 = name := by
        split at taken
        · split at taken
          · cases taken
          · cases taken
            rfl
        · cases taken
      exact first ▸ ih.cons_cons e.1

/-- Where a shape asks for what is wanted, the entries of a wrong shape are those of a wrong type
by it. -/
theorem mem_wrongShape_shape_iff {shape : Shape} {wanted : Value -> Bool}
    (decides : ∀ v w, shape.wrong? v = some w ↔ v = w ∧ v.isNull = false ∧ wanted v = false)
    (es : Entries) (names : List String) (key : String) (v : Value) :
    (key, v) ∈ wrongShape es wanted names ↔
      key ∈ names ∧ ∃ w, Entries.get? es key = some w ∧ shape.wrong? w = some v := by
  rw [mem_wrongShape_iff]
  simp only [decides]
  constructor
  · rintro ⟨named, found, wrong⟩
    exact ⟨named, v, found, rfl, wrong⟩
  · rintro ⟨named, _, found, rfl, wrong⟩
    exact ⟨named, found, wrong⟩

/-- A record is made of its fields and of what no field takes. -/
theorem get?_append_extras {fields : List (List String)} {front : Entries} {reserved : List String}
    {key : String} (names : fields.flatten = Entries.keys front ++ reserved)
    (other : key ∉ fields.flatten) (es : Entries) :
    Entries.get? (front ++ extras es fields) key = Entries.get? es key := by
  have apart : key ∉ Entries.keys front := by
    rw [names, List.mem_append, not_or] at other
    exact other.1
  have free : ∀ names ∈ fields, key ∉ names := fun names field mem =>
    other (List.mem_flatten.mpr ⟨names, field, mem⟩)
  rw [Entries.get?_append, Entries.get?_eq_none_iff.mpr apart, Option.none_or, get?_extras free]

/-- Decoding keeps the keys of entries. -/
theorem forall₂_of_members {α : Type} {decode : Value -> Decoded α} {es : Entries}
    {ms : List (String × α)} (read : members decode es = .value ms) :
    List.Forall₂ (fun e m => e.1 = m.1 ∧ decode e.2 = .value m.2) es ms := by
  induction es generalizing ms with
  | nil =>
    cases read
    exact .nil
  | cons e rest ih =>
    rw [members, Decoded.seq_eq_value_iff] at read
    obtain ⟨_, as, first, later, rfl⟩ := read
    obtain ⟨a, own, rfl⟩ := (Decoded.map_eq_value_iff _ _ _).mp first
    rw [Decoded.under_eq_value_iff] at own
    exact .cons ⟨rfl, own⟩ (ih later)

end Decode

section

variable {es : Entries} {key : String}

theorem get?_withTexts_text (names : List String) {s : String} (distinct : (Entries.keys es).Nodup)
    (found : Entries.get? es key = some (.str s)) :
    Entries.get? (withTexts es names) key = some (.str s) := by
  rw [withTexts, Entries.get?_filter distinct, found]
  simp [Option.filter, Value.isText]

theorem ne_of_absent {name : String} {v : Value} (absent : Entries.get? es name = none)
    (found : Entries.get? es key = some v) : key ≠ name := by
  rintro rfl
  cases absent.symm.trans found

/-- A text in the source is what is read. -/
theorem eq_of_field_text {s t : String} {absent : Decoded String}
    (found : Entries.get? es key = some (.str s))
    (read : Decode.field es [key] absent Decode.text = .value t) : t = s := by
  rcases (Decode.field_eq_value_iff _ _ _ _ _).mp read with ⟨v, same, text⟩ | ⟨none, -⟩
  · cases found.symm.trans same
    cases text
    rfl
  · cases found.symm.trans none

theorem eq_of_optionalText {s : String} {t : Option String}
    (found : Entries.get? es key = some (.str s)) (read : optionalText es key = .value t) :
    t = some s := by
  rcases (Decode.field_eq_value_iff _ _ _ _ _).mp read with ⟨v, same, text⟩ | ⟨none, -⟩
  · cases found.symm.trans same
    cases text
    rfl
  · cases found.symm.trans none

/-- What is set aside is what is new, unless the source brings a record along. -/
theorem asideOf_eq (absent : Entries.get? es "invalid_fields" = none) (more : Entries) :
    asideOf es more = .value more := by
  rw [asideOf]
  cases more <;> simp [Decode.field, Decode.lookup?, absent]

end

/-- The shapes of the fields of a record whose named fields are texts. -/
def Shape.ofTexts (names : List String) (key : String) : Shape :=
  if key ∈ names then .text else .any

/-- A record whose named fields are texts is sorted when the texts among them and all its other
fields are kept. -/
theorem SortsFields.ofTexts {es kept : Entries} {names : List String} (distinct : names.Nodup)
    (texts : ∀ key ∈ names, ∀ s, Entries.get? es key = some (.str s) ->
      Entries.get? kept key = some (.str s))
    (others : ∀ key ∉ names, ∀ v, Entries.get? es key = some v -> Entries.get? kept key = some v) :
    SortsFields (Shape.ofTexts names) es (Decode.wrongShape es Value.isText names) kept where
  mem_iff key v := by
    rw [Decode.mem_wrongShape_shape_iff Shape.wrong?_text_eq_some_iff, Shape.ofTexts]
    by_cases named : key ∈ names
    · simp [named]
    · simp [named, Shape.wrong?]
  nodup := (Decode.keys_wrongShape_sublist _ _ _).nodup distinct
  values key v w found right := by
    rw [Shape.ofTexts] at right
    split at right
    · rename_i named
      obtain ⟨s, rfl, rfl⟩ := (Shape.right?_text_eq_some_iff v w).mp right
      exact texts key named s found
    · rename_i other
      cases right
      exact others key other v found
  objects key ms hasFields := by
    rw [Shape.ofTexts] at hasFields
    split at hasFields <;> cases hasFields

/-- What a record is read from is an object. -/
theorem Decode.exists_object {α : Type} {decode : Value -> Decoded α} {readable : Entries -> Prop}
    (succeeds : ∀ v, (decode v).Succeeds ↔ ∃ es, v = .object es ∧ readable es) (v : Value) (a : α)
    (read : decode v = .value a) : ∃ es, v = .object es := by
  obtain ⟨es, same, -⟩ := (succeeds v).mp ⟨a, read⟩
  exact ⟨es, same⟩

/-- The shapes of the places in a prop declaration. -/
def PropDecl.shapeAt? : List String -> Option Shape :=
  Shape.nested (Shape.ofTexts ["type", "description"]) fun _ => Shape.unknown

/-- The shapes of the places in a state declaration. -/
def StateDecl.shapeAt? : List String -> Option Shape :=
  Shape.nested (Shape.ofTexts ["type"]) fun _ => Shape.unknown

/-- The shapes of the fields of the metadata. -/
def Metadata.shape (key : String) : Shape :=
  if key = "tags" then .texts else Shape.ofTexts ["name", "description"] key

/-- The shapes of the places in the metadata. -/
def Metadata.shapeAt? : List String -> Option Shape :=
  Shape.nested Metadata.shape fun _ => Shape.unknown

namespace Metadata

theorem asideTags_eq (es : Entries) :
    asideTags es =
      (((Entries.get? es "tags").bind Shape.texts.wrong?).map fun v => ("tags", v)).toList := by
  rw [asideTags]
  cases Entries.get? es "tags" with
  | none => rfl
  | some w =>
    cases w with
    | list items =>
      simp only [Option.bind_some, Shape.wrong?]
      split <;> rfl
    | _ => rfl

theorem mem_asideTags_iff (es : Entries) (key : String) (v : Value) :
    (key, v) ∈ asideTags es ↔
      key = "tags" ∧ ∃ w, Entries.get? es key = some w ∧ Shape.texts.wrong? w = some v := by
  rw [asideTags_eq, Option.mem_toList, Option.map_eq_some_iff]
  constructor
  · rintro ⟨_, wrong, same⟩
    cases same
    exact ⟨rfl, Option.bind_eq_some_iff.mp wrong⟩
  · rintro ⟨rfl, wrong⟩
    exact ⟨v, Option.bind_eq_some_iff.mpr wrong, rfl⟩

theorem keys_asideTags_sublist (es : Entries) : (Entries.keys (asideTags es)).Sublist ["tags"] := by
  rw [asideTags_eq]
  cases (Entries.get? es "tags").bind Shape.texts.wrong? with
  | none => exact List.nil_sublist _
  | some v => exact List.Sublist.refl _

/-- What is set aside of metadata is what is of a wrong type for its field. -/
theorem mem_aside_iff (es : Entries) (key : String) (v : Value) :
    (key, v) ∈ Decode.wrongShape es Value.isText ["name", "description"] ++ asideTags es ↔
      ∃ w, Entries.get? es key = some w ∧ (shape key).wrong? w = some v := by
  rw [List.mem_append, mem_asideTags_iff,
    Decode.mem_wrongShape_shape_iff Shape.wrong?_text_eq_some_iff, shape, Shape.ofTexts]
  by_cases tags : key = "tags"
  · simp [tags]
  · by_cases texts : key ∈ ["name", "description"]
    · simp [tags, texts]
    · simp [tags, texts, Shape.wrong?]

theorem nodup_keys_aside (es : Entries) :
    (Entries.keys (Decode.wrongShape es Value.isText ["name", "description"] ++
      asideTags es)).Nodup := by
  rw [Entries.keys_append]
  have names := (Decode.keys_wrongShape_sublist es Value.isText ["name", "description"]).append
    (keys_asideTags_sublist es)
  exact names.nodup (by decide)

/-- What is read as metadata, field by field. -/
theorem decode_eq_value {es : Entries} {m : Metadata} (read : decode (.object es) = .value m) :
    optionalText (withTexts es ["name", "description"]) "name" = .value m.name ∧
    optionalText (withTexts es ["name", "description"]) "description" = .value m.description ∧
    (∀ items, Entries.get? es "tags" = some (.list items) ->
      m.tags = items.filterMap Value.asText?) ∧
    asideOf (withTexts es ["name", "description"])
      (Decode.wrongShape es Value.isText ["name", "description"] ++ asideTags es) =
        .value m.aside ∧
    m.extras = Decode.extras (withTexts es ["name", "description"])
      [["name"], ["description"], ["tags"], ["invalid_fields"]] := by
  simp only [decode, Decoded.seq_eq_value_iff, Decoded.map_eq_value_iff] at read
  obtain ⟨-, aside, ⟨-, description, ⟨name, named, rfl⟩, described, rfl⟩, recorded, rfl⟩ := read
  exact ⟨named, described, fun items found => keptTags_eq found, recorded, rfl⟩

end Metadata

theorem Value.map_filterMap_asText? (items : List Value) :
    (items.filterMap asText?).map .str = items.filter isText := by
  induction items with
  | nil => rfl
  | cons v rest ih =>
    cases v with
    | str s => exact congrArg (str s :: ·) ih
    | _ => exact ih

section

variable {es : Entries} (distinct : (Entries.keys es).Nodup)
  (plain : Entries.get? es "invalid_fields" = none)

include distinct plain

theorem PropDecl.sorts {p : PropDecl} (read : decode (.object es) = .value p) :
    Sorts shapeAt? (.object es) (.ofFields p.aside) p.toValue := by
  simp only [decode, Decoded.seq_eq_value_iff, Decoded.map_eq_value_iff] at read
  obtain ⟨-, aside, ⟨-, description, ⟨type, typed, rfl⟩, described, rfl⟩, recorded, rfl⟩ := read
  rw [asideOf_eq (by rw [get?_withTexts (by decide), plain])] at recorded
  cases recorded
  refine .ofFields (.ofTexts (by decide) (fun key named s found => ?_) fun key other v found => ?_)
  · have kept := get?_withTexts_text ["type", "description"] distinct found
    simp only [List.mem_cons, List.not_mem_nil, or_false] at named
    rcases named with rfl | rfl
    · rw [eq_of_field_text kept typed]
      rfl
    · rw [eq_of_optionalText kept described]
      rfl
  · have unrecorded := ne_of_absent plain found
    rw [← get?_withTexts other] at found
    by_cases default : key = "default"
    · subst default
      rw [found]
      rfl
    · have free : key ∉ [["type"], ["description"], ["default"], ["invalid_fields"]].flatten := by
        simp_all
      rw [id, Decode.get?_append_extras rfl free, found]

theorem StateDecl.sorts {s : StateDecl} (read : decode (.object es) = .value s) :
    Sorts shapeAt? (.object es) (.ofFields s.aside) s.toValue := by
  simp only [decode, Decoded.seq_eq_value_iff, Decoded.map_eq_value_iff] at read
  obtain ⟨-, aside, ⟨type, typed, rfl⟩, recorded, rfl⟩ := read
  rw [asideOf_eq (by rw [get?_withTexts (by decide), plain])] at recorded
  cases recorded
  refine .ofFields (.ofTexts (by decide) (fun key named s found => ?_) fun key other v found => ?_)
  · obtain rfl := List.mem_singleton.mp named
    rw [eq_of_field_text (get?_withTexts_text _ distinct found) typed]
    rfl
  · have unrecorded := ne_of_absent plain found
    rw [← get?_withTexts other] at found
    by_cases initial : key = "initial"
    · subst initial
      rw [Entries.get, found]
      rfl
    · have free : key ∉ [["type"], ["initial"], ["invalid_fields"]].flatten := by
        simp_all
      rw [id, Decode.get?_append_extras rfl free, found]

/-- What is of the right type is kept in metadata: texts, the texts among the tags, and what the
format leaves free. -/
theorem Metadata.get?_kept_of_right {m : Metadata} {kept : Entries}
    (read : decode (.object es) = .value m) (whole : m.toValue = .object kept) {key : String}
    {v w : Value} (found : Entries.get? es key = some v) (right : (shape key).right? v = some w) :
    Entries.get? kept key = some w := by
  obtain ⟨named, described, tagged, -, extras⟩ := decode_eq_value read
  cases whole
  have unrecorded := ne_of_absent plain found
  rw [shape, Shape.ofTexts] at right
  split at right
  · rename_i tags
    subst tags
    obtain ⟨items, rfl, rfl⟩ := (Shape.right?_texts_eq_some_iff v w).mp right
    show some (Value.list (m.tags.map .str)) = _
    rw [tagged items found, Value.map_filterMap_asText?]
  · rename_i tags
    split at right
    · rename_i texts
      obtain ⟨s, rfl, rfl⟩ := (Shape.right?_text_eq_some_iff v w).mp right
      have kept := get?_withTexts_text ["name", "description"] distinct found
      simp only [List.mem_cons, List.not_mem_nil, or_false] at texts
      rcases texts with rfl | rfl
      · rw [eq_of_optionalText kept named]
        rfl
      · rw [eq_of_optionalText kept described]
        rfl
    · rename_i other
      cases right
      rw [← get?_withTexts other] at found
      have free : key ∉ [["name"], ["description"], ["tags"], ["invalid_fields"]].flatten := by
        simp_all
      rw [id, extras, Decode.get?_append_extras rfl free, found]

theorem Metadata.sortsFields {m : Metadata} {kept : Entries} (read : decode (.object es) = .value m)
    (whole : m.toValue = .object kept) : SortsFields shape es m.aside kept := by
  have recorded := (decode_eq_value read).2.2.2.1
  rw [asideOf_eq (by rw [get?_withTexts (by decide), plain])] at recorded
  rw [← Decoded.value.inj recorded]
  refine ⟨mem_aside_iff es, nodup_keys_aside es, ?_, ?_⟩
  · exact fun key v w found right => get?_kept_of_right distinct plain read whole found right
  · intro key ms hasFields
    rw [shape, Shape.ofTexts] at hasFields
    split at hasFields
    · cases hasFields
    · split at hasFields <;> cases hasFields

theorem Metadata.sorts {m : Metadata} (read : decode (.object es) = .value m) :
    Sorts shapeAt? (.object es) (.ofFields m.aside) m.toValue :=
  .ofFields (sortsFields distinct plain read rfl)

end

theorem Entries.keys_eq_of_forall₂ {α β : Type} {R : α -> β -> Prop} {es : List (String × α)}
    {ms : List (String × β)} (made : List.Forall₂ (fun e m => e.1 = m.1 ∧ R e.2 m.2) es ms) :
    keys es = keys ms := by
  induction made with
  | nil => rfl
  | cons own _ ih => exact congrArg₂ List.cons own.1 ih

theorem Entries.get?_eq_of_get_eq_object {es ms : Entries} {key : String}
    (same : get es key = .object ms) : get? es key = some (.object ms) := by
  rw [get] at same
  cases stands : get? es key with
  | none =>
    rw [stands] at same
    cases same
  | some v =>
    rw [stands] at same
    exact congrArg some same

namespace Logic

open Misfits (ofFields within)

/-- The shapes of the places in a section. -/
def sectionShapeAt? (entryShapeAt? : List String -> Option Shape) : List String -> Option Shape :=
  Shape.nested (fun _ => .entry) fun _ => entryShapeAt?

/-- The members of a section that are no objects. -/
def strayMembers : Value -> Entries
  | .object ms => ms.filter fun e => !e.2.isObject
  | _ => []

/-- A section is sorted when its members that are no objects are set aside and the others are
kept. -/
theorem sortsFields_section {ms kept : Entries} (distinct : (Entries.keys ms).Nodup)
    (objects : ∀ key es, Entries.get? ms key = some (.object es) ->
      ∃ es', Entries.get? kept key = some (.object es')) :
    SortsFields (fun _ => .entry) ms (strayMembers (.object ms)) kept where
  mem_iff key v := by
    simp only [strayMembers, List.mem_filter, Bool.not_eq_true', Shape.wrong?_entry_eq_some_iff]
    constructor
    · rintro ⟨mem, stray⟩
      exact ⟨v, Entries.get?_of_mem distinct mem, rfl, stray⟩
    · rintro ⟨_, found, rfl, stray⟩
      exact ⟨Entries.mem_of_get? found, stray⟩
  nodup := (List.filter_sublist.map _).nodup distinct
  values _ _ _ _ right := nomatch right
  objects key es _ found := objects key es found

section

variable {α : Type} {decode : Value -> Decoded α} {entryShapeAt? : List String -> Option Shape}
  {ms : Entries} {members : List (String × α)}

/-- What is found in the member of a section under a key. -/
def foundUnder (found : α -> Misfits) (members : List (String × α)) (key : String) : Misfits :=
  ((Entries.get? members key).map found).getD []

theorem flatMap_foundUnder (found : α -> Misfits) (distinct : (Entries.keys members).Nodup) :
    ((Entries.keys members).flatMap fun key => within key (foundUnder found members key)) =
      members.flatMap fun m => within m.1 (found m.2) := by
  rw [Entries.keys, List.flatMap_map]
  refine List.flatMap_congr fun m mem => ?_
  rw [foundUnder, Entries.get?_of_mem distinct mem]
  rfl

/-- Under a key the section has no object and nothing is read, or what stands there is read. -/
theorem get?_members_cases (distinct : (Entries.keys ms).Nodup)
    (read : Decode.members decode (ms.filter fun e => e.2.isObject) = .value members)
    (key : String) :
    (∀ es, Entries.get? ms key ≠ some (.object es)) ∧ Entries.get? members key = none ∨
      ∃ v a, Entries.get? ms key = some v ∧ Entries.get? members key = some a ∧
        decode v = .value a := by
  have pair := @Entries.get?_of_forall₂ _ _ (fun v a => decode v = .value a) _ _
    (Decode.forall₂_of_members read) key
  rw [Entries.get?_filter distinct] at pair
  cases taken : Entries.get? members key with
  | none =>
    refine .inl ⟨fun es stands => ?_, rfl⟩
    rw [stands, taken] at pair
    cases pair
  | some a =>
    refine .inr ?_
    rw [taken] at pair
    cases stands : Entries.get? ms key with
    | none =>
      rw [stands] at pair
      cases pair
    | some v =>
      rw [stands, Option.filter] at pair
      split at pair
      · cases pair with
        | some own => exact ⟨v, a, rfl, rfl, own⟩
      · cases pair

theorem sorts_members (found : α -> Misfits) (toValue : α -> Value)
    (distinct : (Entries.keys ms).Nodup) (root : entryShapeAt? [] = none)
    (object : ∀ a, ∃ kept, toValue a = .object kept)
    (each : ∀ key v a, Entries.get? ms key = some v -> decode v = .value a ->
      Sorts entryShapeAt? v (found a) (toValue a))
    (read : Decode.members decode (ms.filter fun e => e.2.isObject) = .value members) :
    Sorts (sectionShapeAt? entryShapeAt?) (.object ms)
      (ofFields (strayMembers (.object ms)) ++
        members.flatMap fun m => within m.1 (found m.2))
      (.object (members.map fun m => (m.1, toValue m.2))) := by
  have unique : (Entries.keys members).Nodup := by
    rw [← @Entries.keys_eq_of_forall₂ _ _ (fun v a => decode v = .value a) _ _
      (Decode.forall₂_of_members read)]
    exact (List.filter_sublist.map _).nodup distinct
  rw [← flatMap_foundUnder found unique]
  refine Sorts.nested (sortsFields_section distinct fun key es stands => ?_) (fun _ => root)
    (fun key => ?_) unique fun key other => ?_
  · rcases get?_members_cases distinct read key with ⟨none, -⟩ | ⟨_, a, -, taken, -⟩
    · exact (none es stands).elim
    · obtain ⟨kept, same⟩ := object a
      exact ⟨kept, by rw [Entries.get?_map, taken, Option.map_some, same]⟩
  · rcases get?_members_cases distinct read key with ⟨none, free⟩ | ⟨v, a, stands, taken, own⟩
    · rw [foundUnder, free]
      exact .of_not_object (fun es same => none es (Entries.get?_eq_of_get_eq_object same)) root _
    · rw [foundUnder, Entries.get, Entries.get, Entries.get?_map, stands, taken]
      exact each key v a stands own
  · rw [foundUnder, Entries.get?_eq_none_iff.mpr other]
    rfl

/-- What is read as a section sorts what stands there; where no object does, nothing is read. -/
theorem sorts_section (found : α -> Misfits) (toValue : α -> Value) {es : Entries} {name : String}
    (distinct : (Value.object es).hasDistinctKeys = true)
    (plain : ∀ key, (Value.object es).under? [name, key, "invalid_fields"] = none)
    (root : entryShapeAt? [] = none) (object : ∀ a, ∃ kept, toValue a = .object kept)
    (objects : ∀ v a, decode v = .value a -> ∃ vs, v = .object vs)
    (each : ∀ vs a, (Entries.keys vs).Nodup -> Entries.get? vs "invalid_fields" = none ->
      decode (.object vs) = .value a -> Sorts entryShapeAt? (.object vs) (found a) (toValue a))
    (read : decodeSection es name decode = .value members) :
    Sorts (sectionShapeAt? entryShapeAt?) (Entries.get es name)
      (ofFields (strayMembers (Entries.get es name)) ++
        members.flatMap fun m => within m.1 (found m.2))
      (.object (members.map fun m => (m.1, toValue m.2))) := by
  rw [decodeSection, Decoded.under_eq_value_iff, keptSection] at read
  split at read
  · rename_i ms stands
    have inner := Value.hasDistinctKeys_of_get? distinct stands
    rw [Entries.get, stands]
    have own := (Value.hasDistinctKeys_object ms).mp inner
    refine sorts_members found toValue own.1 root object (fun key v a entry done => ?_) read
    obtain ⟨vs, rfl⟩ := objects v a done
    have unrecorded := plain key
    rw [Value.under?_of_get? stands, Value.under?_of_get? entry,
      Value.under?_object_key] at unrecorded
    have below := Value.hasDistinctKeys_of_mem own.2 (Entries.mem_of_get? entry)
    exact each vs a ((Value.hasDistinctKeys_object vs).mp below).1 unrecorded done
  · rename_i absent
    cases read
    have stray : ∀ ms, Entries.get es name ≠ .object ms := fun ms same =>
      absent ms (Entries.get?_eq_of_get_eq_object same)
    have none : strayMembers (Entries.get es name) = [] := by
      rw [strayMembers]
      exact stray
    rw [none]
    exact .of_not_object stray rfl _

end

/-- The shapes of the fields of the logic. -/
def shape (key : String) : Shape :=
  if key ∈ ["props", "state"] then .record else .any

/-- The shapes below the fields of the logic. -/
def shapeBelow (key : String) : List String -> Option Shape :=
  if key = "props" then sectionShapeAt? PropDecl.shapeAt?
  else if key = "state" then sectionShapeAt? StateDecl.shapeAt?
  else Shape.unknown

/-- What is found in the logic. -/
def found (l : Logic) : Misfits :=
  ofFields l.aside ++ l.asideEntries.flatMap (fun s => within s.1 (ofFields s.2)) ++
    within "props" (l.props.flatMap fun p => within p.1 (ofFields p.2.aside)) ++
    within "state" (l.state.flatMap fun s => within s.1 (ofFields s.2.aside))

theorem shapeBelow_nil (key : String) : shapeBelow key [] = none := by
  rw [shapeBelow]
  split
  · rfl
  · split <;> rfl

/-- The entries that a section drops stand under its name. -/
theorem flatMap_droppedEntries (es : Entries) (name : String) :
    (droppedEntries es name).flatMap (fun s => within s.1 (ofFields s.2)) =
      within name (ofFields (strayMembers (Entries.get es name))) := by
  rw [droppedEntries, Entries.get]
  split
  · rename_i ms stands
    rw [stands, Option.getD_some, strayMembers]
    dsimp only
    split
    · rename_i empty
      rw [List.isEmpty_iff.mp empty]
      rfl
    · rw [List.flatMap_singleton]
  · rename_i absent
    have none : strayMembers ((Entries.get? es name).getD .null) = [] := by
      rw [strayMembers]
      exact fun ms same => absent ms (Entries.get?_eq_of_get_eq_object same)
    rw [none]
    rfl

section

variable {es : Entries}

/-- What is read as the logic, field by field. -/
theorem decode_eq_value {l : Logic} (read : decode (.object es) = .value l) :
    (decodeSection es "props" PropDecl.decode = .value l.props ∧
      decodeSection es "state" StateDecl.decode = .value l.state) ∧
    (asideOf es (Decode.wrongShape es Value.isObject ["props", "state"]) = .value l.aside ∧
      (let dropped := droppedEntries es "props" ++ droppedEntries es "state"
      if dropped.isEmpty then
        Decode.field es ["invalid_entries"] (.value []) (Decode.objectOf Decode.object)
      else .value dropped) = .value l.asideEntries) ∧
    l.graphs = Entries.get es "graphs" ∧ l.extras = Decode.extras es
      [["props"], ["state"], ["graphs"], ["invalid_fields"], ["invalid_entries"]] := by
  simp only [decode, Decoded.seq_eq_value_iff, Decoded.map_eq_value_iff] at read
  obtain ⟨-, dropped, ⟨-, aside, ⟨-, state, ⟨props, inProps, rfl⟩, inState, rfl⟩, recorded, rfl⟩,
    same, rfl⟩ := read
  exact ⟨⟨inProps, inState⟩, ⟨recorded, same⟩, rfl, rfl⟩

theorem sortsFields {l : Logic} {kept : Entries} (plain : Entries.get? es "invalid_fields" = none)
    (entries : Entries.get? es "invalid_entries" = none) (read : decode (.object es) = .value l)
    (whole : l.toValue = .object kept) : SortsFields shape es l.aside kept := by
  obtain ⟨-, ⟨recorded, -⟩, graphs, extras⟩ := decode_eq_value read
  rw [asideOf_eq plain] at recorded
  rw [← Decoded.value.inj recorded]
  cases whole
  constructor
  case mem_iff =>
    intro key v
    rw [Decode.mem_wrongShape_shape_iff Shape.wrong?_record_eq_some_iff, shape]
    by_cases named : key ∈ ["props", "state"]
    · simp [named]
    · simp [named, Shape.wrong?]
  case nodup => exact (Decode.keys_wrongShape_sublist _ _ _).nodup (by decide)
  case values =>
    intro key v w found right
    have unrecorded := ne_of_absent plain found
    have noEntries := ne_of_absent entries found
    rw [shape] at right
    split at right
    · cases right
    · cases right
      by_cases own : key = "graphs"
      · subst own
        rw [graphs, Entries.get, found]
        rfl
      · have free : key ∉ [["props"], ["state"], ["graphs"], ["invalid_fields"],
            ["invalid_entries"]].flatten := by
          simp_all
        rw [id, extras, Decode.get?_append_extras rfl free, found]
  case objects =>
    intro key ms hasFields found
    rw [shape] at hasFields
    split at hasFields
    · rename_i named
      simp only [List.mem_cons, List.not_mem_nil, or_false] at named
      rcases named with rfl | rfl
      · exact ⟨_, rfl⟩
      · exact ⟨_, rfl⟩
    · cases hasFields

/-- The entries that are dropped, unless the source brings some along. -/
theorem entries_eq {dropped read : List (String × Entries)}
    (entries : Entries.get? es "invalid_entries" = none)
    (same : (if dropped.isEmpty then
      Decode.field es ["invalid_entries"] (.value []) (Decode.objectOf Decode.object)
      else .value dropped) = .value read) : read = dropped := by
  split at same
  · rename_i empty
    rw [Decode.field, Decode.lookup?, entries] at same
    cases same
    exact (List.isEmpty_iff.mp empty).symm
  · cases same
    rfl

/-- The shapes of the places in the logic. -/
def shapeAt? : List String -> Option Shape :=
  Shape.nested shape shapeBelow

/-- What is found below a field of the logic. -/
def foundBelow (es : Entries) (l : Logic) (key : String) : Misfits :=
  if key = "props" then
    ofFields (strayMembers (Entries.get es key)) ++
      l.props.flatMap fun p => within p.1 (ofFields p.2.aside)
  else if key = "state" then
    ofFields (strayMembers (Entries.get es key)) ++
      l.state.flatMap fun s => within s.1 (ofFields s.2.aside)
  else []

theorem sorts_below {l : Logic} {kept : Entries}
    (distinct : (Value.object es).hasDistinctKeys = true)
    (declarations : ∀ name ∈ ["props", "state"], ∀ key,
      (Value.object es).under? [name, key, "invalid_fields"] = none)
    (read : decode (.object es) = .value l) (whole : l.toValue = .object kept) (key : String) :
    Sorts (shapeBelow key) (Entries.get es key) (foundBelow es l key) (Entries.get kept key) := by
  obtain ⟨⟨inProps, inState⟩, -⟩ := decode_eq_value read
  cases whole
  rw [shapeBelow, foundBelow]
  split
  · rename_i same
    subst same
    exact sorts_section (fun p => ofFields p.aside) (fun p => p.toValue) distinct
      (declarations "props" (by decide)) rfl (fun _ => ⟨_, rfl⟩)
      (Decode.exists_object PropDecl.succeeds_decode_iff)
      (fun _ _ own free => PropDecl.sorts own free) inProps
  · split
    · rename_i same
      subst same
      exact sorts_section (fun s => ofFields s.aside) (fun s => s.toValue) distinct
        (declarations "state" (by decide)) rfl (fun _ => ⟨_, rfl⟩)
        (Decode.exists_object StateDecl.succeeds_decode_iff)
        (fun _ _ own free => StateDecl.sorts own free) inState
    · exact .unknown _ _

theorem sorts {l : Logic} (distinct : (Value.object es).hasDistinctKeys = true)
    (plain : Entries.get? es "invalid_fields" = none)
    (entries : Entries.get? es "invalid_entries" = none)
    (declarations : ∀ name ∈ ["props", "state"], ∀ key,
      (Value.object es).under? [name, key, "invalid_fields"] = none)
    (read : decode (.object es) = .value l) :
    Sorts shapeAt? (.object es) l.found l.toValue := by
  obtain ⟨-, ⟨-, same⟩, -⟩ := decode_eq_value read
  have whole := Sorts.nested (sortsFields plain entries read rfl) shapeBelow_nil
    (sorts_below distinct declarations read rfl) (by decide : ["props", "state"].Nodup)
    fun key other => by simp_all [foundBelow]
  refine whole.perm ?_
  have below : (["props", "state"].flatMap fun key => within key (foundBelow es l key)) =
      within "props" (ofFields (strayMembers (Entries.get es "props"))) ++
        (within "props" (l.props.flatMap fun p => within p.1 (ofFields p.2.aside)) ++
        (within "state" (ofFields (strayMembers (Entries.get es "state"))) ++
          within "state" (l.state.flatMap fun s => within s.1 (ofFields s.2.aside)))) := by
    simp [foundBelow, Misfits.within_append]
  rw [found, entries_eq entries same, List.flatMap_append, flatMap_droppedEntries,
    flatMap_droppedEntries, below, List.append_assoc, List.append_assoc, List.append_assoc]
  -- the fields of the declarations come after the dropped entries of both sections
  exact ((List.perm_append_comm_assoc _ _ _).append_left _).append_left _

end

end Logic

end ViewDoc
