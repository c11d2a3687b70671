import ViewDoc.Proofs.Document.Records
/-!
Malformed values outside the tree of a document. The main statement is that exactly the values of a
wrong type are listed, each at its place and once, and that the others are read as they stand.
-/

set_option autoImplicit false

namespace ViewDoc

namespace Decode

theorem textKeys_ofEntries (es : Entries) : textKeys (Keyed.ofEntries es) = .value es := by
  induction es with
  | nil => rfl
  | cons e rest ih =>
    show List.cons <$> textKey (.text e.1, e.2) <*> textKeys (Keyed.ofEntries rest) = _
    rw [ih]
    rfl

/-- New entries are recorded as they are, unless the source brings a record along. -/
theorem asideField_ofEntries {es : Entries} {key : String} (absent : Entries.get? es key = none)
    (more : Entries) : asideField es key (Keyed.ofEntries more) = .value more := by
  cases more with
  | nil => simp [asideField, Keyed.ofEntries, field, lookup?, absent]
  | cons e rest =>
    have nonempty : (Keyed.ofEntries (e :: rest)).isEmpty = false := rfl
    rw [asideField, nonempty, textKeys_ofEntries]
    rfl

end Decode

namespace Document

open Misfits (ofFields within)

/-- The shapes of the fields of a document. -/
def shape (key : String) : Shape :=
  if key = "version" then .text
  else if key ∈ ["metadata", "logic"] then .record
  else if key = "ui" then .tree
  else .any

/-- The shapes of the fields beside the tree. -/
def treeShape (key : String) : Shape :=
  if key = "root" then .tree else .any

/-- The shapes below the fields of a document. -/
def shapeBelow (key : String) : List String -> Option Shape :=
  if key = "metadata" then Metadata.shapeAt?
  else if key = "logic" then Logic.shapeAt?
  else if key = "ui" then Shape.nested treeShape fun _ => Shape.unknown
  else Shape.unknown

/-- The shapes of the places in a document, outside its tree. -/
def shapeAt? : List String -> Option Shape :=
  Shape.nested shape shapeBelow

example : shapeAt? ["logic", "props", "title", "type"] = some .text := rfl

/-- What is found below a field of a document. -/
def foundBelow (d : Document) (key : String) : Misfits :=
  if key = "metadata" then d.metadata.elim [] fun m => ofFields m.aside
  else if key = "logic" then d.logic.elim [] Logic.found
  else []

theorem malformedLogic_eq (l : Logic) : malformedLogic l = within "logic" l.found := by
  simp only [Logic.found, within, ofFields, List.map_append, List.map_flatMap, List.map_map]
  rfl

theorem malformedFields_eq (d : Document) :
    d.malformedFields = ofFields d.aside ++
      ["metadata", "logic"].flatMap fun key => within key (d.foundBelow key) := by
  have placed (m : Metadata) : within "metadata" (ofFields m.aside) =
      m.aside.map fun e => (["metadata"] ++ [e.1], e.2) := List.map_map
  rw [malformedFields, List.flatMap_cons, List.flatMap_singleton, List.append_assoc]
  refine congrArg₂ _ rfl (congrArg₂ _ ?_ ?_)
  · show _ = within "metadata" (d.metadata.elim [] fun m => ofFields m.aside)
    cases d.metadata with
    | none => rfl
    | some m => exact (placed m).symm
  · show _ = within "logic" (d.logic.elim [] Logic.found)
    cases d.logic with
    | none => rfl
    | some l => exact malformedLogic_eq l

section

variable {es : Entries} {d : Document}

/-- What is read as a document, field by field. -/
theorem decode_eq_value (read : decode (.object es) = .value d) :
    Decode.field (settled es) ["version"] (.value latestVersion) Decode.text = .value d.version ∧
    Decode.field (settled es) ["metadata"] (.value none) (Decode.optional Metadata.decode) =
      .value d.metadata ∧
    Decode.required (settled es) ["ui"] decodeTree = .value (d.root, d.uiExtras) ∧
    Decode.field (settled es) ["logic"] (.value none) (Decode.optional Logic.decode) =
      .value d.logic ∧
    (∃ record, Decode.asideRecord es "invalid_fields" = .value record ∧
      Decode.asideField (settled es) "invalid_fields"
        (Keyed.merge record (Keyed.ofEntries (setAside es))) = .value d.aside) ∧
    d.animation = Entries.get (settled es) "animation" ∧
    d.extras = Decode.extras (settled es) [["version"], ["metadata"], ["ui"], ["logic"],
      ["animation"], ["invalid_fields"]] := by
  simp only [decode, Decoded.andThen_eq_value_iff, Decoded.seq_eq_value_iff,
    Decoded.map_eq_value_iff] at read
  obtain ⟨record, brought, -, aside, ⟨-, l, ⟨-, ui, ⟨-, m, ⟨s, version, rfl⟩, metadata, rfl⟩, tree,
    rfl⟩, logic, rfl⟩, recorded, rfl⟩ := read
  exact ⟨version, metadata, tree, logic, ⟨record, brought, recorded⟩, rfl, rfl⟩

theorem keys_setAside_sublist (es : Entries) :
    (Entries.keys (setAside es)).Sublist ["version", "metadata", "logic"] := by
  rw [setAside, Entries.keys_append]
  exact (Decode.keys_wrongShape_sublist _ _ _).append (Decode.keys_wrongShape_sublist _ _ _)

/-- What is absent is not among the settled fields. -/
theorem get?_settled_absent {key : String} (absent : Entries.get? es key = none) :
    Entries.get? (settled es) key = none := by
  rw [Entries.get?_eq_none_iff] at absent ⊢
  exact fun mem => absent ((List.filter_sublist.map _).mem mem)

/-- What is set aside is what is new, unless the source brings a record along. -/
theorem aside_eq (plain : Entries.get? es "invalid_fields" = none)
    (read : decode (.object es) = .value d) : d.aside = setAside es := by
  obtain ⟨-, -, -, -, ⟨record, brought, recorded⟩, -⟩ := decode_eq_value read
  rw [Decode.asideRecord, Entries.get, plain] at brought
  cases brought
  have fresh : Keyed.merge [] (Keyed.ofEntries (setAside es)) = Keyed.ofEntries (setAside es) := by
    have distinct := (keys_setAside_sublist es).nodup (by decide)
    have merged := Keyed.merge_ofEntries [] (setAside es)
    rwa [Entries.merge_of_disjoint distinct (by simp [Entries.keys]), List.nil_append] at merged
  rw [fresh, Decode.asideField_ofEntries (get?_settled_absent plain)] at recorded
  exact (Decoded.value.inj recorded).symm

section

variable {α : Type} {decode : Value -> Decoded α} {key : String} {r : Option α}

/-- Where the source has no object, no part is read; where it has one, that is what is read. -/
theorem part_cases (distinct : (Entries.keys es).Nodup) (part : key ∈ ["metadata", "logic"])
    (objects : ∀ v a, decode v = .value a -> ∃ ms, v = .object ms)
    (read : Decode.field (settled es) [key] (.value none) (Decode.optional decode) = .value r) :
    (∀ ms, Entries.get? es key ≠ some (.object ms)) ∧ r = none ∨
      ∃ ms a, Entries.get? es key = some (.object ms) ∧ r = some a ∧
        decode (.object ms) = .value a := by
  rcases (Decode.field_eq_value_iff _ _ _ _ _).mp read with ⟨v, found, own⟩ | ⟨absent, none⟩
  · have stands := ((get?_settled_eq_some_iff distinct v).mp found).1
    by_cases null : v = .null
    · subst null
      cases own
      exact .inl ⟨fun ms same => (nomatch Option.some.inj (stands.symm.trans same)), rfl⟩
    · have inner : (decode v).map some = .value r := by
        cases v with
        | null => exact absurd rfl null
        | _ => exact own
      cases result : decode v with
      | value a =>
        obtain ⟨ms, rfl⟩ := objects v a result
        rw [result] at inner
        exact .inr ⟨ms, a, stands, (Decoded.value.inj inner).symm, result⟩
      | _ =>
        rw [result] at inner
        cases inner
  · refine .inl ⟨fun ms stands => ?_, (Decoded.value.inj none).symm⟩
    have version : key ≠ "version" := by
      rintro rfl
      exact absurd part (by decide)
    have kept := (get?_settled_eq_some_iff distinct (.object ms)).mpr
      ⟨stands, fun same => (version same).elim, fun _ => .inr rfl⟩
    cases absent.symm.trans kept

end

/-- Where the source has an object, a part is read. -/
theorem part_of_object {α : Type} {decode : Value -> Decoded α} {key : String} {r : Option α}
    {ms : Entries} (distinct : (Entries.keys es).Nodup) (part : key ∈ ["metadata", "logic"])
    (objects : ∀ v a, decode v = .value a -> ∃ ms, v = .object ms)
    (read : Decode.field (settled es) [key] (.value none) (Decode.optional decode) = .value r)
    (found : Entries.get? es key = some (.object ms)) : ∃ a, r = some a := by
  rcases part_cases distinct part objects read with ⟨none, -⟩ | ⟨_, a, -, same, -⟩
  · exact (none ms found).elim
  · exact ⟨a, same⟩

/-- What is set aside is what is of a wrong type for its field. -/
theorem mem_setAside_iff (es : Entries) (key : String) (v : Value) :
    (key, v) ∈ setAside es ↔
      ∃ w, Entries.get? es key = some w ∧ (shape key).wrong? w = some v := by
  rw [setAside, List.mem_append, Decode.mem_wrongShape_shape_iff Shape.wrong?_text_eq_some_iff,
    Decode.mem_wrongShape_shape_iff Shape.wrong?_record_eq_some_iff, shape]
  by_cases text : key = "version"
  · simp [text]
  · by_cases record : key ∈ ["metadata", "logic"]
    · simp [text, record]
    · by_cases tree : key = "ui"
      · simp [tree, Shape.wrong?]
      · simp [text, record, tree, Shape.wrong?]

section

variable {kept : Entries} (distinct : (Entries.keys es).Nodup) (read : decode (.object es) = .value d)
  (whole : d.toValue = .object kept) {key : String}

include distinct read whole

/-- What is of the right type is kept: the version when it is a text, and what the format leaves
free. -/
theorem get?_kept_of_right (plain : Entries.get? es "invalid_fields" = none) {v w : Value}
    (found : Entries.get? es key = some v) (right : (shape key).right? v = some w) :
    Entries.get? kept key = some w := by
  obtain ⟨version, -, -, -, -, animation, extras⟩ := decode_eq_value read
  cases whole
  have unrecorded := ne_of_absent plain found
  rw [shape] at right
  split at right
  · rename_i same
    subst same
    obtain ⟨s, rfl, rfl⟩ := (Shape.right?_text_eq_some_iff v w).mp right
    have kept := (get?_settled_eq_some_iff distinct (.str s)).mpr
      ⟨found, fun _ => rfl, fun other => absurd other (by decide)⟩
    rw [eq_of_field_text kept version]
    rfl
  · split at right
    · cases right
    · split at right
      · cases right
      · cases right
        rw [← get?_settled_other distinct (by simp_all)] at found
        by_cases own : key = "animation"
        · subst own
          rw [animation, Entries.get, found]
          rfl
        · have free : key ∉ [["version"], ["metadata"], ["ui"], ["logic"], ["animation"],
              ["invalid_fields"]].flatten := by
            simp_all
          rw [extras, Decode.get?_append_extras rfl free, found]

theorem exists_object_kept {ms : Entries} (hasFields : (shape key).hasFields = true)
    (found : Entries.get? es key = some (.object ms)) :
    ∃ ms', Entries.get? kept key = some (.object ms') := by
  obtain ⟨-, metadata, -, logic, -⟩ := decode_eq_value read
  cases whole
  rw [shape] at hasFields
  split at hasFields
  · cases hasFields
  · split at hasFields
    · rename_i part
      simp only [List.mem_cons, List.not_mem_nil, or_false] at part
      rcases part with rfl | rfl
      · obtain ⟨m, same⟩ := part_of_object distinct (by decide)
          (Decode.exists_object Metadata.succeeds_decode_iff) metadata found
        rw [same]
        exact ⟨_, rfl⟩
      · obtain ⟨l, same⟩ := part_of_object distinct (by decide)
          (Decode.exists_object Logic.succeeds_decode_iff) logic found
        rw [same]
        exact ⟨_, rfl⟩
    · split at hasFields <;> cases hasFields

theorem sortsFields (plain : Entries.get? es "invalid_fields" = none) :
    SortsFields shape es d.aside kept where
  mem_iff key v := aside_eq plain read ▸ mem_setAside_iff es key v
  nodup := aside_eq plain read ▸ (keys_setAside_sublist es).nodup (by decide)
  values _ _ _ found right := get?_kept_of_right distinct read whole plain found right
  objects _ _ hasFields found := exists_object_kept distinct read whole hasFields found

end

theorem sorts_tree {root : Node} {more : Entries} {v : Value}
    (read : decodeTree v = .value (root, more)) :
    Sorts (Shape.nested treeShape fun _ => Shape.unknown) v []
      (.object (("root", root.toValue) :: more)) := by
  cases v with
  | object ui =>
    rw [decodeTree, Decoded.map_eq_value_iff] at read
    obtain ⟨_, -, same⟩ := read
    cases same
    have fields : SortsFields treeShape ui []
        ([("root", root.toValue)] ++ Decode.extras ui [["root"]]) := by
      constructor
      case mem_iff =>
        intro key v
        rw [treeShape]
        split <;> simp [Shape.wrong?]
      case nodup => exact List.nodup_nil
      case values =>
        intro key v w found right
        rw [treeShape] at right
        split at right
        · cases right
        · rename_i other
          cases right
          have free : key ∉ [["root"]].flatten := by simpa using other
          rw [Decode.get?_append_extras rfl free, found]
      case objects =>
        intro key ms hasFields
        rw [treeShape] at hasFields
        split at hasFields <;> cases hasFields
    exact Sorts.ofFields fields
  | _ => cases read

/-- A source brings no records of set-aside values along. -/
structure BringsNoRecord (source : Value) : Prop where
  fields : ∀ place ∈ [[], ["metadata"], ["logic"]],
    source.under? (place ++ ["invalid_fields"]) = none
  entries : source.under? ["logic", "invalid_entries"] = none
  declarations : ∀ name ∈ ["props", "state"], ∀ key,
    source.under? ["logic", name, key, "invalid_fields"] = none

theorem shapeBelow_nil (key : String) : shapeBelow key [] = none := by
  rw [shapeBelow]
  split
  · rfl
  · split
    · rfl
    · split <;> rfl

theorem sorts_below {kept : Entries} (distinct : (Value.object es).hasDistinctKeys = true)
    (plain : BringsNoRecord (.object es)) (read : decode (.object es) = .value d)
    (whole : d.toValue = .object kept) (key : String) :
    Sorts (shapeBelow key) (Entries.get es key) (d.foundBelow key) (Entries.get kept key) := by
  have own := ((Value.hasDistinctKeys_object es).mp distinct).1
  obtain ⟨-, metadata, tree, logic, -⟩ := decode_eq_value read
  cases whole
  rw [shapeBelow, foundBelow]
  split
  · rename_i same
    subst same
    rcases part_cases own (by decide) (Decode.exists_object Metadata.succeeds_decode_iff) metadata
      with ⟨none, absent⟩ | ⟨ms, m, stands, some, done⟩
    · rw [absent]
      exact .of_not_object (fun ms same => none ms (Entries.get?_eq_of_get_eq_object same)) rfl _
    · have inner := Value.hasDistinctKeys_of_get? distinct stands
      have free := plain.fields ["metadata"] (by decide)
      rw [List.singleton_append, Value.under?_of_get? stands, Value.under?_object_key] at free
      rw [some, Entries.get, stands]
      exact Metadata.sorts ((Value.hasDistinctKeys_object ms).mp inner).1 free done
  · split
    · rename_i same
      subst same
      rcases part_cases own (by decide) (Decode.exists_object Logic.succeeds_decode_iff) logic
        with ⟨none, absent⟩ | ⟨ms, l, stands, some, done⟩
      · rw [absent]
        exact .of_not_object (fun ms same => none ms (Entries.get?_eq_of_get_eq_object same)) rfl _
      · have free := plain.fields ["logic"] (by decide)
        have entries := plain.entries
        have declarations := plain.declarations
        simp only [List.singleton_append, Value.under?_of_get? stands, Value.under?_object_key]
          at free entries declarations
        rw [some, Entries.get, stands]
        exact Logic.sorts (Value.hasDistinctKeys_of_get? distinct stands) free entries declarations
          done
    · split
      · rename_i same
        subst same
        rcases (Decode.field_eq_value_iff _ _ _ _ _).mp tree with ⟨v, found, done⟩ | ⟨-, missing⟩
        · rw [get?_settled_other own (by decide)] at found
          rw [Entries.get, found]
          exact sorts_tree done
        · cases missing
      · exact .unknown _ _

end

/-- What is listed as malformed is exactly what is of a wrong type, and the rest is read as it
stands. -/
theorem sorts_malformedFields {es : Entries} {d : Document}
    (distinct : (Value.object es).hasDistinctKeys = true) (plain : BringsNoRecord (.object es))
    (read : decode (.object es) = .value d) :
    Sorts shapeAt? (.object es) d.malformedFields d.toValue := by
  have own := ((Value.hasDistinctKeys_object es).mp distinct).1
  have free := plain.fields [] (by decide)
  rw [List.nil_append, Value.under?_object_key] at free
  rw [malformedFields_eq]
  refine Sorts.nested (sortsFields own read rfl free) shapeBelow_nil
    (sorts_below distinct plain read rfl) (by decide) fun key other => ?_
  simp_all [foundBelow]

/-- A source with values of a wrong type in every part outside the tree. -/
def mistyped : Entries :=
  [("version", .int 2),
    ("metadata", .object [("name", .int 5), ("description", .str "Sign up"),
      ("tags", .list [.str "form", .null, .int 3])]),
    ("ui", .object [("root", .object [("id", .str "r"), ("type", .str "div")])]),
    ("logic", .object [
      ("props", .object [("title", .object [("type", .int 3), ("default", .null)]),
        ("size", .null)]),
      ("state", .list [])]),
    ("theme", .str "dark")]

theorem mistyped_sorted :
    (Value.object mistyped).hasDistinctKeys = true ∧ BringsNoRecord (.object mistyped) ∧
      ∃ d, decode (.object mistyped) = .value d ∧
        d.malformedFields =
          [(["version"], .int 2), (["metadata", "name"], .int 5),
            (["metadata", "tags"], .list [.null, .int 3]), (["logic", "state"], .list []),
            (["logic", "props", "size"], .null), (["logic", "props", "title", "type"], .int 3)] ∧
        Sorts shapeAt? (.object mistyped) d.malformedFields d.toValue := by
  have distinct : (Value.object mistyped).hasDistinctKeys = true := rfl
  have plain : BringsNoRecord (.object mistyped) := by
    refine ⟨by decide, rfl, fun name named key => ?_⟩
    simp only [List.mem_cons, List.not_mem_nil, or_false] at named
    rcases named with rfl | rfl
    · rw [Value.under?_of_get? rfl, Value.under?_of_get? rfl, Value.under?_object, Entries.get?,
        Entries.get?]
      split
      · rfl
      · split <;> rfl
    · rfl
  exact ⟨distinct, plain, _, rfl, rfl, sorts_malformedFields distinct plain rfl⟩

end Document

end ViewDoc
