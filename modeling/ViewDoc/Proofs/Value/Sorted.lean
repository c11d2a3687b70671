import ViewDoc.Proofs.Ref.Occurrence
/-!
Shapes of the places in a value, and sorting by them: what is of a wrong type is set aside with its
place, and what is of the right type is kept. The main statement joins the sorting of a record with
that of its parts.
-/

set_option autoImplicit false

namespace ViewDoc

namespace Value

/-- What stands at a place, given by the keys that lead there. -/
def under? (v : Value) (place : List String) : Option Value :=
  v.at? (place.map .key)

@[simp] theorem under?_nil (v : Value) : v.under? [] = some v := rfl

theorem under?_object (es : Entries) (key : String) (rest : List String) :
    (object es).under? (key :: rest) = (Entries.get? es key).bind fun v => v.under? rest := rfl

@[simp] theorem under?_object_key (es : Entries) (key : String) :
    (object es).under? [key] = Entries.get? es key := by
  rw [under?_object]
  cases Entries.get? es key <;> rfl

theorem under?_of_get? {es : Entries} {key : String} {v : Value}
    (stands : Entries.get? es key = some v) (rest : List String) :
    (object es).under? (key :: rest) = v.under? rest := by
  rw [under?_object, stands, Option.bind_some]

theorem under?_of_not_object {v : Value} (plain : ∀ es, v ≠ object es) (key : String)
    (rest : List String) : v.under? (key :: rest) = none := by
  cases v with
  | object es => exact absurd rfl (plain es)
  | _ => rfl

/-- Below a key that is absent there is nothing, as below a null. -/
theorem under?_object_below (es : Entries) (key step : String) (rest : List String) :
    (object es).under? (key :: step :: rest) = (Entries.get es key).under? (step :: rest) := by
  rw [under?_object, Entries.get]
  cases Entries.get? es key with
  | some v => rfl
  | none => exact (under?_of_not_object (fun _ => Value.noConfusion) step rest).symm

end Value

/-- What may stand at a place: a text, a list of texts, a record, an entry of a section, a tree, or
anything. -/
inductive Shape where
  | text
  | texts
  | record
  | entry
  | tree
  | any
  deriving DecidableEq, Repr

namespace Shape

/-- What of a value is of a wrong type. Null stands for an absent text, list or record, but not for
an entry. A tree is not looked into. -/
def wrong? : Shape -> Value -> Option Value
  | .text, v => if v.isNull || v.isText then none else some v
  | .texts, .null => none
  | .texts, .list items =>
    if items.all Value.isText then none else some (.list (items.filter fun v => !v.isText))
  | .texts, v => some v
  | .record, v => if v.isNull || v.isObject then none else some v
  | .entry, v => if v.isObject then none else some v
  | .tree, _ | .any, _ => none

/-- What of a value is of the right type. A record and an entry have fields with shapes of their
own. -/
def right? : Shape -> Value -> Option Value
  | .text, .str s => some (.str s)
  | .texts, .list items => some (.list (items.filter Value.isText))
  | .any, v => some v
  | _, _ => none

/-- Whether an object of this shape stays one. -/
def hasFields : Shape -> Bool
  | .record | .entry => true
  | _ => false

theorem wrong?_text_eq_some_iff (v w : Value) :
    text.wrong? v = some w ↔ v = w ∧ v.isNull = false ∧ v.isText = false := by
  rw [wrong?]
  cases v <;> simp [Value.isNull, Value.isText]

theorem wrong?_record_eq_some_iff (v w : Value) :
    record.wrong? v = some w ↔ v = w ∧ v.isNull = false ∧ v.isObject = false := by
  rw [wrong?]
  cases v <;> simp [Value.isNull, Value.isObject]

theorem wrong?_entry_eq_some_iff (v w : Value) :
    entry.wrong? v = some w ↔ v = w ∧ v.isObject = false := by
  rw [wrong?]
  cases v <;> simp [Value.isObject]

theorem right?_text_eq_some_iff (v w : Value) :
    text.right? v = some w ↔ ∃ s, v = .str s ∧ w = .str s := by
  cases v <;> simp [right?, eq_comm]

theorem right?_texts_eq_some_iff (v w : Value) :
    texts.right? v = some w ↔
      ∃ items, v = .list items ∧ w = .list (items.filter Value.isText) := by
  cases v <;> simp [right?, eq_comm]

/-- The shapes below a record: those of its fields, and those below each field. -/
def nested (shape : String -> Shape) (below : String -> List String -> Option Shape) :
    List String -> Option Shape
  | [] => none
  | [key] => some (shape key)
  | key :: step :: rest => below key (step :: rest)

/-- No shapes. -/
def unknown (_place : List String) : Option Shape :=
  none

end Shape

/-- What is found in a value that is of a wrong type, each with its place. -/
abbrev Misfits := List (List String × Value)

/-- The fields of an object are sorted: those of a wrong type into the first entries, what is of the
right type into the others. -/
structure SortsFields (shape : String -> Shape) (es aside kept : Entries) : Prop where
  mem_iff : ∀ key v, (key, v) ∈ aside ↔
    ∃ w, Entries.get? es key = some w ∧ (shape key).wrong? w = some v
  nodup : (Entries.keys aside).Nodup
  values : ∀ key v w, Entries.get? es key = some v -> (shape key).right? v = some w ->
    Entries.get? kept key = some w
  objects : ∀ key ms, (shape key).hasFields = true -> Entries.get? es key = some (.object ms) ->
    ∃ ms', Entries.get? kept key = some (.object ms')

/-- A value is sorted by the shapes of its places: exactly what is of a wrong type is found, each at
its place and once, and what is of the right type stands in the other value where it stood. -/
structure Sorts (shapeAt? : List String -> Option Shape) (v : Value)
    (found : Misfits) (kept : Value) : Prop where
  mem_iff : ∀ place u, (place, u) ∈ found ↔
    ∃ shape w, shapeAt? place = some shape ∧ v.under? place = some w ∧ shape.wrong? w = some u
  nodup : (found.map (·.1)).Nodup
  values : ∀ place shape w u, shapeAt? place = some shape -> v.under? place = some w ->
    shape.right? w = some u -> kept.under? place = some u
  objects : ∀ place shape ms, shapeAt? place = some shape -> shape.hasFields = true ->
    v.under? place = some (.object ms) -> ∃ ms', kept.under? place = some (.object ms')

namespace Misfits

/-- What is found in the fields of a record. -/
def ofFields (es : Entries) : Misfits :=
  es.map fun e => ([e.1], e.2)

/-- What is found in a part of a record. -/
def within (key : String) (found : Misfits) : Misfits :=
  found.map fun f => (key :: f.1, f.2)

theorem mem_ofFields_iff (es : Entries) (place : List String) (v : Value) :
    (place, v) ∈ ofFields es ↔ ∃ key, place = [key] ∧ (key, v) ∈ es := by
  rw [ofFields, List.mem_map]
  constructor
  · rintro ⟨e, mem, same⟩
    cases same
    exact ⟨e.1, rfl, mem⟩
  · rintro ⟨key, rfl, mem⟩
    exact ⟨_, mem, rfl⟩

theorem mem_within_iff (key : String) (found : Misfits) (place : List String) (v : Value) :
    (place, v) ∈ within key found ↔ ∃ rest, place = key :: rest ∧ (rest, v) ∈ found := by
  rw [within, List.mem_map]
  constructor
  · rintro ⟨f, mem, same⟩
    cases same
    exact ⟨f.1, rfl, mem⟩
  · rintro ⟨rest, rfl, mem⟩
    exact ⟨_, mem, rfl⟩

theorem within_append (key : String) (found more : Misfits) :
    within key (found ++ more) = within key found ++ within key more :=
  List.map_append

/-- What is found in a record is found in its fields or in one of its parts. -/
theorem mem_ofFields_append_iff (es : Entries) {names : List String} {found : String -> Misfits}
    (others : ∀ key, key ∉ names -> found key = []) (place : List String) (v : Value) :
    (place, v) ∈ ofFields es ++ names.flatMap (fun key => within key (found key)) ↔
      (∃ key, place = [key] ∧ (key, v) ∈ es) ∨
        ∃ key rest, place = key :: rest ∧ (rest, v) ∈ found key := by
  rw [List.mem_append, mem_ofFields_iff, List.mem_flatMap]
  refine or_congr Iff.rfl ?_
  simp only [mem_within_iff]
  constructor
  · rintro ⟨key, -, rest, rfl, mem⟩
    exact ⟨key, rest, rfl, mem⟩
  · rintro ⟨key, rest, rfl, mem⟩
    refine ⟨key, ?_, rest, rfl, mem⟩
    by_contra other
    rw [others key other] at mem
    cases mem

/-- The places of what is found in the fields and in the parts of a record. -/
theorem places_eq (es : Entries) (names : List String) (found : String -> Misfits) :
    (ofFields es ++ names.flatMap fun key => within key (found key)).map (·.1) =
      (Entries.keys es).map (fun key => [key]) ++
        names.flatMap fun key => ((found key).map (·.1)).map (key :: ·) := by
  simp only [ofFields, within, Entries.keys, List.map_append, List.map_flatMap, List.map_map]
  rfl

end Misfits

namespace Sorts

variable {shapeAt? : List String -> Option Shape} {v kept : Value}
  {found found' : Misfits}

/-- The order of what is found makes no difference. -/
theorem perm (sorts : Sorts shapeAt? v found kept) (perm : found.Perm found') :
    Sorts shapeAt? v found' kept where
  mem_iff place u := by rw [← perm.mem_iff, sorts.mem_iff]
  nodup := (perm.map _).nodup_iff.mp sorts.nodup
  values := sorts.values
  objects := sorts.objects

/-- Where no place has a shape, nothing is found. -/
theorem unknown (v kept : Value) : Sorts Shape.unknown v [] kept where
  mem_iff place u := by simp [Shape.unknown]
  nodup := List.nodup_nil
  values _ _ _ _ shaped := nomatch shaped
  objects _ _ _ shaped := nomatch shaped

/-- In what has no members, nothing is found. -/
theorem of_not_object (plain : ∀ es, v ≠ .object es) (root : shapeAt? [] = none) (kept : Value) :
    Sorts shapeAt? v [] kept := by
  have nowhere {place : List String} {shape : Shape} {w : Value}
      (shaped : shapeAt? place = some shape) (stands : v.under? place = some w) : False := by
    cases place with
    | nil =>
      rw [root] at shaped
      cases shaped
    | cons key rest =>
      rw [Value.under?_of_not_object plain] at stands
      cases stands
  constructor
  case mem_iff =>
    intro place u
    constructor
    · intro mem
      cases mem
    · rintro ⟨shape, w, shaped, stands, -⟩
      exact (nowhere shaped stands).elim
  case nodup => exact List.nodup_nil
  case values =>
    intro place shape w u shaped stands
    exact (nowhere shaped stands).elim
  case objects =>
    intro place shape ms shaped _ stands
    exact (nowhere shaped stands).elim

section

variable {shape : String -> Shape} {below : String -> List String -> Option Shape}
  {es aside kept : Entries} {names : List String} {found : String -> Misfits}
  (fields : SortsFields shape es aside kept) (root : ∀ key, below key [] = none)
  (parts : ∀ key, Sorts (below key) (Entries.get es key) (found key) (Entries.get kept key))

include root parts in
theorem not_mem_root (key : String) (u : Value) : ([], u) ∉ found key := by
  intro mem
  obtain ⟨_, _, shaped, -⟩ := ((parts key).mem_iff [] u).mp mem
  rw [root] at shaped
  cases shaped

include fields root parts

/-- Fields and parts have different places. -/
theorem nodup_places (distinct : names.Nodup) :
    ((Misfits.ofFields aside ++ names.flatMap fun key => Misfits.within key (found key)).map
      (·.1)).Nodup := by
  rw [Misfits.places_eq, List.nodup_append]
  refine ⟨fields.nodup.map fun _ _ same => (List.cons.inj same).1, ?_, ?_⟩
  · rw [List.nodup_flatMap]
    refine ⟨fun key _ => (parts key).nodup.map fun _ _ same => (List.cons.inj same).2, ?_⟩
    apply distinct.imp
    intro a b other place first second
    obtain ⟨_, -, rfl⟩ := List.mem_map.mp first
    obtain ⟨_, -, same⟩ := List.mem_map.mp second
    exact other (List.cons.inj same).1.symm
  · -- the place of a field is a single key, and what is found in a part lies deeper
    rintro place first _ second rfl
    obtain ⟨name, -, rfl⟩ := List.mem_map.mp first
    obtain ⟨key, -, second⟩ := List.mem_flatMap.mp second
    obtain ⟨rest, mem, same⟩ := List.mem_map.mp second
    obtain rfl : rest = [] := (List.cons.inj same).2
    obtain ⟨⟨_, u⟩, mem, rfl⟩ := List.mem_map.mp mem
    exact not_mem_root root parts key u mem

/-- A record is sorted when its fields are and each of its parts is. Parts without a name have
nothing to be found. -/
theorem nested (distinct : names.Nodup) (others : ∀ key, key ∉ names -> found key = []) :
    Sorts (Shape.nested shape below) (.object es)
      (Misfits.ofFields aside ++ names.flatMap fun key => Misfits.within key (found key))
      (.object kept) := by
  constructor
  case mem_iff =>
    intro place u
    rw [Misfits.mem_ofFields_append_iff aside others]
    match place with
    | [] => simp [Shape.nested]
    | [key] =>
      rw [Value.under?_object_key]
      have lower : ¬ ∃ name rest, [key] = name :: rest ∧ (rest, u) ∈ found name := by
        rintro ⟨name, rest, same, mem⟩
        cases same
        exact not_mem_root root parts key u mem
      have upper : (∃ name, [key] = [name] ∧ (name, u) ∈ aside) ↔ (key, u) ∈ aside := by
        simp
      rw [or_iff_left lower, upper, fields.mem_iff]
      simp [Shape.nested]
    | key :: step :: rest =>
      rw [Value.under?_object_below, Shape.nested, ← (parts key).mem_iff]
      simp
  case nodup => exact nodup_places fields root parts distinct
  case values =>
    intro place s w u shaped stands right
    match place with
    | [] => cases shaped
    | [key] =>
      rw [Value.under?_object_key] at stands ⊢
      cases shaped
      exact fields.values key w u stands right
    | key :: step :: rest =>
      rw [Value.under?_object_below] at stands ⊢
      exact (parts key).values _ s w u shaped stands right
  case objects =>
    intro place s ms shaped hasFields stands
    match place with
    | [] => cases shaped
    | [key] =>
      rw [Value.under?_object_key] at stands ⊢
      cases shaped
      exact fields.objects key ms hasFields stands
    | key :: step :: rest =>
      rw [Value.under?_object_below] at stands ⊢
      exact (parts key).objects _ s ms shaped hasFields stands

end

/-- A record without parts is sorted when its fields are. -/
theorem ofFields {shape : String -> Shape} {es aside kept : Entries}
    (fields : SortsFields shape es aside kept) :
    Sorts (Shape.nested shape fun _ => Shape.unknown) (.object es) (.ofFields aside)
      (.object kept) := by
  have sorts := nested fields (fun _ => rfl) (fun _ => unknown _ _) List.nodup_nil fun _ _ => rfl
  rwa [List.flatMap_nil, List.append_nil] at sorts

end Sorts

end ViewDoc
