import ViewDoc.Node.Declaration
import ViewDoc.Proofs.Canonical.Reports
import ViewDoc.Proofs.Canonical.Source
import ViewDoc.Proofs.Value.Distinct
/-!
Canonical trees that are normalized again. A declaration, and with it a canonical tree, is read back
from its own object as what it describes, without anything set aside, and every repair that made the
tree leaves nothing to repair. The main statement is that normalizing a second time gives the same
tree, and reports nothing but ids that occur again.
-/

set_option autoImplicit false

namespace ViewDoc

namespace Decode

/-- What no field takes is not under the first name of a field. -/
theorem head?_ne_of_mem_extras {es : Entries} {fields : List (List String)} {e : String × Value}
    (mem : e ∈ extras es fields) : ∀ names ∈ fields, names.head? ≠ some e.1 := by
  intro names field first
  obtain ⟨there, free⟩ := List.mem_filter.mp mem
  have taken : e.1 ∈ fields.filterMap fun names => (lookup? es names).map (·.1) := by
    obtain ⟨others, rfl⟩ := List.head?_eq_some_iff.mp first
    have known := (Entries.has_iff_mem_keys es e.1).mpr (List.mem_map_of_mem there)
    obtain ⟨v, found⟩ := Option.isSome_iff_exists.mp known
    exact List.mem_filterMap.mpr ⟨_, field, by simp [lookup?, found]⟩
  simp [taken] at free

/-- Of entries with others after them, no field takes the others. -/
theorem filter_append_eq {fields more : Entries} (apart : ∀ e ∈ more, e.1 ∉ Entries.keys fields) :
    (fields ++ more).filter (fun e => !(Entries.keys fields).contains e.1) = more := by
  have all : fields.filter (fun e => !(Entries.keys fields).contains e.1) = [] := by
    refine List.filter_eq_nil_iff.mpr fun e mem => ?_
    have key : e.1 ∈ Entries.keys fields := List.mem_map_of_mem mem
    simp [key]
  have none : more.filter (fun e => !(Entries.keys fields).contains e.1) = more := by
    refine List.filter_eq_self.mpr fun e mem => ?_
    simpa using apart e mem
  rw [List.filter_append, all, none, List.nil_append]

end Decode

/-- A data declaration has no further entries under the names of its fields. -/
def DataDecl.Apart (d : DataDecl) : Prop :=
  ∀ e ∈ d.extras, e.1 ∉ Entries.keys d.fields

/-- A list declaration has no further entries under the names of its fields. -/
def ListDecl.Apart (d : ListDecl) : Prop :=
  ∀ e ∈ d.extras, e.1 ∉ Entries.keys d.fields

theorem DataDecl.apart_ofEntries (es : Entries) : (ofEntries es).Apart := by
  intro e mem
  have other : ∀ names ∈ [["source"], ["pick"], ["value"], ["mock"], ["extend"]],
      names.head? ≠ some e.1 := Decode.head?_ne_of_mem_extras mem
  simpa [fields, Entries.keys, eq_comm] using other

theorem ListDecl.apart_ofEntries (es : Entries) : (ofEntries es).Apart := by
  intro e mem
  have other : ∀ names ∈ [["source"], ["arrayField", "array_field"], ["itemAs", "item_as"],
      ["indexAs", "index_as"], ["keyBy", "key_by"], ["emptyNodeId", "empty_node_id"]],
      names.head? ≠ some e.1 := Decode.head?_ne_of_mem_extras mem
  simpa [fields, Entries.keys, eq_comm] using other

theorem DataDecl.decode_toValue {d : DataDecl} (apart : d.Apart) :
    decode d.toValue = .value d := by
  obtain ⟨source, pick, value, mock, extend, extras⟩ := d
  exact congrArg (fun es => Decoded.value (DataDecl.mk source pick value mock extend es))
    (Decode.filter_append_eq apart)

theorem ListDecl.decode_toValue {d : ListDecl} (apart : d.Apart) :
    decode d.toValue = .value d := by
  obtain ⟨source, arrayField, itemAs, indexAs, keyBy, emptyNodeId, extras⟩ := d
  exact congrArg (fun es => Decoded.value
    (ListDecl.mk source arrayField itemAs indexAs keyBy emptyNodeId es))
    (Decode.filter_append_eq apart)

theorem Text.isBlankText_of_trimmed {s : String} (trimmed : Trimmed s) : isBlankText s = false := by
  rw [Bool.eq_false_iff, Ne, ← trim_eq_empty_iff, trim_of_trimmed trimmed]
  exact trimmed.nonempty

theorem Text.trimmed?_of_trimmed {s : String} (trimmed : Trimmed s) : trimmed? s = some s := by
  simp [trimmed?, isBlankText_of_trimmed trimmed, trim_of_trimmed trimmed]

theorem Text.trimmed_of_trimmed? {s t : String} (some : trimmed? s = some t) : Trimmed t := by
  rw [trimmed?] at some
  split at some
  · cases some
  · rename_i written
    obtain rfl := Option.some.inj some
    exact trimmed_trim (Bool.eq_false_iff.mpr written)

/-- A binding is normal: its trigger has no blanks around it, and it names no empty action. -/
structure EventBinding.Normal (b : EventBinding) : Prop where
  trigger : Text.Trimmed b.trigger
  action : b.action ≠ some ""

namespace Canonical

theorem trimmed_of_triggerOf? {key trigger : String} {v : Value}
    (made : triggerOf? key v = some trigger) : Text.Trimmed trigger := by
  unfold triggerOf? at made
  split at made
  · exact Text.trimmed_of_trimmed? made
  · obtain ⟨s, -, trimmed⟩ := Option.bind_eq_some_iff.mp made
    exact Text.trimmed_of_trimmed? trimmed

theorem ne_of_actionOf? {v : Value} {action : Option String}
    (made : actionOf? v = some action) : action ≠ some "" := by
  rintro rfl
  unfold actionOf? at made
  split at made
  · cases made
  · split at made
    · cases made
    · rename_i named
      exact named (Option.some.inj (Option.some.inj made))
  · cases made

theorem normal_of_binding? {key : String} {v : Value} {b : EventBinding}
    (made : binding? key v = some b) : b.Normal := by
  cases v with
  | object es =>
    obtain ⟨trigger, named, made⟩ := Option.bind_eq_some_iff.mp made
    obtain ⟨action, acts, made⟩ := Option.bind_eq_some_iff.mp made
    obtain ⟨params, -, made⟩ := Option.bind_eq_some_iff.mp made
    obtain rfl := Option.some.inj made
    exact ⟨trimmed_of_triggerOf? named, ne_of_actionOf? acts⟩
  | _ => cases made

/-- A normal binding is read back from its own object. -/
theorem binding?_toValue {b : EventBinding} (normal : b.Normal) (key : String) :
    binding? key b.toValue = some b := by
  obtain ⟨trigger, action, params⟩ := b
  have triggers : triggerOf? key (.str trigger) = some trigger :=
    Text.trimmed?_of_trimmed normal.trigger
  have acts : actionOf? (.ofText? action) = some action := by
    cases action with
    | none => rfl
    | some s => exact congrArg some (if_neg fun empty => normal.action (congrArg some empty))
  show (triggerOf? key (.str trigger)).bind _ = _
  rw [triggers]
  show (actionOf? (.ofText? action)).bind _ = _
  rw [acts]
  rfl

/-- A canonical node as an author writes it. -/
def authored (c : CanonicalFields) : NodeFields :=
  { id := c.id, type := c.type, text := c.text, style := c.style, props := c.props,
    events := c.events.map fun e => (e.1, e.2.toValue), data := c.data, list := c.list,
    extras := [("path", .str c.path)] }

/-- The declarations of a node keep their fields apart from their further entries. -/
structure Apart (data : Option DataDecl) (list : Option ListDecl) : Prop where
  data : ∀ d ∈ data, d.Apart
  list : ∀ d ∈ list, d.Apart

end Canonical

namespace CanonicalNode

open Canonical (authored Apart)

variable {c : CanonicalFields} {vs : List Value}

theorem setAside_fieldEntries (objects : ∀ v ∈ vs, v.isObject = true) :
    Node.setAside (fieldEntries id c vs) = [] := by
  have all : vs.all Value.isObject = true := List.all_eq_true.mpr objects
  have object (es : Entries) : (Value.object es).isObject = true := rfl
  have data : ((Value.ofOption (c.data.map fun d => d.toValue id)).isNull ||
      (Value.ofOption (c.data.map fun d => d.toValue id)).isObject) = true := by
    cases c.data <;> rfl
  have list : ((Value.ofOption (c.list.map fun d => d.toValue id)).isNull ||
      (Value.ofOption (c.list.map fun d => d.toValue id)).isObject) = true := by
    cases c.list <;> rfl
  simp only [Node.setAside, Node.misplacedChildren, Decode.wrongShape, fieldEntries]
  simp [Entries.get?, all, data, list, object, Value.isText, -Bool.or_eq_true]

theorem settled_fieldEntries (objects : ∀ v ∈ vs, v.isObject = true) :
    Node.settled (fieldEntries id c vs) = fieldEntries id c vs := by
  rw [Node.settled, setAside_fieldEntries objects]
  simp [fieldEntries, Entries.keys, Value.isNull]

theorem field_data (apart : ∀ d ∈ c.data, d.Apart) :
    Decode.field (fieldEntries id c vs) ["data"] (.value none)
      (Decode.optional DataDecl.decode) = .value c.data := by
  refine (Decode.field_eq_value_iff _ _ _ _ _).mpr (.inl ⟨_, rfl, ?_⟩)
  cases declared : c.data with
  | none => rfl
  | some d =>
    have read := DataDecl.decode_toValue (apart d declared)
    show (DataDecl.decode d.toValue).map some = _
    rw [read]
    rfl

theorem field_list (apart : ∀ d ∈ c.list, d.Apart) :
    Decode.field (fieldEntries id c vs) ["list", "list_"] (.value none)
      (Decode.optional ListDecl.decode) = .value c.list := by
  have found : Decode.lookup? (fieldEntries id c vs) ["list", "list_"] =
      some ("list", .ofOption (c.list.map fun d => d.toValue id)) := rfl
  rw [Decode.field, found]
  cases declared : c.list with
  | none => rfl
  | some d =>
    have read := ListDecl.decode_toValue (apart d declared)
    show ((ListDecl.decode d.toValue).map some).under _ = _
    rw [read]
    rfl

theorem decodeFields_fieldEntries (apart : Apart c.data c.list)
    (objects : ∀ v ∈ vs, v.isObject = true) (cs : List Node) :
    Node.decodeFields (fieldEntries id c vs) (fun _ => .value cs) =
      .value (.node (authored c) cs) := by
  rw [Node.decodeFields, settled_fieldEntries objects, setAside_fieldEntries objects]
  simp only [field_data apart.data, field_list apart.list]
  rfl

theorem isObject_toValues (ts : List CanonicalNode) :
    ∀ v ∈ toValues id ts, v.isObject = true := by
  induction ts with
  | nil => exact fun v none => absurd none List.not_mem_nil
  | cons t rest ih =>
    obtain ⟨c, cs⟩ := t
    exact List.forall_mem_cons.mpr ⟨rfl, ih⟩

mutual

/-- A canonical tree is read back from its own object. -/
theorem decode_toValue (t : CanonicalNode)
    (apart : ∀ m ∈ t.walk, Apart m.value.data m.value.list) :
    Node.decode (toValue id t) = .value (t.map authored) := by
  cases t with
  | node c cs =>
    have below := decodeItems_toValues 0 cs fun m mem => apart m (List.mem_cons_of_mem _ mem)
    have children : Node.decodeChildren (fieldEntries id c (toValues id cs)) =
        (Node.decodeItems 0 (toValues id cs)).under (.key "children") := rfl
    have read := decodeFields_fieldEntries (apart _ List.mem_cons_self) (isObject_toValues cs)
      (Tree.mapAll authored cs)
    show Node.decodeFields (fieldEntries id c (toValues id cs))
      (fun _ => Node.decodeChildren (fieldEntries id c (toValues id cs))) = _
    rw [children, below]
    exact read
termination_by structural t

theorem decodeItems_toValues (i : Nat) (ts : List CanonicalNode)
    (apart : ∀ m ∈ Tree.walkAll ts, Apart m.value.data m.value.list) :
    Node.decodeItems i (toValues id ts) = .value (Tree.mapAll authored ts) := by
  cases ts with
  | nil => rfl
  | cons t rest =>
    have object : (toValue id t).isObject = true :=
      isObject_toValues (t :: rest) _ List.mem_cons_self
    have first := decode_toValue t fun m mem => apart m (List.mem_append_left _ mem)
    have later := decodeItems_toValues (i + 1) rest fun m mem =>
      apart m (List.mem_append_right _ mem)
    rw [toValues, Node.decodeItems, if_pos object, first, later]
    rfl
termination_by structural ts

end

end CanonicalNode

namespace Canonical

/-- A canonical node has nothing to repair. -/
structure Repaired (c : CanonicalFields) : Prop where
  id : Text.Trimmed c.id
  type : Text.Trimmed c.type
  events : ∀ e ∈ c.events, e.2.Normal

theorem repaired_fieldsAt (place : List Nat) (n : NodeFields) :
    Repaired (fieldsAt (pathAt place) n) := by
  have form := formAt_fieldsAt place n
  refine ⟨form.id_trimmed, form.type_trimmed, fun e mem => ?_⟩
  obtain ⟨d, -, kept⟩ := List.mem_filterMap.mp mem
  obtain ⟨b, made, rfl⟩ := Option.map_eq_some_iff.mp kept
  exact normal_of_binding? made

theorem bindings_toValue {events : List (String × EventBinding)}
    (normal : ∀ e ∈ events, e.2.Normal) :
    bindings (events.map fun e => (e.1, e.2.toValue)) = events := by
  induction events with
  | nil => rfl
  | cons e rest ih =>
    obtain ⟨own, later⟩ := List.forall_mem_cons.mp normal
    rw [bindings] at ih ⊢
    rw [List.map_cons, List.filterMap_cons, binding?_toValue own, ih later]
    rfl

theorem fieldsAt_authored {c : CanonicalFields} (repaired : Repaired c) :
    fieldsAt c.path (authored c) = c := by
  have id : idOf (authored c) c.path = c.id := by
    rw [idOf, authored, Text.trimmed?_of_trimmed repaired.id, Option.getD_some]
  have type : typeOf (authored c) = c.type := by
    rw [typeOf, authored, Text.trimmed?_of_trimmed repaired.type, Option.getD_some]
  have events : bindings (authored c).events = c.events := bindings_toValue repaired.events
  rw [fieldsAt, id, type, events]
  rfl

theorem reportsOf_authored {c : CanonicalFields} (repaired : Repaired c) (path : String) :
    reportsOf path (authored c) = [] := by
  have id : Text.isBlankText (authored c).id = false := Text.isBlankText_of_trimmed repaired.id
  have type : Text.isBlankText (authored c).type = false :=
    Text.isBlankText_of_trimmed repaired.type
  have aside : (authored c).aside = [] := rfl
  have valid : ∀ e ∈ (authored c).events, (binding? e.1 e.2).isSome = true := by
    intro e mem
    obtain ⟨d, held, rfl⟩ := List.mem_map.mp mem
    rw [binding?_toValue (repaired.events d held)]
    rfl
  have events : (authored c).events.filter (fun e => !(binding? e.1 e.2).isSome) = [] :=
    List.filter_eq_nil_iff.mpr fun e mem => by simp [valid e mem]
  rw [reportsOf, id, type, aside, filterMap_unless, events]
  rfl

mutual

/-- A canonical tree is its own canonical form. -/
theorem ofNode_authored (place : List Nat) (t : Node) :
    ofNode (pathAt place) ((ofNode (pathAt place) t).map authored) = ofNode (pathAt place) t := by
  cases t with
  | node n cs =>
    have own : fieldsAt (pathAt place) (authored (fieldsAt (pathAt place) n)) =
        fieldsAt (pathAt place) n := fieldsAt_authored (repaired_fieldsAt place n)
    rw [ofNode, Tree.map, ofNode, own, ofChildren_authored place 0 cs]
termination_by structural t

theorem ofChildren_authored (place : List Nat) (i : Nat) (ts : List Node) :
    ofChildren (pathAt place) i (Tree.mapAll authored (ofChildren (pathAt place) i ts)) =
      ofChildren (pathAt place) i ts := by
  cases ts with
  | nil => rfl
  | cons t rest =>
    rw [ofChildren, Tree.mapAll, ofChildren, ← pathAt_snoc, ofNode_authored (place ++ [i]) t,
      ofChildren_authored place (i + 1) rest]
termination_by structural ts

end

theorem reports_authored (t : Node) :
    reports rootPath ((ofNode rootPath t).map authored) = [] := by
  rw [← pathAt_nil, reports_eq_flatMap, Tree.located_map, located_ofNode, List.map_map,
    List.flatMap_map, List.flatMap_eq_nil_iff]
  exact fun p _ => reportsOf_authored (repaired_fieldsAt p.1 p.2) _

theorem code_repeats (seen : List String) (nodes : List CanonicalNode) :
    ∀ d ∈ repeats seen nodes, d.code = "CANONICAL_NODE_DUPLICATE_ID" := by
  induction nodes generalizing seen with
  | nil => exact fun d none => absurd none List.not_mem_nil
  | cons n rest ih =>
    rw [repeats]
    split
    · exact List.forall_mem_cons.mpr ⟨rfl, ih seen⟩
    · exact ih (n.value.id :: seen)

end Canonical

theorem Decode.exists_of_field_optional {α : Type} {es : Entries} {names : List String}
    {decode : Value -> Decoded α} {a : α}
    (read : field es names (.value none) (optional decode) = .value (some a)) :
    ∃ v, decode v = .value a := by
  unfold field at read
  split at read
  · rename_i name v found
    rw [Decoded.under_eq_value_iff] at read
    unfold optional at read
    split at read
    · cases read
    · refine ⟨v, ?_⟩
      cases result : decode v with
      | value b =>
        rw [result] at read
        cases read
        rfl
      | _ =>
        rw [result] at read
        cases read
  · cases read

namespace Node

open Canonical (Apart)

/-- What is read as a node has declarations that keep their fields apart. -/
theorem apart_of_decodeFields {es : Entries} {children : Unit -> Decoded (List Node)} {t : Node}
    (read : decodeFields es children = .value t) : Apart t.value.data t.value.list := by
  simp only [decodeFields, Decoded.andThen_eq_value_iff, Decoded.seq_eq_value_iff,
    Decoded.map_eq_value_iff] at read
  obtain ⟨record, -, -, aside, ⟨-, cs, ⟨-, list, ⟨-, data, ⟨-, events, ⟨-, props, ⟨-, style,
    ⟨-, type, ⟨id, -, rfl⟩, -, rfl⟩, -, rfl⟩, -, rfl⟩, -, rfl⟩, declared, rfl⟩, listed, rfl⟩, -,
    rfl⟩, -, rfl⟩ := read
  refine ⟨fun d same => ?_, fun d same => ?_⟩
  · obtain rfl : data = some d := same
    obtain ⟨v, decoded⟩ := Decode.exists_of_field_optional declared
    cases v with
    | object ms =>
      cases decoded
      exact DataDecl.apart_ofEntries ms
    | _ => cases decoded
  · obtain rfl : list = some d := same
    obtain ⟨v, decoded⟩ := Decode.exists_of_field_optional listed
    cases v with
    | object ms =>
      cases decoded
      exact ListDecl.apart_ofEntries ms
    | _ => cases decoded

theorem apart_of_decode {v : Value} {t : Node} (read : decode v = .value t) :
    ∀ p ∈ t.positions, Apart p.2.data p.2.list := by
  refine (t.forall_mem_walk_iff fun n => Apart n.data n.list).mp fun m mem => ?_
  obtain ⟨place, found⟩ := Tree.exists_at?_of_mem_walk mem
  obtain ⟨-, source, -, whole⟩ := exists_standsAt read found
  cases source with
  | object es =>
    rw [decode] at whole
    exact apart_of_decodeFields whole
  | _ => cases whole

end Node

namespace Document

open Canonical (Apart)

theorem apart_of_ofValue {v : Value} {d : Document} (read : ofValue v = .value d) :
    ∀ p ∈ d.root.positions, Apart p.2.data p.2.list := by
  by_cases rooted : hasRoot v = true
  · exact Node.apart_of_decode (decode_rootValue rooted read)
  · rw [ofValue, if_neg rooted] at read
    cases read
    exact List.forall_mem_singleton.mpr ⟨fun d none => absurd none (Option.not_mem_none d),
      fun d none => absurd none (Option.not_mem_none d)⟩

theorem apart_upgrade {d u : Document} (apart : ∀ p ∈ d.root.positions, Apart p.2.data p.2.list)
    (done : d.upgrade = .ok u) : ∀ p ∈ u.root.positions, Apart p.2.data p.2.list := by
  rcases upgrade_cases done with rfl | rfl
  · exact apart
  · rw [Tree.positions, Tree.located_map]
    exact List.forall_mem_map.mpr apart

/-- A document that has nothing but a version and a tree. -/
def ofTree (version : String) (root : Value) : Value :=
  .object [("version", .str version), ("ui", .object [("root", root)])]

theorem ofValue_ofTree {root : Value} {t : Node} (version : String) (object : root.isObject = true)
    (read : Node.decode root = .value t) :
    ofValue (ofTree version root) = .value { version, root := t } := by
  have tree : Decode.required
      (settled [("version", .str version), ("ui", .object [("root", root)])]) ["ui"] decodeTree =
        .value (t, []) := by
    have below : Decode.required [("root", root)] ["root"] Node.decode = .value t := by
      rw [Decode.required, Decode.field_eq_value_iff]
      exact .inl ⟨root, rfl, read⟩
    rw [Decode.required, Decode.field_eq_value_iff]
    refine .inl ⟨.object [("root", root)], rfl, ?_⟩
    rw [decodeTree, below]
    rfl
  have rooted : hasRoot (ofTree version root) = true := object
  rw [ofValue, if_pos rooted, ofTree, decode]
  simp only [tree]
  rfl

end Document

/-- Normalizing the canonical tree of a document, as the tree of a current document, gives the same
canonical tree, and reports nothing but the ids that occur again. -/
theorem normalize_ofTree {v : Value} {n : Normalized} (done : normalize v = .ok n) :
    ∃ m, normalize (Document.ofTree "1.2" (CanonicalNode.toValue id n.document.root)) = .ok m ∧
      m.document.root = n.document.root ∧
      m.diagnostics = Canonical.repeats [] n.document.root.walk ∧
      ∀ d ∈ m.diagnostics, d.code = "CANONICAL_NODE_DUPLICATE_ID" := by
  obtain ⟨d, u, read, upgraded, rfl⟩ := (normalize_eq_ok_iff v n).mp done
  have declared := Document.apart_upgrade (Document.apart_of_ofValue read) upgraded
  have root : u.canonical.document.root = Canonical.ofNode Canonical.rootPath u.root := rfl
  have apart : ∀ m ∈ u.canonical.document.root.walk,
      Canonical.Apart m.value.data m.value.list := by
    refine (Tree.forall_mem_walk_iff _ fun c : CanonicalFields =>
      Canonical.Apart c.data c.list).mpr ?_
    rw [root, Canonical.positions_ofNode]
    exact List.forall_mem_map.mpr declared
  have object : (CanonicalNode.toValue id u.canonical.document.root).isObject = true :=
    CanonicalNode.isObject_toValues [_] _ List.mem_cons_self
  have again := Document.ofValue_ofTree "1.2" object (CanonicalNode.decode_toValue _ apart)
  have same : Canonical.ofNode Canonical.rootPath
      (u.canonical.document.root.map Canonical.authored) = u.canonical.document.root := by
    rw [root, ← Canonical.pathAt_nil]
    exact Canonical.ofNode_authored [] u.root
  have reports : Canonical.reports Canonical.rootPath
      (u.canonical.document.root.map Canonical.authored) = [] := Canonical.reports_authored u.root
  have current : Version.isCurrent "1.2" = .ok true := by decide +kernel
  generalize u.canonical.document.root.map Canonical.authored = t at again same reports
  have done := (normalize_eq_ok_iff _ _).mpr
    ⟨_, _, again, Document.upgrade_of_isCurrent current, rfl⟩
  have diagnostics : (Document.canonical { version := "1.2", root := t }).diagnostics =
      Canonical.repeats [] u.canonical.document.root.walk := by
    rw [Document.canonical]
    simp only [reports, same]
    rfl
  refine ⟨_, done, same, diagnostics, ?_⟩
  rw [diagnostics]
  exact Canonical.code_repeats [] _

/-- A document of an old version that needs repairs of many kinds, with an id that occurs again. -/
def mended : Value :=
  .object [("version", .str "1.0"), ("metadata", .str "none"),
    ("ui", .object [("root", .object [("id", .str " main "), ("style", .int 3),
      ("list", .object [("array_field", .str "items"), ("note", .int 1)]),
      ("events", .object [("click", .object [("target", .str "open")]), ("blur", .str "close")]),
      ("children", .list [.object [("id", .str "main"), ("type", .str "MdrText")], .int 7])])])]

theorem mended_again :
    ∃ n m, normalize mended = .ok n ∧
      n.diagnostics.map (·.code) =
        ["CANONICAL_DOCUMENT_FIELD_INVALID", "CANONICAL_NODE_MISSING_TYPE",
          "CANONICAL_NODE_FIELD_INVALID", "CANONICAL_NODE_FIELD_INVALID", "CANONICAL_EVENT_INVALID",
          "CANONICAL_NODE_DUPLICATE_ID"] ∧
      normalize (Document.ofTree "1.2" (CanonicalNode.toValue id n.document.root)) = .ok m ∧
      m.document.root = n.document.root ∧
      m.diagnostics.map (·.code) = ["CANONICAL_NODE_DUPLICATE_ID"] := by
  have done : ∃ n, normalize mended = .ok n := ⟨_, rfl⟩
  obtain ⟨n, done⟩ := done
  obtain ⟨m, again, same, diagnostics, -⟩ := normalize_ofTree done
  have codes : (normalize mended).toOption.map (fun n => (n.diagnostics.map (·.code),
      (Canonical.repeats [] n.document.root.walk).map (·.code))) =
      some (["CANONICAL_DOCUMENT_FIELD_INVALID", "CANONICAL_NODE_MISSING_TYPE",
        "CANONICAL_NODE_FIELD_INVALID", "CANONICAL_NODE_FIELD_INVALID", "CANONICAL_EVENT_INVALID",
        "CANONICAL_NODE_DUPLICATE_ID"], ["CANONICAL_NODE_DUPLICATE_ID"]) := by
    decide +kernel
  rw [done] at codes
  obtain ⟨first, second⟩ := Prod.mk.inj (Option.some.inj codes)
  rw [← diagnostics] at second
  exact ⟨n, m, done, first, again, same, second⟩

end ViewDoc
