import Mathlib.Data.List.Perm.Subperm
import ViewDoc.Proofs.Validation.Coded
/-!
Issues with objects that carry several reference tags. A value is a tree of parts, each with a pointer
to it, and the search for such objects visits every part once. The main statement is that there is
one issue for each of them in the fields of nodes, at any depth, except in the sources of lists, where
none is looked for.
-/

set_option autoImplicit false

namespace ViewDoc

namespace Value

mutual

/-- The parts of a value as a tree, each with its pointer: below an object what stands under its
keys, below a list its items. -/
def parts (pointer : String) : Value -> Tree (String × Value)
  | .object es => .node (pointer, .object es) (entryParts pointer es)
  | .list items => .node (pointer, .list items) (itemParts pointer 0 items)
  | v => .node (pointer, v) []

/-- The parts of what stands under keys. -/
def entryParts (pointer : String) : List (String × Value) -> List (Tree (String × Value))
  | [] => []
  | (k, v) :: rest => parts (pointer ++ "/" ++ k) v :: entryParts pointer rest

/-- The parts of items that are numbered from `i`. -/
def itemParts (pointer : String) (i : Nat) : List Value -> List (Tree (String × Value))
  | [] => []
  | v :: rest => parts (pointer ++ "/" ++ Text.ofNat i) v :: itemParts pointer (i + 1) rest

end

/-- An object with at least two reference tags among its keys. -/
def Ambiguous (v : Value) : Prop :=
  ∃ es, v = .object es ∧ ∃ s ∈ Ref.tags, ∃ t ∈ Ref.tags,
    s ≠ t ∧ Entries.has es s = true ∧ Entries.has es t = true

end Value

theorem Ref.one_lt_length_tagsIn_iff (v : Value) : 1 < (tagsIn v).length ↔ v.Ambiguous := by
  cases v with
  | object es =>
    have distinct : (tagsIn (.object es)).Nodup := List.Nodup.filter _ (by decide)
    have carried (t : String) :
        t ∈ tagsIn (.object es) ↔ t ∈ tags ∧ Entries.has es t = true := List.mem_filter
    constructor
    · intro several
      have first := (carried _).mp (List.getElem_mem (Nat.zero_lt_of_lt several))
      have second := (carried _).mp (List.getElem_mem several)
      exact ⟨es, rfl, _, first.1, _, second.1,
        fun same => Nat.zero_ne_one (distinct.getElem_inj_iff.mp same), first.2, second.2⟩
    · rintro ⟨_, same, s, tag, t, other, ne, has, hasOther⟩
      cases same
      have first := (carried s).mpr ⟨tag, has⟩
      have second := (carried t).mpr ⟨other, hasOther⟩
      generalize tagsIn (.object es) = found at first second ⊢
      rcases found with _ | ⟨u, _ | ⟨w, rest⟩⟩
      · cases first
      · exact absurd ((List.mem_singleton.mp first).trans (List.mem_singleton.mp second).symm) ne
      · exact Nat.one_lt_succ_succ rest.length
  | _ => simp [tagsIn, Value.Ambiguous]

namespace Validation

/-- An object with several reference tags in a field of a node: the position of the node, the name of
the field, where the object stands in its value, and the pointer to it. -/
structure Occurrence where
  position : List Nat
  field : String
  place : List Nat
  pointer : String
  value : Value

namespace Occurrence

/-- What an occurrence is known by. -/
def site (o : Occurrence) : List Nat × String × List Nat :=
  (o.position, o.field, o.place)

/-- The issue that an occurrence is reported with. -/
def issue (o : Occurrence) : Issue :=
  ambiguous o.pointer (Ref.tagsIn o.value)

/-- There is such an object in a tree, in one of the fields that nodes are looked up for. -/
structure StandsIn (fields : NodeFields -> List (String × Value)) (root : Node) (o : Occurrence) :
    Prop where
  ambiguous : o.value.Ambiguous
  stands : ∃ n v, (o.position, n) ∈ root.positions ∧ (o.field, v) ∈ fields n ∧
    (o.place, o.pointer, o.value) ∈ (v.parts (pointerAt o.position ++ "/" ++ o.field)).positions

end Occurrence

/-- The fields of a node that are searched: the values of its data declaration, and its own. -/
def searchedFields (n : NodeFields) : List (String × Value) :=
  ((n.data.map fun d => [("data/source", d.source), ("data/value", d.value), ("data/mock", d.mock),
    ("data/extend", d.extend)]).getD []) ++
  [("text", n.text), ("props", .object n.props), ("style", .object n.style),
    ("events", .object n.events)]

/-- The field of a node with the source of its list. -/
def listField (n : NodeFields) : List (String × Value) :=
  (n.list.map fun l => [("list/source", l.source)]).getD []

/-- There is one issue for each object with several reference tags in fields of nodes. -/
def OneForEach (fields : NodeFields -> List (String × Value)) (root : Node) (found : List Issue) :
    Prop :=
  ∃ occurrences : List Occurrence, (occurrences.map (·.site)).Nodup ∧
    (∀ o, o ∈ occurrences ↔ o.StandsIn fields root) ∧ found = occurrences.map (·.issue)

/-- The objects with several reference tags in a field of a node at a position. -/
def fieldOccurrences (position : List Nat) (f : String × Value) : List Occurrence :=
  ((f.2.parts (pointerAt position ++ "/" ++ f.1)).positions.filter fun q =>
    decide (1 < (Ref.tagsIn q.2.2).length)).map fun q => ⟨position, f.1, q.1, q.2.1, q.2.2⟩

/-- The objects with several reference tags in fields of nodes, in document order. -/
def occurrences (fields : NodeFields -> List (String × Value)) (root : Node) : List Occurrence :=
  root.positions.flatMap fun p => (fields p.2).flatMap (fieldOccurrences p.1)

/-- The issue with a part of a value, if there is one. -/
def partIssues (ps : List (List Nat × String × Value)) : List Issue :=
  (ps.filter fun q => decide (1 < (Ref.tagsIn q.2.2).length)).map fun q =>
    ambiguous q.2.1 (Ref.tagsIn q.2.2)

theorem partIssues_cons (q : List Nat × String × Value) (ps : List (List Nat × String × Value)) :
    partIssues (q :: ps) = partIssues [q] ++ partIssues ps := by
  simp only [partIssues, ← List.map_append, ← List.filter_append, List.singleton_append]

theorem partIssues_append (ps qs : List (List Nat × String × Value)) :
    partIssues (ps ++ qs) = partIssues ps ++ partIssues qs := by
  simp [partIssues]

mutual

/-- The search for objects with several reference tags visits the parts of a value in order. -/
theorem refIssues_eq_partIssues (path : String) (place : List Nat) (v : Value) :
    refIssues path v = partIssues ((v.parts path).located place) := by
  cases v with
  | object es =>
    rw [refIssues, Value.parts, Tree.located, refIssuesOfEntries_eq_partIssues path place 0 es,
      partIssues_cons]
    congr 1
    by_cases several : 1 < (Ref.tagsIn (.object es)).length <;> simp [partIssues, several]
  | list items =>
    rw [refIssues, Value.parts, Tree.located, refIssuesOfItems_eq_partIssues path place 0 items,
      partIssues_cons]
    rfl
  | _ => rfl
termination_by structural v

theorem refIssuesOfEntries_eq_partIssues (path : String) (place : List Nat) (i : Nat)
    (es : List (String × Value)) :
    refIssuesOfEntries path es =
      partIssues (Tree.locatedAll place i (Value.entryParts path es)) := by
  cases es with
  | nil => rfl
  | cons e rest =>
    obtain ⟨k, v⟩ := e
    rw [refIssuesOfEntries, Value.entryParts, Tree.locatedAll, partIssues_append,
      refIssues_eq_partIssues _ (place ++ [i]) v,
      refIssuesOfEntries_eq_partIssues path place (i + 1) rest]
termination_by structural es

theorem refIssuesOfItems_eq_partIssues (path : String) (place : List Nat) (i : Nat)
    (items : List Value) :
    refIssuesOfItems path i items =
      partIssues (Tree.locatedAll place i (Value.itemParts path i items)) := by
  cases items with
  | nil => rfl
  | cons v rest =>
    rw [refIssuesOfItems, Value.itemParts, Tree.locatedAll, partIssues_append,
      refIssues_eq_partIssues _ (place ++ [i]) v,
      refIssuesOfItems_eq_partIssues path place (i + 1) rest]
termination_by structural items

end

section

variable {fields : NodeFields -> List (String × Value)} {root : Node}

theorem refIssues_eq_fieldOccurrences (position : List Nat) (f : String × Value) :
    refIssues (pointerAt position ++ "/" ++ f.1) f.2 =
      (fieldOccurrences position f).map (·.issue) := by
  rw [refIssues_eq_partIssues _ [], fieldOccurrences, List.map_map]
  rfl

theorem mem_fieldOccurrences_iff {position : List Nat} {f : String × Value} {o : Occurrence} :
    o ∈ fieldOccurrences position f ↔ o.position = position ∧ o.field = f.1 ∧ o.value.Ambiguous ∧
      (o.place, o.pointer, o.value) ∈ (f.2.parts (pointerAt position ++ "/" ++ f.1)).positions := by
  simp only [fieldOccurrences, List.mem_map, List.mem_filter, decide_eq_true_eq,
    Ref.one_lt_length_tagsIn_iff]
  constructor
  · rintro ⟨q, ⟨mem, several⟩, rfl⟩
    exact ⟨rfl, rfl, several, mem⟩
  · rintro ⟨rfl, field, several, mem⟩
    exact ⟨_, ⟨mem, several⟩, by rw [← field]⟩

theorem mem_occurrences_iff {o : Occurrence} :
    o ∈ occurrences fields root ↔ o.StandsIn fields root := by
  simp only [occurrences, List.mem_flatMap, mem_fieldOccurrences_iff]
  constructor
  · rintro ⟨⟨_, n⟩, at_, ⟨_, v⟩, declared, rfl, rfl, several, mem⟩
    exact ⟨several, n, v, at_, declared, mem⟩
  · rintro ⟨several, n, v, at_, declared, mem⟩
    exact ⟨_, at_, _, declared, rfl, rfl, several, mem⟩

/-- What is found for elements of different keys is different where it tells the key. -/
theorem nodup_flatMap_of_key {α β κ : Type} {l : List α} {f : α -> List β} (key : α -> κ)
    (told : β -> κ) (distinct : (l.map key).Nodup) (each : ∀ a ∈ l, (f a).Nodup)
    (tells : ∀ a ∈ l, ∀ b ∈ f a, told b = key a) : (l.flatMap f).Nodup := by
  refine List.nodup_flatMap.mpr ⟨each, ?_⟩
  have apart : l.Pairwise fun a c => key a ≠ key c := List.pairwise_map.mp distinct
  refine apart.imp_of_mem fun {a c} mem mem' ne => ?_
  intro b first second
  exact ne ((tells a mem b first).symm.trans (tells c mem' b second))

/-- No occurrence is found twice. -/
theorem nodup_occurrences (distinct : ∀ n, ((fields n).map (·.1)).Nodup) :
    ((occurrences fields root).map (·.site)).Nodup := by
  have inside (position : List Nat) (f : String × Value) :
      ((fieldOccurrences position f).map (·.site)).Nodup := by
    refine List.Nodup.of_map (·.2.2) ?_
    rw [fieldOccurrences, List.map_map, List.map_map]
    exact (Tree.nodup_positions _).sublist (List.filter_sublist.map _)
  rw [occurrences, List.map_flatMap]
  refine nodup_flatMap_of_key (·.1) (·.1) root.nodup_positions (fun p _ => ?_) fun p _ s found => ?_
  · rw [List.map_flatMap]
    refine nodup_flatMap_of_key (·.1) (·.2.1) (distinct p.2) (fun f _ => inside p.1 f) ?_
    intro f _ s found
    obtain ⟨o, mem, rfl⟩ := List.mem_map.mp found
    exact (mem_fieldOccurrences_iff.mp mem).2.1
  · obtain ⟨o, mem, rfl⟩ := List.mem_map.mp found
    obtain ⟨f, -, mem⟩ := List.mem_flatMap.mp mem
    exact (mem_fieldOccurrences_iff.mp mem).1

/-- There are at least as many issues as there are different objects. -/
theorem OneForEach.length_le {found : List Issue} (one : OneForEach fields root found)
    {os : List Occurrence} (distinct : os.Nodup) (stand : ∀ o ∈ os, o.StandsIn fields root) :
    os.length ≤ found.length := by
  obtain ⟨all, -, every, rfl⟩ := one
  have among : os ⊆ all := fun o mem => (every o).mpr (stand o mem)
  rw [List.length_map]
  exact (List.subperm_of_subset distinct among).length_le

/-- The issues with the occurrences in fields are those of the fields one after the other. -/
theorem issues_occurrences : (occurrences fields root).map (·.issue) =
    root.positions.flatMap fun p => (fields p.2).flatMap fun f =>
      refIssues (pointerAt p.1 ++ "/" ++ f.1) f.2 := by
  simp only [occurrences, List.map_flatMap, refIssues_eq_fieldOccurrences]

end

theorem coded_refIssues (path : String) (v : Value) :
    coded "MIR_VALUE_REF_AMBIGUOUS" (refIssues path v) = refIssues path v :=
  coded_eq_self fun _ mem => code_of_mem_refIssues mem

/-- Of the issues with a node, those with several reference tags are found in the searched fields. -/
theorem coded_ambiguous (ids : List String) (path : String) (n : NodeFields) :
    coded "MIR_VALUE_REF_AMBIGUOUS" (contentIssues ids path n) =
      (searchedFields n).flatMap fun f => refIssues (path ++ "/" ++ f.1) f.2 := by
  have list : coded "MIR_VALUE_REF_AMBIGUOUS"
      ((n.list.map (listIssues ids (path ++ "/list"))).getD []) = [] := by
    cases n.list with
    | none => rfl
    | some l => simp [listIssues, aliasIssue, coded_append, coded_issueIf_of_ne]
  have data : coded "MIR_VALUE_REF_AMBIGUOUS"
      ((n.data.map (dataIssues (path ++ "/data"))).getD []) =
      ((n.data.map fun d => [("data/source", d.source), ("data/value", d.value),
        ("data/mock", d.mock), ("data/extend", d.extend)]).getD []).flatMap fun f =>
          refIssues (path ++ "/" ++ f.1) f.2 := by
    cases n.data with
    | none => rfl
    | some d =>
      simp [dataIssues, coded_append, coded_issueIf_of_ne, coded_refIssues, String.append_assoc]
  simp only [contentIssues, searchedFields, coded_append, coded_refIssues, data, list,
    List.flatMap_append, List.append_nil]
  simp [String.append_assoc]

variable {d : Document} {r : ValidationReport}

theorem Reports.byCode_ambiguous (reports : Reports d r) :
    r.byCode "MIR_VALUE_REF_AMBIGUOUS" =
      (occurrences searchedFields r.document.root).map (·.issue) := by
  rw [reports.byCode_eq_flatMap (by decide) (by decide), issues_occurrences]
  exact List.flatMap_congr fun p _ => coded_ambiguous _ _ _

theorem names_searchedFields (n : NodeFields) :
    (searchedFields n).map (·.1) = ["text", "props", "style", "events"] ∨
      (searchedFields n).map (·.1) = ["data/source", "data/value", "data/mock", "data/extend",
        "text", "props", "style", "events"] := by
  rw [searchedFields]
  cases n.data with
  | none => exact .inl rfl
  | some d => exact .inr rfl

theorem nodup_searchedFields (n : NodeFields) : ((searchedFields n).map (·.1)).Nodup := by
  rcases names_searchedFields n with names | names <;> rw [names] <;> decide

theorem nodup_withList (n : NodeFields) :
    ((searchedFields n ++ listField n).map (·.1)).Nodup := by
  rw [List.map_append, listField]
  rcases names_searchedFields n with names | names <;> rw [names] <;> cases n.list <;>
    simp

theorem ne_of_mem_searchedFields {n : NodeFields} {f : String × Value} (mem : f ∈ searchedFields n) :
    f.1 ≠ "list/source" := by
  have name : f.1 ∈ (searchedFields n).map (·.1) := List.mem_map_of_mem mem
  intro same
  rw [same] at name
  revert name
  rcases names_searchedFields n with names | names <;> rw [names] <;> decide

theorem eq_of_mem_listField {n : NodeFields} {f : String × Value} (mem : f ∈ listField n) :
    f.1 = "list/source" := by
  rw [listField] at mem
  cases declared : n.list with
  | none => simp [declared] at mem
  | some l => simp_all

theorem Occurrence.standsIn_append {fields more : NodeFields -> List (String × Value)} {root : Node}
    {o : Occurrence} : o.StandsIn (fun n => fields n ++ more n) root ↔
      o.StandsIn fields root ∨ o.StandsIn more root := by
  constructor
  · rintro ⟨several, n, v, at_, declared, mem⟩
    rcases List.mem_append.mp declared with declared | declared
    · exact .inl ⟨several, n, v, at_, declared, mem⟩
    · exact .inr ⟨several, n, v, at_, declared, mem⟩
  · rintro (⟨several, n, v, at_, declared, mem⟩ | ⟨several, n, v, at_, declared, mem⟩)
    · exact ⟨several, n, v, at_, List.mem_append_left _ declared, mem⟩
    · exact ⟨several, n, v, at_, List.mem_append_right _ declared, mem⟩

/-- Every report has one issue for each object with several reference tags in the searched fields, and
so one for each in these and in the sources of lists if and only if no source of a list has any. -/
theorem ambiguous_reported (reports : Reports d r) :
    OneForEach searchedFields r.document.root (r.byCode "MIR_VALUE_REF_AMBIGUOUS") ∧
      (OneForEach (fun n => searchedFields n ++ listField n) r.document.root
          (r.byCode "MIR_VALUE_REF_AMBIGUOUS") ↔
        ∀ o : Occurrence, ¬ o.StandsIn listField r.document.root) := by
  have distinct : ((occurrences searchedFields r.document.root).map (·.site)).Nodup :=
    nodup_occurrences nodup_searchedFields
  rw [reports.byCode_ambiguous]
  refine ⟨⟨_, distinct, fun o => mem_occurrences_iff, rfl⟩, ?_, fun unlisted => ?_⟩
  · intro one o stands
    have unfound : o ∉ occurrences searchedFields r.document.root := by
      intro mem
      obtain ⟨-, n, v, -, searched, -⟩ := mem_occurrences_iff.mp mem
      obtain ⟨-, m, w, -, listed, -⟩ := stands
      have name : o.field = "list/source" := eq_of_mem_listField listed
      exact ne_of_mem_searchedFields searched name
    have more := one.length_le (List.nodup_cons.mpr ⟨unfound, distinct.of_map⟩) ?_
    · rw [List.length_cons, List.length_map] at more
      exact Nat.not_succ_le_self _ more
    · refine List.forall_mem_cons.mpr ⟨Occurrence.standsIn_append.mpr (.inr stands), fun q mem => ?_⟩
      exact Occurrence.standsIn_append.mpr (.inl (mem_occurrences_iff.mp mem))
  · refine ⟨_, distinct, fun o => ?_, rfl⟩
    rw [mem_occurrences_iff, Occurrence.standsIn_append, or_iff_left (unlisted o)]

/-- An object with two reference tags. -/
def twoTags : Value :=
  .object [("$param", .str "b"), ("$data", .str "a")]

/-- A node with a declaration, and with an object with two reference tags deep in its props. -/
def ambiguousIn (declaration : String × Value) : Value :=
  .object [("ui", .object [("root", .object [("id", .str "users"), ("type", .str "ul"), declaration,
    ("props", .object [("items", .list [.int 1, .object [("label", twoTags)]])])])])]

theorem dataSource_reported :
    ∃ d r, Document.ofValue (ambiguousIn ("data", .object [("source", twoTags)])) = .value d ∧
      ofValue (ambiguousIn ("data", .object [("source", twoTags)])) = .ok r ∧
      (r.byCode "MIR_VALUE_REF_AMBIGUOUS").map (·.path) =
        ["/ui/root/data/source", "/ui/root/props/items/1/label"] ∧
      OneForEach (fun n => searchedFields n ++ listField n) r.document.root
        (r.byCode "MIR_VALUE_REF_AMBIGUOUS") := by
  refine ⟨_, _, rfl, rfl, rfl, ?_⟩
  refine (ambiguous_reported
    (.value (v := ambiguousIn ("data", .object [("source", twoTags)])) rfl rfl)).2.mpr ?_
  rintro o ⟨-, n, v, at_, listed, -⟩
  obtain rfl : n = _ := congrArg Prod.snd (List.mem_singleton.mp at_)
  cases listed

/-- An object with two reference tags as the source of a list is not reported. -/
theorem listSource_unreported :
    ∃ d r, Document.ofValue (ambiguousIn ("list", .object [("source", twoTags)])) = .value d ∧
      ofValue (ambiguousIn ("list", .object [("source", twoTags)])) = .ok r ∧
      (r.byCode "MIR_VALUE_REF_AMBIGUOUS").map (·.path) = ["/ui/root/props/items/1/label"] ∧
      ¬ OneForEach (fun n => searchedFields n ++ listField n) r.document.root
        (r.byCode "MIR_VALUE_REF_AMBIGUOUS") := by
  refine ⟨_, _, rfl, rfl, rfl, ?_⟩
  intro one
  have few := one.length_le (nodup_occurrences nodup_withList).of_map
    fun o mem => mem_occurrences_iff.mp mem
  exact Nat.not_succ_le_self 1 few

end Validation

end ViewDoc
