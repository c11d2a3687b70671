import ViewDoc.Proofs.Canonical.Fallback
import ViewDoc.Proofs.Nesting.Acyclic
import ViewDoc.Proofs.Scope.Lists
import ViewDoc.Proofs.Validation.Coded
/-!
Issues with the nodes for empty lists. Validation looks for the written id among the written ids,
while drawing a list trims it and looks among the trimmed ones. The main statement is that a node
that drawing does not find is always reported, and that nothing else is, just when the id is spelled
as at a node.
-/

set_option autoImplicit false

namespace ViewDoc

/-- A list that is empty is to show a node, and the document has none under its id. -/
def ListPlan.LacksNode (p : ListPlan) (document : CanonicalDocument) : Prop :=
  ∃ id, p.emptyNodeId = some id ∧ document.node? id = none

/-- The report says of a position that no node is found for its empty list. -/
def ValidationReport.MissesNode (r : ValidationReport) (place : List Nat) : Prop :=
  Validation.pointerAt place ++ "/list/emptyNodeId" ∈
    (r.byCode "MIR_LIST_EMPTY_NODE_NOT_FOUND").map (·.path)

/-- A text is spelled as the ids of a tree: it is empty where it is blank, and where it is an id
without the blanks around both, it is one with them too. -/
structure Node.Spells (t : Node) (s : String) : Prop where
  blank : Text.isBlankText s = true -> s = ""
  written : ∀ n ∈ t.walk, Text.trim n.value.id = Text.trim s -> ∃ m ∈ t.walk, m.value.id = s

theorem Document.node?_canonical_eq_none_iff (u : Document) (id : String) :
    u.canonical.document.node? id = none ↔
      ∀ p ∈ u.root.positions, Canonical.idOf p.2 (Canonical.pathAt p.1) ≠ id := by
  have values := Tree.forall_mem_walk_iff u.canonical.document.root fun c => ¬ (c.id == id) = true
  rw [CanonicalDocument.node?, List.find?_eq_none, values]
  show (∀ q ∈ (Canonical.ofNode Canonical.rootPath u.root).positions, _) ↔ _
  rw [Canonical.positions_ofNode, List.forall_mem_map]
  simp [Canonical.fieldsAt]

namespace Validation

theorem mem_authoredIds_iff {t : Node} {s : String} :
    s ∈ authoredIds t ↔ (∃ p ∈ t.positions, p.2.id = s) ∧ Text.isBlankText s = false := by
  have ids : t.walk.map (fun n => n.value.id) = t.positions.map fun p => p.2.id := by
    simpa [Function.comp_def] using congrArg (List.map NodeFields.id) (Tree.map_value_walk_eq t)
  simp [authoredIds, ids]

/-- A node names for its empty list none of the ids. -/
def missesNode (ids : List String) (n : NodeFields) : Bool :=
  n.list.any fun l => emptyNodeMissing ids l.emptyNodeId

/-- Of the issues with a node, the one with its empty list is about its declaration. -/
theorem paths_emptyNode (ids : List String) (path : String) (n : NodeFields) :
    (coded "MIR_LIST_EMPTY_NODE_NOT_FOUND" (contentIssues ids path n)).map (·.path) =
      if missesNode ids n then [path ++ "/list/emptyNodeId"] else [] := by
  have values (path : String) (v : Value) :
      coded "MIR_LIST_EMPTY_NODE_NOT_FOUND" (refIssues path v) = [] := by
    refine coded_eq_nil fun i mem => ?_
    rw [code_of_mem_refIssues mem]
    decide
  have data : coded "MIR_LIST_EMPTY_NODE_NOT_FOUND"
      ((n.data.map (dataIssues (path ++ "/data"))).getD []) = [] := by
    cases n.data with
    | none => rfl
    | some d => simp [dataIssues, coded_append, values, coded_issueIf_of_ne]
  have list : (coded "MIR_LIST_EMPTY_NODE_NOT_FOUND"
      ((n.list.map (listIssues ids (path ++ "/list"))).getD [])).map (·.path) =
      if missesNode ids n then [path ++ "/list/emptyNodeId"] else [] := by
    rw [missesNode]
    cases n.list with
    | none => rfl
    | some l =>
      have place : path ++ "/list" ++ "/emptyNodeId" = path ++ "/list/emptyNodeId" :=
        String.append_assoc
      have own : coded "MIR_LIST_EMPTY_NODE_NOT_FOUND" (listIssues ids (path ++ "/list") l) =
          issueIf (emptyNodeMissing ids l.emptyNodeId) "MIR_LIST_EMPTY_NODE_NOT_FOUND"
            ("list.emptyNodeId '" ++ l.emptyNodeId.display ++ "' does not match any node.")
            (path ++ "/list/emptyNodeId") := by
        simp [listIssues, aliasIssue, coded_append, coded_issueIf_of_ne, coded_issueIf_self, place]
      rw [Option.map_some, Option.getD_some, Option.any_some, own, issueIf]
      split <;> rfl
  simp only [contentIssues, coded_append, data, values, List.append_nil, List.nil_append, list]

/-- The places where an empty list is reported to find no node. -/
theorem Reports.emptyNode_paths {d : Document} {r : ValidationReport} (reports : Reports d r) :
    (r.byCode "MIR_LIST_EMPTY_NODE_NOT_FOUND").map (·.path) =
      (r.document.root.positions.filter fun p =>
        missesNode (authoredIds r.document.root) p.2).map
          fun p => pointerAt p.1 ++ "/list/emptyNodeId" := by
  rw [reports.byCode_eq_flatMap (by decide) (by decide), List.map_flatMap, ← flatMap_if]
  exact List.flatMap_congr fun p _ => paths_emptyNode _ _ _

end Validation

variable {d : Document} {r : ValidationReport} {p : List Nat × NodeFields} {l : ListDecl}
  {s : String}

theorem ListPlan.lacksNode_iff {n : Normalized}
    (named : ∀ q ∈ d.root.positions, Text.isBlankText q.2.id = false)
    (normalized : d.normalize = .ok n) (given : l.emptyNodeId = .str s) {scope : Value}
    {ctx : Context} {plan : ListPlan} (planned : l.plan scope ctx = .ok plan) :
    plan.LacksNode n.document ↔
      Text.isBlankText s = false ∧ ∀ q ∈ d.root.positions, Text.trim q.2.id ≠ Text.trim s := by
  obtain ⟨u, upgraded, rfl⟩ := (Fault.map_eq_ok_iff _ _ _).mp normalized
  obtain ⟨f, keeps, made⟩ := Document.positions_upgrade upgraded
  have found (id : String) : u.canonical.document.node? id = none ↔
      ∀ q ∈ d.root.positions, Text.trim q.2.id ≠ id := by
    rw [u.node?_canonical_eq_none_iff, made, List.forall_mem_map]
    refine forall₂_congr fun q mem => ?_
    have same : (f q.2).id = q.2.id := by rw [keeps]
    rw [Canonical.idOf_of_named (by rw [same]; exact named q mem), same]
  rw [LacksNode, ListDecl.emptyNodeId_plan planned, given]
  constructor
  · rintro ⟨id, word, none⟩
    obtain ⟨t, same, written, rfl⟩ := (Value.word?_eq_some_iff _ _).mp word
    cases same
    exact ⟨written, (found _).mp none⟩
  · rintro ⟨written, none⟩
    exact ⟨Text.trim s, (Value.word?_eq_some_iff _ _).mpr ⟨s, rfl, written, rfl⟩,
      (found _).mpr none⟩

theorem ValidationReport.missesNode_iff (reports : Validation.Reports d r)
    (named : ∀ q ∈ d.root.positions, Text.isBlankText q.2.id = false)
    (mem : p ∈ d.root.positions) (list : p.2.list = some l) (given : l.emptyNodeId = .str s) :
    r.MissesNode p.1 ↔ s ≠ "" ∧ ∀ q ∈ d.root.positions, q.2.id ≠ s := by
  obtain ⟨upgraded, -⟩ := reports.exists_upgrade
  obtain ⟨f, keeps, made⟩ := Document.positions_upgrade upgraded
  have ids : s ∈ Validation.authoredIds r.document.root ↔ ∃ q ∈ d.root.positions, q.2.id = s := by
    rw [Validation.mem_authoredIds_iff, made]
    constructor
    · rintro ⟨⟨q, at_, rfl⟩, -⟩
      obtain ⟨q, authored, rfl⟩ := List.mem_map.mp at_
      exact ⟨q, authored, by rw [keeps]⟩
    · rintro ⟨q, at_, rfl⟩
      exact ⟨⟨_, List.mem_map_of_mem at_, by rw [keeps]⟩, named q at_⟩
  have missing : Validation.emptyNodeMissing (Validation.authoredIds r.document.root)
      l.emptyNodeId = true ↔ s ≠ "" ∧ ∀ q ∈ d.root.positions, q.2.id ≠ s := by
    rw [given, Validation.emptyNodeMissing]
    simp [Value.isTruthy, ids]
  have declares : p.2.list = (f p.2).list := by rw [keeps]
  have here : (p.1, f p.2) ∈ r.document.root.positions := made ▸ List.mem_map_of_mem mem
  rw [MissesNode, reports.emptyNode_paths, ← missing, List.mem_map]
  constructor
  · rintro ⟨q, told, same⟩
    obtain ⟨at_, missed⟩ := List.mem_filter.mp told
    -- what is reported at the position is about the node there
    have place := Validation.pointerAt_injective ((String.append_left_inj _).mp same)
    obtain rfl : q = (p.1, f p.2) :=
      List.inj_on_of_nodup_map (Tree.nodup_positions _) at_ here place
    simpa [Validation.missesNode, ← declares, list] using missed
  · intro missed
    refine ⟨_, List.mem_filter.mpr ⟨here, ?_⟩, rfl⟩
    simpa [Validation.missesNode, ← declares, list] using missed

/-- An id is written just when it is found where it is trimmed, for the texts spelled as the ids. -/
theorem Node.spells_iff {t : Node} (named : ∀ q ∈ t.positions, Text.isBlankText q.2.id = false)
    (s : String) :
    t.Spells s ↔ (s ≠ "" ∧ (∀ q ∈ t.positions, q.2.id ≠ s) ->
      Text.isBlankText s = false ∧ ∀ q ∈ t.positions, Text.trim q.2.id ≠ Text.trim s) := by
  have written : (∃ m ∈ t.walk, m.value.id = s) ↔ ∃ q ∈ t.positions, q.2.id = s := by
    simpa using not_congr (t.forall_mem_walk_iff fun m => m.id ≠ s)
  have every := t.forall_mem_walk_iff fun m =>
    Text.trim m.id = Text.trim s -> ∃ q ∈ t.positions, q.2.id = s
  constructor
  · rintro ⟨blank, spelled⟩ ⟨something, unwritten⟩
    rw [written] at spelled
    refine ⟨Bool.eq_false_iff.mpr (mt blank something), fun q at_ trimmed => ?_⟩
    obtain ⟨m, there, same⟩ := every.mp spelled q at_ trimmed
    exact unwritten m there same
  · intro found
    refine ⟨fun blank => ?_, ?_⟩
    · -- a blank text is the id of no node
      by_contra something
      have visible := (found ⟨something, fun q at_ same => ?_⟩).1
      · exact Bool.false_ne_true (visible.symm.trans blank)
      · exact Bool.false_ne_true ((named q at_).symm.trans (same ▸ blank))
    · rw [written, every]
      intro q at_ trimmed
      by_contra unwritten
      have something : s ≠ "" := by
        rintro rfl
        have blank := (Text.trim_eq_empty_iff q.2.id).mp trimmed
        exact Bool.false_ne_true ((named q at_).symm.trans blank)
      exact (found ⟨something, fun m there same => unwritten ⟨m, there, same⟩⟩).2 q at_ trimmed

/-- Where every node has an id, a list whose node for the case that it is empty is not found is
reported, and no other is, if and only if the id of that node is spelled as the ids are. -/
theorem emptyNode_reported (reports : Validation.Reports d r)
    (named : ∀ n ∈ d.root.walk, Text.isBlankText n.value.id = false) {n : Normalized}
    (normalized : d.normalize = .ok n) (mem : p ∈ d.root.positions) (list : p.2.list = some l)
    (given : l.emptyNodeId = .str s) {scope : Value} {ctx : Context} {plan : ListPlan}
    (planned : l.plan scope ctx = .ok plan) :
    (plan.LacksNode n.document -> r.MissesNode p.1) ∧
      ((r.MissesNode p.1 ↔ plan.LacksNode n.document) ↔ d.root.Spells s) := by
  have named : ∀ q ∈ d.root.positions, Text.isBlankText q.2.id = false :=
    (d.root.forall_mem_walk_iff fun n => Text.isBlankText n.id = false).mp named
  have reported : plan.LacksNode n.document -> r.MissesNode p.1 := by
    rw [ListPlan.lacksNode_iff named normalized given planned,
      ValidationReport.missesNode_iff reports named mem list given]
    rintro ⟨visible, unfound⟩
    refine ⟨fun empty => ?_, fun q at_ same => unfound q at_ (by rw [same])⟩
    rw [empty] at visible
    cases visible
  refine ⟨reported, ?_⟩
  rw [Node.spells_iff named, ← ListPlan.lacksNode_iff named normalized given planned,
    ← ValidationReport.missesNode_iff reports named mem list given]
  exact ⟨fun alike => alike.mp, fun only => ⟨only, reported⟩⟩

/-- A list of people that names a node for when there are none, above a node with an id. -/
def peopleList (emptyNodeId id : String) : Value :=
  .object [("ui", .object [("root", .object [("id", .str "people"), ("type", .str "ul"),
    ("list", .object [("emptyNodeId", .str emptyNodeId)]),
    ("children", .list [.object [("id", .str id), ("type", .str "li")]])])])]

theorem peopleList_reported :
    ∃ d r n p l plan, Document.ofValue (peopleList "nobody" " none ") = .value d ∧
      Validation.ofValue (peopleList "nobody" " none ") = .ok r ∧ d.normalize = .ok n ∧
      p ∈ d.root.positions ∧ p.2.list = some l ∧ l.plan .null {} = .ok plan ∧
      plan.LacksNode n.document ∧ r.MissesNode p.1 ∧ d.root.Spells "nobody" := by
  refine ⟨_, _, _, ([], _), _, _, rfl, rfl, rfl, List.mem_cons_self, rfl, rfl, ?_⟩
  obtain ⟨reported, alike⟩ := emptyNode_reported
    (.value (v := peopleList "nobody" " none ") rfl rfl) (by decide) rfl List.mem_cons_self rfl rfl
    (show ListDecl.plan _ .null {} = .ok _ from rfl)
  refine ⟨?lacks, reported ?lacks, alike.mp ⟨fun _ => ?lacks, reported⟩⟩
  exact ⟨"nobody", rfl, rfl⟩

/-- A node whose id is written with blanks around it is found for an empty list that names it without
them, and is reported to be missing. -/
theorem paddedPeople_reported :
    ∃ d r n p l plan, Document.ofValue (peopleList "none" " none ") = .value d ∧
      Validation.ofValue (peopleList "none" " none ") = .ok r ∧ d.normalize = .ok n ∧
      (∀ n ∈ d.root.walk, Text.isBlankText n.value.id = false) ∧ p ∈ d.root.positions ∧
      p.2.list = some l ∧ l.emptyNodeId = .str "none" ∧ l.plan .null {} = .ok plan ∧
      r.MissesNode p.1 ∧ ¬ plan.LacksNode n.document := by
  refine ⟨_, _, _, ([], _), _, _, rfl, rfl, rfl, by decide, List.mem_cons_self, rfl, rfl, rfl,
    List.mem_cons_self, ?_⟩
  rintro ⟨id, named, unfound⟩
  cases Option.some.inj named
  cases unfound

end ViewDoc
