import Mathlib.Data.List.Nodup
import ViewDoc.Proofs.Canonical.Form
import ViewDoc.Proofs.Node.Distinct
/-!
What normalization reports. The main statement is that the reports account for every repair of a
document, in document order and at the place of the repair, and for nothing else.
-/

set_option autoImplicit false

namespace ViewDoc

/-- What a report says besides its wording: its code and its path. -/
def Diagnostic.finding (r : Diagnostic) : String × Option String :=
  (r.code, r.path)

namespace Canonical

/-- What is to be reported on a node, given its canonical form. -/
def findings (n : NodeFields) (c : CanonicalFields) : List (String × Option String) :=
  (if Text.trim n.id = "" then [("CANONICAL_NODE_MISSING_ID", some c.path)] else []) ++
  (if Text.trim n.type = "" then [("CANONICAL_NODE_MISSING_TYPE", some c.path)] else []) ++
  n.aside.map (fun e => ("CANONICAL_NODE_FIELD_INVALID", some (c.path ++ "." ++ e.1))) ++
  (n.events.filter fun e => !Entries.has c.events e.1).map fun e =>
    ("CANONICAL_EVENT_INVALID", some (c.path ++ ".events." ++ e.1))

/-- The nodes whose id occurs at an earlier node, in order. -/
def repeated (nodes : List CanonicalNode) : List CanonicalNode :=
  (nodes.zipIdx.filter fun p => (nodes.take p.2).any fun m => m.value.id == p.1.value.id).map (·.1)

theorem keys_bindings (events : Entries) :
    Entries.keys (bindings events) =
      Entries.keys (events.filter fun e => (binding? e.1 e.2).isSome) := by
  induction events with
  | nil => rfl
  | cons e rest ih =>
    simp only [bindings, Entries.keys, List.filterMap_cons, List.filter_cons] at ih ⊢
    cases binding? e.1 e.2 with
    | none => simpa using ih
    | some b => simpa using ih

/-- The kept events are in declared order. -/
theorem keys_bindings_sublist (events : Entries) :
    (Entries.keys (bindings events)).Sublist (Entries.keys events) := by
  rw [keys_bindings]
  exact List.filter_sublist.map _

theorem has_bindings {events : Entries} (distinct : (Entries.keys events).Nodup)
    {e : String × Value} (mem : e ∈ events) :
    Entries.has (bindings events) e.1 = (binding? e.1 e.2).isSome := by
  rw [Bool.eq_iff_iff, Entries.has_iff_mem_keys, keys_bindings, Entries.keys, List.mem_map]
  constructor
  · rintro ⟨d, kept, same⟩
    obtain ⟨declared, valid⟩ := List.mem_filter.mp kept
    obtain rfl := List.inj_on_of_nodup_map distinct declared mem same
    exact valid
  · exact fun valid => ⟨e, List.mem_filter.mpr ⟨mem, valid⟩, rfl⟩

theorem filterMap_unless {α β : Type} (p : α -> Bool) (f : α -> β) (l : List α) :
    (l.filterMap fun a => if p a then none else some (f a)) = (l.filter fun a => !p a).map f := by
  induction l with
  | nil => rfl
  | cons a rest ih => cases kept : p a <;> simp [kept, ih]

theorem finding_reportsOf (path : String) {n : NodeFields}
    (distinct : (Entries.keys n.events).Nodup) :
    (reportsOf path n).map (·.finding) = findings n (fieldsAt path n) := by
  have lost : (n.events.filter fun e => !Entries.has (bindings n.events) e.1) =
      n.events.filter fun e => !(binding? e.1 e.2).isSome :=
    List.filter_congr fun e mem => by rw [has_bindings distinct mem]
  have id := Text.trim_eq_empty_iff n.id
  have type := Text.trim_eq_empty_iff n.type
  simp only [reportsOf, findings, fieldsAt, lost, id, type, filterMap_unless, List.map_append,
    List.map_map, apply_ite (List.map Diagnostic.finding), List.map_cons, List.map_nil]
  rfl

mutual

theorem reports_eq_flatMap (place : List Nat) (t : Node) :
    reports (pathAt place) t = (t.located place).flatMap fun p => reportsOf (pathAt p.1) p.2 := by
  cases t with
  | node n cs =>
    rw [reports, Tree.located, List.flatMap_cons, childReports_eq_flatMap place 0 cs]
termination_by structural t

theorem childReports_eq_flatMap (place : List Nat) (i : Nat) (ts : List Node) :
    childReports (pathAt place) i ts =
      (Tree.locatedAll place i ts).flatMap fun p => reportsOf (pathAt p.1) p.2 := by
  cases ts with
  | nil => rfl
  | cons t rest =>
    rw [childReports, Tree.locatedAll, List.flatMap_append, ← pathAt_snoc,
      reports_eq_flatMap (place ++ [i]) t, childReports_eq_flatMap place (i + 1) rest]
termination_by structural ts

end

theorem finding_repeats (before rest : List CanonicalNode) (seen : List String)
    (same : ∀ id, id ∈ seen ↔ id ∈ before.map (·.value.id)) :
    (repeats seen rest).map (·.finding) =
      ((rest.zipIdx before.length).filter fun p =>
          ((before ++ rest).take p.2).any fun m => m.value.id == p.1.value.id).map
        fun p => ("CANONICAL_NODE_DUPLICATE_ID", some p.1.value.path) := by
  induction rest generalizing before seen with
  | nil => rfl
  | cons n rest ih =>
    have earlier : (((before ++ n :: rest).take before.length).any fun m =>
        m.value.id == n.value.id) = seen.contains n.value.id := by
      rw [List.take_left, Bool.eq_iff_iff, List.contains_iff_mem, same]
      simp
    have later := ih (before ++ [n])
    rw [List.length_append, List.length_singleton, List.append_assoc,
      List.singleton_append] at later
    rw [repeats, List.zipIdx_cons, List.filter_cons, earlier]
    split
    · rename_i old
      have still (id : String) : id ∈ seen ↔ id ∈ (before ++ [n]).map (·.value.id) := by
        rw [List.contains_iff_mem, same] at old
        rw [same, List.map_append, List.mem_append, List.map_singleton, List.mem_singleton]
        exact ⟨.inl, fun either => either.elim (fun kept => kept) fun own => own ▸ old⟩
      rw [List.map_cons, List.map_cons, later seen still]
      rfl
    · refine later (n.value.id :: seen) fun id => ?_
      rw [List.mem_cons, same, List.map_append, List.mem_append, List.map_singleton,
        List.mem_singleton, or_comm]

theorem finding_documentReports (d : Document) :
    (documentReports d).map (·.finding) = d.malformedFields.map fun f =>
      ("CANONICAL_DOCUMENT_FIELD_INVALID", some (".".intercalate f.1)) := by
  rw [documentReports, List.map_map]
  rfl

theorem finding_reports {t : Node} (distinct : t.EventsDistinct) :
    (reports rootPath t).map (·.finding) =
      (List.zipWith (fun p q => findings p.2 q.2) t.positions
        (ofNode rootPath t).positions).flatten := by
  rw [Node.eventsDistinct_iff] at distinct
  calc
    (reports rootPath t).map (·.finding)
    _ = t.positions.flatMap fun p => (reportsOf (pathAt p.1) p.2).map (·.finding) := by
      rw [← pathAt_nil, reports_eq_flatMap, List.map_flatMap]
      rfl
    _ = t.positions.flatMap fun p => findings p.2 (fieldsAt (pathAt p.1) p.2) :=
      List.flatMap_congr fun p mem => finding_reportsOf (pathAt p.1) (distinct p mem)
    _ = (List.zipWith (fun p q => findings p.2 q.2) t.positions
        (ofNode rootPath t).positions).flatten := by
      rw [positions_ofNode, List.zipWith_map_right, List.zipWith_self]
      rfl

end Canonical

/-- The reports account for the repairs of an upgraded document: what was set aside outside its
tree, what had to be mended at its nodes, and the ids that occur again. What is kept of the events
is in declared order. -/
structure Normalized.Accounts (n : Normalized) (u : Document) : Prop where
  reports : n.diagnostics.map (·.finding) =
    (u.malformedFields.map fun f =>
      ("CANONICAL_DOCUMENT_FIELD_INVALID", some (".".intercalate f.1))) ++
    (List.zipWith (fun p q => Canonical.findings p.2 q.2) u.root.positions
      n.document.root.positions).flatten ++
    (Canonical.repeated n.document.root.walk).map fun m =>
      ("CANONICAL_NODE_DUPLICATE_ID", some m.value.path)
  kept : List.Forall₂ (fun p q => q.1 = p.1 ∧
    (Entries.keys q.2.events).Sublist (Entries.keys p.2.events))
    u.root.positions n.document.root.positions

theorem Document.canonical_accounts {u : Document} (distinct : u.root.EventsDistinct) :
    u.canonical.Accounts u where
  reports := by
    have again := Canonical.finding_repeats [] u.canonical.document.root.walk [] (by simp)
    rw [Canonical.repeated, List.map_map, ← Canonical.finding_documentReports]
    show (Canonical.documentReports u ++ Canonical.reports Canonical.rootPath u.root ++
      Canonical.repeats [] u.canonical.document.root.walk).map (·.finding) = _
    rw [List.map_append, List.map_append, Canonical.finding_reports distinct, again]
    rfl
  kept := by
    show List.Forall₂ _ _ (Canonical.ofNode Canonical.rootPath u.root).positions
    rw [Canonical.positions_ofNode, List.forall₂_map_right_iff, List.forall₂_same]
    exact fun p _ => ⟨rfl, Canonical.keys_bindings_sublist p.2.events⟩

/-- Normalization reports every repair of the upgraded document, in order, and nothing else. -/
theorem normalize_accounts {v : Value} {n : Normalized} (distinct : v.hasDistinctKeys = true)
    (done : normalize v = .ok n) :
    ∃ d u, Document.ofValue v = .value d ∧ d.upgrade = .ok u ∧ n.Accounts u := by
  obtain ⟨d, u, read, upgraded, rfl⟩ := (normalize_eq_ok_iff v n).mp done
  have declared := Document.eventsDistinct_ofValue distinct read
  have fresh := Document.eventsDistinct_upgrade declared upgraded
  exact ⟨d, u, read, upgraded, Document.canonical_accounts fresh⟩

/-- A document with defects of every kind, two of them at its child. -/
def defective : Value :=
  .object [("version", .int 1), ("metadata", .object [("name", .bool true)]),
    ("ui", .object [("root", .object [("id", .str "main"), ("style", .int 3),
      ("events", .object [("click", .object [("target", .str "open")]), ("blur", .str "close")]),
      ("children", .list [.object [("id", .str " main ")]])])])]

theorem defective_accounts :
    ∃ n, normalize defective = .ok n ∧
      n.diagnostics.map (·.finding) =
        [("CANONICAL_DOCUMENT_FIELD_INVALID", some "version"),
          ("CANONICAL_DOCUMENT_FIELD_INVALID", some "metadata.name"),
          ("CANONICAL_NODE_MISSING_TYPE", some "ui.root"),
          ("CANONICAL_NODE_FIELD_INVALID", some "ui.root.style"),
          ("CANONICAL_EVENT_INVALID", some "ui.root.events.blur"),
          ("CANONICAL_NODE_MISSING_TYPE", some "ui.root.children[0]"),
          ("CANONICAL_NODE_DUPLICATE_ID", some "ui.root.children[0]")] ∧
      ∃ d u, Document.ofValue defective = .value d ∧ d.upgrade = .ok u ∧ n.Accounts u := by
  refine ⟨_, rfl, ?_, normalize_accounts rfl rfl⟩
  rfl

end ViewDoc
