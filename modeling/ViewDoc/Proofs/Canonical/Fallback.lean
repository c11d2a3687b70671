import ViewDoc.Proofs.Validation.Agreement
/-!
The ids that normalization makes for nodes without one. What replaces the punctuation of a path
takes nothing away that is needed to read the positions back, so no two of these ids are the same.
The main statement is that every report on an id that occurs again is about an id that an author
wrote.
-/

set_option autoImplicit false

namespace ViewDoc

theorem Tree.positions_map {α β : Type} (f : α -> β) (t : Tree α) :
    (t.map f).positions = t.positions.map fun p => (p.1, f p.2) :=
  Tree.located_map f [] t

namespace Canonical

theorem fallbackId_append (s t : String) : fallbackId (s ++ t) = fallbackId s ++ fallbackId t := by
  apply String.toList_injective
  simp [fallbackId]

/-- The digits of a number stay as they are. -/
theorem fallbackId_ofNat (n : Nat) : fallbackId (Text.ofNat n) = Text.ofNat n := by
  apply String.toList_injective
  rw [fallbackId, String.toList_ofList]
  conv_rhs => rw [← List.map_id (Text.ofNat n).toList]
  apply List.map_congr_left
  intro c mem
  have digit : Text.isAsciiDigit c = true := Text.isDigit_of_mem_ofNat mem
  simp [digit]

/-- An id made from a path has the number of each child between low lines. -/
theorem fallbackId_pathAt (place : List Nat) :
    fallbackId (pathAt place) = "ui_root" ++
      String.join (place.map fun i => "_children_" ++ Text.ofNat i ++ String.singleton '_') := by
  induction place using List.reverseRecOn with
  | nil => rfl
  | append_singleton place i ih =>
    have front : fallbackId ".children[" = "_children_" := rfl
    have back : fallbackId "]" = String.singleton '_' := rfl
    rw [pathAt_snoc, childPath, fallbackId_append, fallbackId_append, fallbackId_append,
      fallbackId_ofNat, front, back, ih]
    simp [String.join_append, String.append_assoc]

theorem fallbackId_pathAt_injective {place other : List Nat}
    (same : fallbackId (pathAt place) = fallbackId (pathAt other)) : place = other := by
  rw [fallbackId_pathAt, fallbackId_pathAt] at same
  have spelled := congrArg String.toList same
  rw [String.toList_append, String.toList_append] at spelled
  have steps := String.toList_injective (List.append_cancel_left spelled)
  exact Text.join_framed_injective "_children_" rfl steps

theorem idOf_of_isBlankText {n : NodeFields} (blank : Text.isBlankText n.id = true)
    (path : String) : idOf n path = fallbackId path := by
  simp [idOf, Text.trimmed?, blank]

theorem idOf_of_named {n : NodeFields} (named : Text.isBlankText n.id = false)
    (path : String) : idOf n path = Text.trim n.id := by
  simp [idOf, Text.trimmed?, named]

/-- A report on an id that occurs again is about a node that has the id of one before it. -/
theorem exists_of_mem_repeats {seen : List String} {nodes : List CanonicalNode} {r : Diagnostic}
    (mem : r ∈ repeats seen nodes) :
    ∃ before m after, nodes = before ++ m :: after ∧ r.path = some m.value.path ∧
      (m.value.id ∈ seen ∨ ∃ k ∈ before, k.value.id = m.value.id) := by
  induction nodes generalizing seen with
  | nil => cases mem
  | cons n rest ih =>
    -- what is known of the rest, whatever has been seen before it
    have later {known : List String} (among : r ∈ repeats known rest)
        (kept : known ⊆ n.value.id :: seen) :
        ∃ before m after, n :: rest = before ++ m :: after ∧ r.path = some m.value.path ∧
          (m.value.id ∈ seen ∨ ∃ k ∈ before, k.value.id = m.value.id) := by
      obtain ⟨before, m, after, whole, path, old⟩ := ih among
      refine ⟨n :: before, m, after, by rw [whole, List.cons_append], path, ?_⟩
      rcases old with old | ⟨k, mem, same⟩
      · rcases List.mem_cons.mp (kept old) with same | old
        · exact .inr ⟨n, List.mem_cons_self, same.symm⟩
        · exact .inl old
      · exact .inr ⟨k, List.mem_cons_of_mem _ mem, same⟩
    rw [repeats] at mem
    split at mem
    · rename_i old
      rcases List.mem_cons.mp mem with rfl | among
      · exact ⟨[], n, rest, rfl, rfl, .inl (List.contains_iff_mem.mp old)⟩
      · exact later among (List.subset_cons_self _ _)
    · exact later mem (List.Subset.refl _)

end Canonical

namespace Normalized

/-- The nodes of a canonical document in document order, each with the node that the author wrote at
its position. -/
def authored (n : Normalized) (d : Document) : List (NodeFields × CanonicalFields) :=
  List.zipWith (fun p q => (p.2, q.2)) d.root.positions n.document.root.positions

/-- The author gave a node no id. -/
def Unnamed (p : NodeFields × CanonicalFields) : Prop :=
  Text.isBlankText p.1.id = true

/-- The ids made for nodes without one differ, and an id that is reported to occur again has been
written at one of two nodes that have it. -/
structure KeepsApart (n : Normalized) (d : Document) : Prop where
  written : (n.authored d).map (·.1) = d.root.positions.map (·.2)
  canonical : (n.authored d).map (·.2) = n.document.root.walk.map (·.value)
  made_ne : (n.authored d).Pairwise fun p q => Unnamed p -> Unnamed q -> p.2.id ≠ q.2.id
  reported : ∀ r ∈ Diagnostic.withCode "CANONICAL_NODE_DUPLICATE_ID" n.diagnostics,
    ∃ before p between q after, n.authored d = before ++ p :: between ++ q :: after ∧
      p.2.id = q.2.id ∧ r.path = some q.2.path ∧ ¬ (Unnamed p ∧ Unnamed q)
  silent : (∀ p ∈ d.root.positions, Text.isBlankText p.2.id = true) ->
    Diagnostic.withCode "CANONICAL_NODE_DUPLICATE_ID" n.diagnostics = []

variable {d : Document}

theorem authored_canonical {u : Document} {f : NodeFields -> NodeFields}
    (made : u.root.positions = d.root.positions.map fun p => (p.1, f p.2)) :
    u.canonical.authored d =
      d.root.positions.map fun p => (p.2, Canonical.fieldsAt (Canonical.pathAt p.1) (f p.2)) := by
  show List.zipWith _ d.root.positions (Canonical.ofNode Canonical.rootPath u.root).positions = _
  rw [Canonical.positions_ofNode, made, List.map_map, List.zipWith_map_right, List.zipWith_self]
  rfl

/-- Two nodes without an id stand at two positions, and these can be read back from their ids. -/
theorem pairwise_ids_ne {f : NodeFields -> NodeFields} (keeps : ∀ m, (f m).id = m.id) :
    (d.root.positions.map fun p =>
      (p.2, Canonical.fieldsAt (Canonical.pathAt p.1) (f p.2))).Pairwise
        fun p q => Unnamed p -> Unnamed q -> p.2.id ≠ q.2.id := by
  have apart : d.root.positions.Pairwise fun p q => p.1 ≠ q.1 :=
    List.pairwise_map.mp d.root.nodup_positions
  have made (p : List Nat × NodeFields) (blank : Text.isBlankText p.2.id = true) :
      Canonical.idOf (f p.2) (Canonical.pathAt p.1) =
        Canonical.fallbackId (Canonical.pathAt p.1) := by
    apply Canonical.idOf_of_isBlankText
    rwa [keeps]
  rw [List.pairwise_map]
  refine apart.imp fun {p q} ne first second same => ne ?_
  have ids : Canonical.idOf (f p.2) (Canonical.pathAt p.1) =
      Canonical.idOf (f q.2) (Canonical.pathAt q.1) := same
  rw [made p first, made q second] at ids
  exact Canonical.fallbackId_pathAt_injective ids

/-- A reported node comes after one with the same id. -/
theorem exists_of_mem_withCode {u : Document} {pairs : List (NodeFields × CanonicalFields)}
    (canonical : pairs.map (·.2) = u.canonical.document.root.walk.map (·.value)) {r : Diagnostic}
    (told : r ∈ Diagnostic.withCode "CANONICAL_NODE_DUPLICATE_ID" u.canonical.diagnostics) :
    ∃ before p between q after, pairs = before ++ p :: between ++ q :: after ∧
      p.2.id = q.2.id ∧ r.path = some q.2.path := by
  have path : r.path ∈ (Canonical.repeats [] u.canonical.document.root.walk).map (·.path) := by
    have places := Diagnostic.path_withCode u.canonical.diagnostics "CANONICAL_NODE_DUPLICATE_ID"
    rw [Validation.placesOf_repeats] at places
    exact places ▸ List.mem_map_of_mem told
  obtain ⟨s, repeated, same⟩ := List.mem_map.mp path
  obtain ⟨before, m, after, whole, at_, old⟩ := Canonical.exists_of_mem_repeats repeated
  obtain old | ⟨k, mem, ids⟩ := old
  · cases old
  obtain ⟨front, between, rfl⟩ := List.append_of_mem mem
  rw [whole, List.map_append, List.map_append, List.map_cons, List.map_cons] at canonical
  obtain ⟨first, last, rfl, firsts, lasts⟩ := List.map_eq_append_iff.mp canonical
  obtain ⟨start, rest, rfl, starts, rests⟩ := List.map_eq_append_iff.mp firsts
  obtain ⟨p, inner, rfl, own, -⟩ := List.map_eq_cons_iff.mp rests
  obtain ⟨q, others, rfl, other, -⟩ := List.map_eq_cons_iff.mp lasts
  refine ⟨start, p, inner, q, others, rfl, ?_, ?_⟩
  · rw [own, other, ids]
  · rw [← same, at_, other]

end Normalized

/-- What is upgraded differs from what its author wrote in the events of nodes alone. -/
theorem Document.positions_upgrade {d u : Document} (done : d.upgrade = .ok u) :
    ∃ f : NodeFields -> NodeFields, (∀ m, f m = { m with events := (f m).events }) ∧
      u.root.positions = d.root.positions.map fun p => (p.1, f p.2) := by
  rcases upgrade_cases done with rfl | rfl
  · exact ⟨id, fun _ => rfl, (List.map_id _).symm⟩
  · exact ⟨upgradeFields, fun _ => rfl, Tree.positions_map upgradeFields d.root⟩

/-- What is upgraded has the ids that its author wrote. -/
theorem Document.exists_positions_upgrade {d u : Document} (done : d.upgrade = .ok u) :
    ∃ f : NodeFields -> NodeFields, (∀ m, (f m).id = m.id) ∧
      u.root.positions = d.root.positions.map fun p => (p.1, f p.2) := by
  obtain ⟨f, keeps, made⟩ := positions_upgrade done
  exact ⟨f, fun m => by rw [keeps], made⟩

/-- Normalization makes no id twice, and reports an id that occurs again only where an author wrote
it at one of two nodes. -/
theorem Document.normalize_keepsApart {d : Document} {n : Normalized}
    (done : d.normalize = .ok n) : n.KeepsApart d := by
  obtain ⟨u, upgraded, rfl⟩ := (Fault.map_eq_ok_iff _ _ _).mp done
  obtain ⟨f, keeps, made⟩ := exists_positions_upgrade upgraded
  have pairs := Normalized.authored_canonical made
  have written : (u.canonical.authored d).map (·.1) = d.root.positions.map (·.2) := by
    rw [pairs, List.map_map]
    rfl
  have canonical : (u.canonical.authored d).map (·.2) =
      u.canonical.document.root.walk.map (·.value) := by
    show _ = (Canonical.ofNode Canonical.rootPath u.root).walk.map Tree.value
    rw [pairs, Tree.map_value_walk_eq, Canonical.positions_ofNode, made, List.map_map,
      List.map_map, List.map_map]
    rfl
  have apart : (u.canonical.authored d).Pairwise
      fun p q => Normalized.Unnamed p -> Normalized.Unnamed q -> p.2.id ≠ q.2.id := by
    rw [pairs]
    exact Normalized.pairwise_ids_ne keeps
  have reported : ∀ r ∈ Diagnostic.withCode "CANONICAL_NODE_DUPLICATE_ID" u.canonical.diagnostics,
      ∃ before p between q after, u.canonical.authored d = before ++ p :: between ++ q :: after ∧
        p.2.id = q.2.id ∧ r.path = some q.2.path ∧
          ¬ (Normalized.Unnamed p ∧ Normalized.Unnamed q) := by
    intro r told
    obtain ⟨before, p, between, q, after, whole, same, path⟩ :=
      Normalized.exists_of_mem_withCode canonical told
    refine ⟨before, p, between, q, after, whole, same, path, fun both => ?_⟩
    rw [whole] at apart
    have earlier : p ∈ before ++ p :: between := by simp
    exact (List.pairwise_append.mp apart).2.2 p earlier q List.mem_cons_self both.1 both.2 same
  refine ⟨written, canonical, apart, reported, fun blank => ?_⟩
  apply List.eq_nil_iff_forall_not_mem.mpr
  intro r told
  obtain ⟨before, p, between, q, after, whole, -, -, named⟩ := reported r told
  have unnamed (o : NodeFields × CanonicalFields) (mem : o ∈ u.canonical.authored d) :
      Normalized.Unnamed o := by
    obtain ⟨place, at_, own⟩ := List.mem_map.mp (written ▸ List.mem_map_of_mem mem)
    rw [Normalized.Unnamed, ← own]
    exact blank place at_
  exact named ⟨unnamed p (by simp [whole]), unnamed q (by simp [whole])⟩

/-- A tree with four nodes without an id, and a fifth with the id that is made for one of them. -/
def unnamedNodes : Value :=
  .object [("ui", .object [("root", .object [("children", .list [
    .object [("children", .list [.object [("id", .str " ")]])], .object [("id", .str "")],
    .object [("id", .str "ui_root_children_0__children_0_")]])])])]

theorem unnamedNodes_keepsApart :
    ∃ d n, Document.ofValue unnamedNodes = .value d ∧ d.normalize = .ok n ∧
      n.document.root.walk.map (·.value.id) =
        ["ui_root", "ui_root_children_0_", "ui_root_children_0__children_0_",
          "ui_root_children_1_", "ui_root_children_0__children_0_"] ∧
      (Diagnostic.withCode "CANONICAL_NODE_DUPLICATE_ID" n.diagnostics).map (·.path) =
        [some "ui.root.children[2]"] ∧ n.KeepsApart d :=
  ⟨_, _, rfl, rfl, rfl, rfl, Document.normalize_keepsApart rfl⟩

end ViewDoc
