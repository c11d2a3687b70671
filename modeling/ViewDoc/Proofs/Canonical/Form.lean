import Mathlib.Data.List.Forall2
import ViewDoc.Proofs.Canonical.Place
import ViewDoc.Proofs.Decode.Outcome
import ViewDoc.Proofs.Text.Trimmed
import ViewDoc.Proofs.Tree.Positions
import ViewDoc.Proofs.Value.FirstBy
/-!
What a canonical document is to the tree that it was made from: the same tree, with an id, a type
and a path at every node, and an index that leads from every id to the first node with it.
-/

set_option autoImplicit false

namespace ViewDoc

namespace Canonical

mutual

theorem located_ofNode (place : List Nat) (t : Node) :
    (ofNode (pathAt place) t).located place =
      (t.located place).map fun p => (p.1, fieldsAt (pathAt p.1) p.2) := by
  cases t with
  | node n cs => simp only [ofNode, Tree.located, List.map_cons, locatedAll_ofChildren place 0 cs]
termination_by structural t

theorem locatedAll_ofChildren (place : List Nat) (i : Nat) (ts : List Node) :
    Tree.locatedAll place i (ofChildren (pathAt place) i ts) =
      (Tree.locatedAll place i ts).map fun p => (p.1, fieldsAt (pathAt p.1) p.2) := by
  cases ts with
  | nil => rfl
  | cons t rest =>
    rw [ofChildren, Tree.locatedAll, Tree.locatedAll, List.map_append, ← pathAt_snoc,
      located_ofNode (place ++ [i]) t, locatedAll_ofChildren place (i + 1) rest]
termination_by structural ts

end

mutual

theorem shape_ofNode (path : String) (t : Node) :
    (ofNode path t).map (fun _ => ()) = t.map fun _ => () := by
  cases t with
  | node n cs => rw [ofNode, Tree.map, Tree.map, shape_ofChildren path 0 cs]
termination_by structural t

theorem shape_ofChildren (path : String) (i : Nat) (ts : List Node) :
    Tree.mapAll (fun _ => ()) (ofChildren path i ts) = Tree.mapAll (fun _ => ()) ts := by
  cases ts with
  | nil => rfl
  | cons t rest =>
    rw [ofChildren, Tree.mapAll, Tree.mapAll, shape_ofNode (childPath path i) t,
      shape_ofChildren path (i + 1) rest]
termination_by structural ts

end

theorem positions_ofNode (t : Node) :
    (ofNode rootPath t).positions =
      t.positions.map fun p => (p.1, fieldsAt (pathAt p.1) p.2) := by
  rw [← pathAt_nil]
  exact located_ofNode [] t

theorem trimmed_fallbackId {path : String} (nonempty : path ≠ "") :
    Text.Trimmed (fallbackId path) := by
  refine Text.trimmed_of_forall (by simpa [fallbackId] using nonempty) fun c mem => ?_
  rw [fallbackId, String.toList_ofList] at mem
  obtain ⟨d, -, rfl⟩ := List.mem_map.mp mem
  split
  · rename_i plain
    simp only [Bool.or_eq_true, beq_iff_eq] at plain
    rcases plain with (letter | digit) | rfl
    · exact Text.isBlank_of_isAsciiLetter letter
    · exact Text.isBlank_of_isAsciiDigit digit
    · rfl
  · rfl

theorem trimmed_defaultType : Text.Trimmed defaultType := by
  refine Text.trimmed_of_forall (by decide) fun c mem => ?_
  have letter : c ∈ ['d', 'i', 'v'] := mem
  simp only [List.mem_cons, List.not_mem_nil, or_false] at letter
  rcases letter with rfl | rfl | rfl <;> rfl

theorem pathAt_ne_empty (place : List Nat) : pathAt place ≠ "" := by
  simp [pathAt]

/-- The canonical form of a node: its path, and its id and type without blanks around them. -/
structure FormAt (place : List Nat) (n : NodeFields) (c : CanonicalFields) : Prop where
  path : c.path = pathAt place
  id : c.id = if Text.trim n.id = "" then fallbackId (pathAt place) else Text.trim n.id
  id_trimmed : Text.Trimmed c.id
  type_trimmed : Text.Trimmed c.type

theorem formAt_fieldsAt (place : List Nat) (n : NodeFields) :
    FormAt place n (fieldsAt (pathAt place) n) := by
  refine ⟨rfl, Text.trimmed?_getD _ _, ?_, ?_⟩
  · exact Text.trimmed_getD (trimmed_fallbackId (pathAt_ne_empty place))
  · exact Text.trimmed_getD trimmed_defaultType

end Canonical

namespace CanonicalNode

/-- The index has every id once, in the order in which they come first. -/
theorem ids_firstById (nodes : List CanonicalNode) :
    (firstById nodes).map (·.value.id) = (nodes.map (·.value.id)).eraseDups :=
  map_firstBy (fun n : CanonicalNode => n.value.id) nodes

/-- The index leads to the first node with an id. -/
theorem find?_firstById (nodes : List CanonicalNode) (id : String) :
    (firstById nodes).find? (fun m => m.value.id == id) =
      nodes.find? fun m => m.value.id == id :=
  find?_firstBy (fun n : CanonicalNode => n.value.id) nodes id

end CanonicalNode

namespace CanonicalDocument

/-- A canonical document has the shape and the nodes of a tree, under paths of their own, and an
index of its ids. -/
structure IsFormOf (d : CanonicalDocument) (root : Node) : Prop where
  shape : d.root.map (fun _ => ()) = root.map fun _ => ()
  nodes : List.Forall₂ (fun p q => q.1 = p.1 ∧ Canonical.FormAt p.1 p.2 q.2)
    root.positions d.root.positions
  paths : (d.root.walk.map (·.value.path)).Nodup
  keys : d.index.map (·.value.id) = (d.root.walk.map (·.value.id)).eraseDups
  entries : ∀ id, d.index.find? (fun m => m.value.id == id) = d.node? id
  first : ∀ id m, d.node? id = some m ↔ m.value.id = id ∧
    ∃ before after, d.root.walk = before ++ m :: after ∧ ∀ b ∈ before, b.value.id ≠ id

theorem node?_eq_some_iff (d : CanonicalDocument) (id : String) (m : CanonicalNode) :
    d.node? id = some m ↔ m.value.id = id ∧
      ∃ before after, d.root.walk = before ++ m :: after ∧ ∀ b ∈ before, b.value.id ≠ id := by
  rw [node?, List.find?_eq_some_iff_append]
  simp

end CanonicalDocument

theorem Canonical.paths_ofNode (t : Node) :
    (ofNode rootPath t).walk.map (·.value.path) = t.positions.map fun p => pathAt p.1 := by
  calc
    (ofNode rootPath t).walk.map (·.value.path)
    _ = ((ofNode rootPath t).walk.map Tree.value).map (·.path) := by
      rw [List.map_map]
      rfl
    _ = t.positions.map fun p => pathAt p.1 := by
      rw [Tree.map_value_walk_eq, positions_ofNode, List.map_map, List.map_map]
      rfl

theorem Document.canonical_isFormOf (u : Document) : u.canonical.document.IsFormOf u.root where
  shape := Canonical.shape_ofNode _ u.root
  nodes := by
    show List.Forall₂ _ _ (Canonical.ofNode Canonical.rootPath u.root).positions
    rw [Canonical.positions_ofNode, List.forall₂_map_right_iff, List.forall₂_same]
    exact fun p _ => ⟨rfl, Canonical.formAt_fieldsAt p.1 p.2⟩
  paths := by
    show ((Canonical.ofNode Canonical.rootPath u.root).walk.map (·.value.path)).Nodup
    rw [Canonical.paths_ofNode]
    have apart : ((u.root.positions.map Prod.fst).map Canonical.pathAt).Nodup :=
      List.Pairwise.map _ (fun _ _ => mt Canonical.pathAt_injective) u.root.nodup_positions
    rwa [List.map_map] at apart
  keys := CanonicalNode.ids_firstById _
  entries := CanonicalNode.find?_firstById _
  first := CanonicalDocument.node?_eq_some_iff _

/-- A value is brought into canonical form by reading it as a document and upgrading this. -/
theorem normalize_eq_ok_iff (v : Value) (n : Normalized) :
    normalize v = .ok n ↔
      ∃ d u, Document.ofValue v = .value d ∧ d.upgrade = .ok u ∧ u.canonical = n := by
  simp only [normalize, Document.normalize, Failure.bind_eq_ok_iff, Failure.ofDecoded_eq_ok_iff,
    Failure.ofFault_eq_ok_iff, Fault.map_eq_ok_iff]
  constructor
  · rintro ⟨d, read, u, upgraded, rfl⟩
    exact ⟨d, u, read, upgraded, rfl⟩
  · rintro ⟨d, u, read, upgraded, rfl⟩
    exact ⟨d, read, u, upgraded, rfl⟩

/-- The canonical document of a value is the form of the tree that was read and upgraded. -/
theorem normalize_isFormOf {v : Value} {n : Normalized} (done : normalize v = .ok n) :
    ∃ d u, Document.ofValue v = .value d ∧ d.upgrade = .ok u ∧ n.document.IsFormOf u.root := by
  obtain ⟨d, u, read, upgraded, rfl⟩ := (normalize_eq_ok_iff v n).mp done
  exact ⟨d, u, read, upgraded, u.canonical_isFormOf⟩

/-- A document with ids that are padded, blank and repeated, one of them the id made from a path. -/
def repeatedIds : Value :=
  .object [("ui", .object [("root", .object [("id", .str " main "), ("type", .str "MdrDiv"),
    ("children", .list [.object [("id", .str "\t"), ("type", .str " ")],
      .object [("id", .str "ui_root_children_0_")], .object [("id", .str "main")]])])])]

theorem repeatedIds_isFormOf :
    ∃ n, normalize repeatedIds = .ok n ∧
      n.document.root.walk.map (·.value.id) =
        ["main", "ui_root_children_0_", "ui_root_children_0_", "main"] ∧
      ∃ d u, Document.ofValue repeatedIds = .value d ∧ d.upgrade = .ok u ∧
        n.document.IsFormOf u.root := by
  refine ⟨_, rfl, ?_, normalize_isFormOf rfl⟩
  rfl

end ViewDoc
