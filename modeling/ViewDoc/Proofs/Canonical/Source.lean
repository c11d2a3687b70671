import ViewDoc.Proofs.Canonical.Form
import ViewDoc.Proofs.Node.Origin
import ViewDoc.Proofs.Node.Readable
/-!
The paths of canonical nodes as places in the document that was normalized. The main statement is
that a path leads to the value of its node just when no item that is no object stands among the
children before it, at any step on the way.
-/

set_option autoImplicit false

namespace ViewDoc

namespace Canonical

/-- A canonical node is the form of what is read from a value, with all its descendants. -/
def BuiltFrom (source : Value) (t : CanonicalNode) : Prop :=
  ∃ s, Node.decode source = .value s ∧ ofNode t.value.path s = t

theorem getElem?_ofChildren (path : String) (i k : Nat) (cs : List Node) :
    (ofChildren path i cs)[k]? = cs[k]?.map (ofNode (childPath path (i + k))) := by
  induction cs generalizing i k with
  | nil => rfl
  | cons c rest ih =>
    rw [ofChildren]
    cases k with
    | zero => rfl
    | succ k =>
      have number : i + 1 + k = i + (k + 1) := by omega
      rw [List.getElem?_cons_succ, List.getElem?_cons_succ, ih, number]

theorem at?_ofNode (start place : List Nat) (t : Node) :
    (ofNode (pathAt start) t).at? place =
      (t.at? place).map (ofNode (pathAt (start ++ place))) := by
  induction place generalizing start t with
  | nil => simp [Tree.at?]
  | cons i place ih =>
    obtain ⟨n, cs⟩ := t
    have children : (ofNode (pathAt start) (.node n cs)).children =
        ofChildren (pathAt start) 0 cs := by
      rw [ofNode, Tree.children]
    rw [Tree.at?, Tree.at?, children, getElem?_ofChildren, Nat.zero_add, ← pathAt_snoc]
    cases taken : cs[i]? with
    | none => simp [Tree.children, taken]
    | some c =>
      have deeper := ih (start ++ [i]) c
      rw [List.append_assoc, List.singleton_append] at deeper
      simpa [Tree.children, taken] using deeper

theorem path_ofNode (path : String) (t : Node) : (ofNode path t).value.path = path := by
  cases t
  rw [ofNode]
  rfl

end Canonical

namespace Document

/-- The value at the root of the tree in a document. -/
def rootValue : Value -> Value
  | .object es =>
    match Entries.get es "ui" with
    | .object ui => Entries.get ui "root"
    | _ => .null
  | _ => .null

theorem exists_ui_of_hasRoot {v : Value} (rooted : hasRoot v = true) :
    ∃ es ui, v = .object es ∧ Entries.get? es "ui" = some (.object ui) ∧
      Entries.get? ui "root" = some (rootValue v) := by
  cases v with
  | object es =>
    rw [hasRoot] at rooted
    cases found : Entries.get? es "ui" with
    | none => simp [Entries.get, found] at rooted
    | some w =>
      cases w with
      | object ui =>
        have tree : (Entries.get ui "root").isObject = true := by
          simpa [Entries.get, found] using rooted
        cases top : Entries.get? ui "root" with
        | none => simp [Entries.get, top, Value.isObject] at tree
        | some r =>
          refine ⟨es, ui, rfl, found, ?_⟩
          simp [rootValue, Entries.get, found, top]
      | _ => simp [Entries.get, found] at rooted
  | _ => cases rooted

theorem get?_ui_settled (es : Entries) : Entries.get? (settled es) "ui" = Entries.get? es "ui" := by
  refine Entries.get?_filter_of_forall es fun v => ?_
  have other : "ui" ∉ Entries.keys (setAside es) := by
    intro mem
    simp [setAside, Entries.keys_append, Decode.mem_keys_wrongShape_iff] at mem
  simpa using other

/-- The tree of a document is read from the value at its root. -/
theorem decode_rootValue {v : Value} {d : Document} (rooted : hasRoot v = true)
    (read : ofValue v = .value d) : Node.decode (rootValue v) = .value d.root := by
  obtain ⟨es, ui, rfl, found, top⟩ := exists_ui_of_hasRoot rooted
  rw [ofValue, if_pos rooted] at read
  simp only [decode, Decoded.andThen_eq_value_iff, Decoded.seq_eq_value_iff,
    Decoded.map_eq_value_iff] at read
  obtain ⟨record, -, -, aside, ⟨-, logic, ⟨-, part, ⟨-, metadata, ⟨version, -, rfl⟩, -, rfl⟩, tree,
    rfl⟩, -, rfl⟩, -, rfl⟩ := read
  rw [Decode.required, Decode.field_eq_value_iff, get?_ui_settled, found] at tree
  obtain ⟨w, same, tree⟩ | ⟨absent, -⟩ := tree
  · cases same
    rw [decodeTree, Decoded.map_eq_value_iff] at tree
    obtain ⟨root, tree, rfl⟩ := tree
    rw [Decode.required, Decode.field_eq_value_iff, top] at tree
    obtain ⟨r, same, tree⟩ | ⟨absent, -⟩ := tree
    · cases same
      exact tree
    · cases absent
  · cases absent

theorem read_rootValue {v : Value} (rooted : hasRoot v = true) {rest : List Path.Step} :
    Path.readSteps v (.key "ui" :: .key "root" :: rest) = Path.readSteps (rootValue v) rest := by
  obtain ⟨es, ui, rfl, found, top⟩ := exists_ui_of_hasRoot rooted
  have first : (Path.Step.key "ui").read (.object es) = .ok (.object ui) := by
    simp [Path.Step.read, Path.Step.name, Entries.get, found]
  have second : (Path.Step.key "root").read (.object ui) = .ok (rootValue (.object es)) := by
    simp [Path.Step.read, Path.Step.name, Entries.get, top]
  rw [Path.readSteps, first]
  show Path.readSteps (.object ui) (.key "root" :: rest) = _
  rw [Path.readSteps, second]
  rfl

end Document

/-- A node that is read from what stands in a document is found there under the path of the position
where it stands. -/
theorem Node.StandsAt.read {v source : Value} {place written : List Nat}
    (rooted : Document.hasRoot v = true) (legible : Canonical.Legible written)
    (stands : StandsAt (Document.rootValue v) place written source) :
    Path.read v (Canonical.pathAt written) = .ok source := by
  rw [Path.read, Canonical.parse_pathAt legible]
  show Path.readSteps v (.key "ui" :: .key "root" :: Canonical.childSteps written) = _
  rw [Document.read_rootValue rooted]
  exact stands.readSteps

theorem Document.upgrade_of_isCurrent {d : Document}
    (current : Version.isCurrent d.version = .ok true) : d.upgrade = .ok d := by
  rw [upgrade, current]
  rfl

/-- Every canonical node of a current document is built from a value that stands in the document,
and its path is the path of that place just when no item is passed over on the way. -/
theorem exists_source_of_mem_walk {v : Value} {d : Document} {n : Normalized}
    (rooted : Document.hasRoot v = true) (read : Document.ofValue v = .value d)
    (current : Version.isCurrent d.version = .ok true) (done : normalize v = .ok n)
    {t : CanonicalNode} (mem : t ∈ n.document.root.walk) :
    ∃ place written source, t.value.path = Canonical.pathAt place ∧
      Node.StandsAt (Document.rootValue v) place written source ∧
      Canonical.BuiltFrom source t ∧
      (Canonical.Legible written -> Path.read v (Canonical.pathAt written) = .ok source) ∧
      (t.value.path = Canonical.pathAt written ↔ Node.Gapless (Document.rootValue v) place) := by
  obtain ⟨_, u, again, upgraded, rfl⟩ := (normalize_eq_ok_iff v n).mp done
  cases read.symm.trans again
  cases (Document.upgrade_of_isCurrent current).symm.trans upgraded
  obtain ⟨place, found⟩ := Tree.exists_at?_of_mem_walk mem
  have form : (Canonical.ofNode (Canonical.pathAt []) d.root).at? place = some t := by
    rw [Canonical.pathAt_nil]
    exact found
  rw [Canonical.at?_ofNode, List.nil_append, Option.map_eq_some_iff] at form
  obtain ⟨s, own, rfl⟩ := form
  obtain ⟨written, source, stands, whole⟩ :=
    Node.exists_standsAt (Document.decode_rootValue rooted read) own
  have path := Canonical.path_ofNode (Canonical.pathAt place) s
  refine ⟨place, written, source, path, stands, ⟨s, whole, by rw [path]⟩, stands.read rooted, ?_⟩
  rw [path, ← stands.eq_iff]
  exact ⟨Canonical.pathAt_injective, fun same => by rw [same]⟩

/-- A document with a text between the children of its root. -/
def textBetweenChildren : Value :=
  .object [("version", .str "1.2"), ("ui", .object [("root", .object [("id", .str "r"),
    ("type", .str "div"), ("children", .list [.object [("id", .str "a"), ("type", .str "p")],
      .str "x", .object [("id", .str "c"), ("type", .str "p")]])])])]

/-- The path of the child before the text leads to what it is built from. -/
theorem textBetweenChildren_source :
    ∃ n t source, normalize textBetweenChildren = .ok n ∧ t ∈ n.document.root.walk ∧
      t.value.id = "a" ∧ Canonical.BuiltFrom source t ∧
      Path.read textBetweenChildren t.value.path = .ok source := by
  obtain ⟨n, t, done, mem, id, first⟩ : ∃ n t, normalize textBetweenChildren = .ok n ∧
      t ∈ n.document.root.walk ∧ t.value.id = "a" ∧ t.value.path = Canonical.pathAt [0] :=
    ⟨_, _, rfl, List.mem_cons_of_mem _ List.mem_cons_self, rfl, rfl⟩
  obtain ⟨place, written, source, path, stands, built, reads, same⟩ :=
    exists_source_of_mem_walk (v := textBetweenChildren) rfl rfl rfl done mem
  obtain rfl : place = [0] := Canonical.pathAt_injective (path.symm.trans first)
  have gapless : Node.Gapless (Document.rootValue textBetweenChildren) [0] :=
    ⟨by decide, fun _ _ => trivial⟩
  obtain rfl : [0] = written := stands.eq_iff.mpr gapless
  refine ⟨n, t, source, done, mem, id, built, ?_⟩
  rw [same.mpr gapless]
  exact reads (by simp [Canonical.Legible, Text.numeralLimit])

/-- The path of the child after the text leads to the text. -/
theorem textBetweenChildren_astray :
    ∃ n t source, normalize textBetweenChildren = .ok n ∧ t ∈ n.document.root.walk ∧
      t.value.id = "c" ∧ Canonical.BuiltFrom source t ∧
      t.value.path = "ui.root.children[1]" ∧
      Path.read textBetweenChildren "ui.root.children[1]" = .ok (.str "x") ∧
      Path.read textBetweenChildren "ui.root.children[2]" = .ok source ∧ source ≠ .str "x" := by
  refine ⟨_, _, .object [("id", .str "c"), ("type", .str "p")], rfl,
    List.mem_cons_of_mem _ (List.mem_cons_of_mem _ List.mem_cons_self), rfl, ⟨_, rfl, rfl⟩, rfl,
    rfl, rfl, ?_⟩
  intro same
  cases same

end ViewDoc
