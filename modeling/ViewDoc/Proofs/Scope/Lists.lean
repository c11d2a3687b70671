import ViewDoc.Proofs.Canonical.Form
import ViewDoc.Proofs.Nesting.Acyclic
import ViewDoc.Proofs.Scope.Member
import ViewDoc.Proofs.Tsx.Places
/-!
How a list declaration is read when it is drawn and when it is drafted. Drawing trims the words of a
declaration, drafting takes them as they are. The main statement is that both readings agree, for
every list of a canonical document, just when the words that matter have no blanks around them.
-/

set_option autoImplicit false

namespace ViewDoc

namespace ListDecl

/-- The node that a list shows when it is drawn empty. -/
def shownEmpty? (d : CanonicalDocument) (l : ListDecl) : Option CanonicalNode :=
  l.emptyNodeId.word?.bind d.node?

/-- The children that a list shows for every entry when it is drawn. -/
def shownTemplate (l : ListDecl) (children : List CanonicalNode) : List CanonicalNode :=
  children.filter fun c => l.emptyNodeId.word? != some c.value.id

/-- The context of an entry. -/
def entryContext (l : ListDecl) (ctx : Context) (item : Value) (index : Nat) : Context :=
  ctx.withItem item index l.itemAs.word? l.indexAs.word?

theorem context_of_mem_entriesFrom {l : ListDecl} {ctx : Context} {i : Nat} {items : List Value}
    {es : List ListEntry} (made : l.entriesFrom ctx i items = .ok es) {e : ListEntry}
    (mem : e ∈ es) : e.context = l.entryContext ctx e.item e.index := by
  induction items generalizing i es with
  | nil =>
    cases made
    cases mem
  | cons item rest ih =>
    obtain ⟨key, -, made⟩ := Fault.exists_of_bind_ok made
    obtain ⟨more, later, made⟩ := Fault.exists_of_bind_ok made
    cases made
    rcases List.mem_cons.mp mem with rfl | mem
    · rfl
    · exact ih later mem

/-- Every entry of a drawn list has the context of its item. -/
theorem context_of_mem_entries {l : ListDecl} {scope : Value} {ctx : Context} {p : ListPlan}
    (planned : l.plan scope ctx = .ok p) {e : ListEntry} (mem : e ∈ p.entries) :
    e.context = l.entryContext (ctx.withData scope) e.item e.index := by
  obtain ⟨v, -, made⟩ := Fault.exists_of_bind_ok planned
  split at made
  · obtain ⟨es, entries, made⟩ := Fault.exists_of_bind_ok made
    cases made
    exact context_of_mem_entriesFrom entries mem
  · cases made
    cases mem

/-- A list is drawn as its node for the empty list, or as its template in the context of each entry. -/
theorem listViews_eq (s : Stage) (draw : Frame -> CanonicalNode -> Noted ViewNote View)
    (frame : Frame) (l : ListDecl) (children : List CanonicalNode) :
    s.listViews draw frame l children = (do
      let plan ← Noted.ofExcept (l.plan frame.context.data frame.context)
      if plan.isEmpty then
        match l.shownEmpty? s.document with
        | some n => return [← draw frame n]
        | none => return []
      else
        plan.entries.mapM fun e => do
          let copies ← (l.shownTemplate children).mapM (draw ⟨e.context, frame.routePath⟩)
          return .node { element := View.fragmentElement, key := e.key } copies) := by
  rw [Stage.listViews]
  cases planned : l.plan frame.context.data frame.context with
  | error fault => rfl
  | ok plan =>
    obtain ⟨entries, shown⟩ := plan
    obtain rfl : shown = l.emptyNodeId.word? := emptyNodeId_plan planned
    rfl

/-- A name finds the item in every entry of a drawn list. -/
def ShowsItem (l : ListDecl) (w : String) : Prop :=
  ∀ ctx item index, (Ref.data w).resolve (l.entryContext ctx item index) = .ok item

/-- A name finds the index in every entry of a drawn list. -/
def ShowsIndex (l : ListDecl) (w : String) : Prop :=
  ∀ ctx item index, (Ref.data w).resolve (l.entryContext ctx item index) = .ok (.int index)

/-- A name is drafted as the item variable in every template of a list. -/
def BindsItem (l : ListDecl) (w : String) : Prop :=
  ∀ names scope item index path, Tsx.Draft.reference names (Tsx.Scope.inLoop scope l item index)
    path (.data w) = pure (.members (.name item) [])

/-- A name is drafted as the index variable in every template of a list. -/
def BindsIndex (l : ListDecl) (w : String) : Prop :=
  ∀ names scope item index path, Tsx.Draft.reference names (Tsx.Scope.inLoop scope l item index)
    path (.data w) = pure (.members (.name index) [])

/-- A list among whose children some are its template is read in one way when it is drawn and when
it is drafted. -/
structure ReadAlike (d : CanonicalDocument) (l : ListDecl) (children : List CanonicalNode) :
    Prop where
  empty : l.shownEmpty? d = Tsx.Draft.emptyNode? d l
  template : l.shownTemplate children = Tsx.Draft.template l children
  item : ∀ w, Path.IsName w -> (l.ShowsItem w ↔ l.BindsItem w)
  index : ∀ w, Path.IsName w -> (l.ShowsIndex w ↔ l.BindsIndex w)

end ListDecl

/-- A word that can be asked for under its name has no blanks around it. -/
def Value.Unpadded (v : Value) : Prop :=
  ∀ s, v = .str s -> Text.isBlankText s = false -> Path.IsName s -> Text.trim s = s

theorem Value.word?_ne_empty (v : Value) : v.word? ≠ some "" := by
  intro empty
  obtain ⟨s, -, trimmed⟩ := Option.bind_eq_some_iff.mp empty
  rw [Text.trimmed?] at trimmed
  split at trimmed
  · cases trimmed
  · rename_i written
    have nonempty := (Text.trimmed_trim (Bool.eq_false_iff.mpr written)).nonempty
    exact nonempty (Option.some.inj trimmed)

theorem Value.word?_eq_some_iff (v : Value) (w : String) :
    v.word? = some w ↔ ∃ s, v = .str s ∧ Text.isBlankText s = false ∧ Text.trim s = w := by
  cases v with
  | str s =>
    simp only [word?, asText?, Option.bind_some, Text.trimmed?]
    cases blank : Text.isBlankText s <;> simp [blank]
  | _ => simp [word?, asText?]

theorem Tsx.Scope.givenName?_eq_some_iff (v : Value) (w : String) :
    givenName? v = some w ↔ v = .str w ∧ Text.isBlankText w = false := by
  cases v <;> simp [givenName?, Value.asText?, Option.filter_eq_some_iff]

/-- Trimming takes no mark away. -/
theorem Path.isName_of_isName_trim {s : String} (name : IsName (Text.trim s)) : IsName s := by
  refine ⟨?_, fun c mem => ?_⟩
  · rintro rfl
    exact name.1 rfl
  · cases mark : isPlain c with
    | true => rfl
    | false =>
      have visible : Text.isBlank c = false := by
        simp only [isPlain, Bool.and_eq_false_iff, bne_eq_false_iff_eq] at mark
        rcases mark with (rfl | rfl) | rfl <;> rfl
      have plain : isPlain c = true := name.2 c (Text.mem_trim_of_mem mem visible)
      rw [mark] at plain
      exact plain

/-- Without blanks around it a word is the same when it is trimmed and when it is taken as it is. -/
theorem Value.Unpadded.word?_eq_iff {v : Value} (unpadded : v.Unpadded) {w : String}
    (name : Path.IsName w) : v.word? = some w ↔ Tsx.Scope.givenName? v = some w := by
  rw [word?_eq_some_iff, Tsx.Scope.givenName?_eq_some_iff]
  constructor
  · rintro ⟨s, rfl, written, rfl⟩
    have same : Text.trim s = s := unpadded s rfl written (Path.isName_of_isName_trim name)
    rw [same]
    exact ⟨rfl, written⟩
  · rintro ⟨rfl, written⟩
    exact ⟨w, rfl, written, unpadded w rfl written name⟩

theorem Tsx.Draft.reference_of_isName (names : Declared) (scope : Scope) (path : String) {w : String}
    (name : Path.IsName w) :
    reference names scope path (.data w) = pure (dataMember scope [.key w]) := by
  rw [reference, Path.parse_of_isName name]
  rfl

theorem Context.exists_object_withItem (ctx : Context) {es : Entries} (members : ctx.data = .object es)
    (item : Value) (index : Int) (itemAs indexAs : Option String) :
    ∃ es', (ctx.withItem item index itemAs indexAs).data = .object es' := by
  rw [withItem]
  dsimp only
  split
  · exact ⟨es, members⟩
  · rw [members, Value.overlaid_object]
    exact ⟨_, rfl⟩

namespace ListDecl

variable {l : ListDecl} {w : String}

theorem member?_entryContext (l : ListDecl) (ctx : Context) (item : Value) (index : Nat) (w : String) :
    (l.entryContext ctx item index).data.member? w =
      if l.indexAs.word? = some w then some (.int index)
      else if l.itemAs.word? = some w then some item
      else ctx.data.member? w :=
  ctx.member?_withItem item index l.itemAs.word?_ne_empty l.indexAs.word?_ne_empty w

theorem resolve_entryContext (l : ListDecl) (name : Path.IsName w) (item : Value) (index : Nat) :
    (Ref.data w).resolve (l.entryContext { data := .object [] } item index) =
      .ok ((if l.indexAs.word? = some w then some (Value.int index)
        else if l.itemAs.word? = some w then some item else none).getD .null) := by
  obtain ⟨es, members⟩ := Context.exists_object_withItem { data := .object [] } rfl item index
    l.itemAs.word? l.indexAs.word?
  have keyed : (l.entryContext { data := .object [] } item index).data.keyed? =
      some (Keyed.ofEntries es) := by
    rw [entryContext, members]
    rfl
  rw [Ref.resolve, Path.read_of_isName name, Value.read_of_keyed? keyed, member?_entryContext]
  rfl

theorem showsIndex_iff (name : Path.IsName w) : l.ShowsIndex w ↔ l.indexAs.word? = some w := by
  constructor
  · intro shows
    have read := shows { data := .object [] } .null 0
    rw [resolve_entryContext l name] at read
    by_contra other
    rw [if_neg other] at read
    split at read <;> cases read
  · intro given ctx item index
    have found := member?_entryContext l ctx item index w
    rw [if_pos given] at found
    rw [Ref.resolve, Path.read_of_isName name]
    exact Value.read_of_member? found

theorem showsItem_iff (name : Path.IsName w) :
    l.ShowsItem w ↔ l.itemAs.word? = some w ∧ l.indexAs.word? ≠ some w := by
  constructor
  · intro shows
    have read := shows { data := .object [] } (.bool true) 0
    rw [resolve_entryContext l name] at read
    constructor
    · by_contra other
      rw [if_neg other] at read
      split at read <;> cases read
    · intro given
      rw [if_pos given] at read
      cases read
  · rintro ⟨given, other⟩ ctx item index
    have found := member?_entryContext l ctx item index w
    rw [if_neg other, if_pos given] at found
    rw [Ref.resolve, Path.read_of_isName name]
    exact Value.read_of_member? found

/-- What a name is drafted as in the template of a list. -/
theorem reference_inLoop (l : ListDecl) (name : Path.IsName w) (names : Tsx.Declared)
    (scope : Tsx.Scope) (item index path : String) :
    Tsx.Draft.reference names (scope.inLoop l item index) path (.data w) =
      pure (if Tsx.Scope.givenName? l.indexAs = some w then .members (.name index) []
        else if Tsx.Scope.givenName? l.itemAs = some w then .members (.name item) []
        else Tsx.Draft.dataMember scope [.key w]) := by
  rw [Tsx.Draft.reference_of_isName _ _ _ name, Tsx.Draft.dataMember,
    Tsx.Scope.get?_aliases_inLoop]
  by_cases ofIndex : Tsx.Scope.givenName? l.indexAs = some w
  · simp only [if_pos ofIndex]
  · by_cases ofItem : Tsx.Scope.givenName? l.itemAs = some w
    · simp only [if_neg ofIndex, if_pos ofItem]
    · simp only [if_neg ofIndex, if_neg ofItem]
      rfl

theorem bindsIndex_iff (name : Path.IsName w) :
    l.BindsIndex w ↔ Tsx.Scope.givenName? l.indexAs = some w := by
  constructor
  · intro binds
    have drafted := binds {} {} "item" "index" ""
    rw [reference_inLoop l name] at drafted
    by_contra other
    rw [if_neg other] at drafted
    have same := congrArg Prod.fst (Except.ok.inj drafted)
    dsimp only at same
    split at same
    · simp at same
    · cases same
  · intro given names scope item index path
    rw [reference_inLoop l name, if_pos given]

theorem bindsItem_iff (name : Path.IsName w) :
    l.BindsItem w ↔
      Tsx.Scope.givenName? l.itemAs = some w ∧ Tsx.Scope.givenName? l.indexAs ≠ some w := by
  constructor
  · intro binds
    have drafted := binds {} {} "item" "index" ""
    rw [reference_inLoop l name] at drafted
    have same := congrArg Prod.fst (Except.ok.inj drafted)
    dsimp only at same
    constructor
    · by_contra other
      rw [if_neg other] at same
      split at same
      · simp at same
      · cases same
    · intro given
      rw [if_pos given] at same
      simp at same
  · rintro ⟨given, other⟩ names scope item index path
    rw [reference_inLoop l name, if_neg other, if_pos given]

/-- Names find the item and the index alike just when the words for them have no blanks around. -/
theorem names_iff (l : ListDecl) :
    (∀ w, Path.IsName w ->
        (l.ShowsItem w ↔ l.BindsItem w) ∧ (l.ShowsIndex w ↔ l.BindsIndex w)) ↔
      l.itemAs.Unpadded ∧ l.indexAs.Unpadded := by
  constructor
  · intro alike
    have index : l.indexAs.Unpadded := by
      intro s written visible name
      have given := (Tsx.Scope.givenName?_eq_some_iff l.indexAs s).mpr ⟨written, visible⟩
      have shows := (alike s name).2.mpr ((bindsIndex_iff name).mpr given)
      obtain ⟨t, same, -, trimmed⟩ :=
        (Value.word?_eq_some_iff l.indexAs s).mp ((showsIndex_iff name).mp shows)
      cases written.symm.trans same
      exact trimmed
    refine ⟨fun s written visible name => ?_, index⟩
    have given := (Tsx.Scope.givenName?_eq_some_iff l.itemAs s).mpr ⟨written, visible⟩
    by_cases hidden : Tsx.Scope.givenName? l.indexAs = some s
    · -- the word is that of the index as well
      obtain ⟨written, visible⟩ := (Tsx.Scope.givenName?_eq_some_iff l.indexAs s).mp hidden
      exact index s written visible name
    · have shows := (alike s name).1.mpr ((bindsItem_iff name).mpr ⟨given, hidden⟩)
      obtain ⟨t, same, -, trimmed⟩ :=
        (Value.word?_eq_some_iff l.itemAs s).mp ((showsItem_iff name).mp shows).1
      cases written.symm.trans same
      exact trimmed
  · rintro ⟨item, index⟩ w name
    have sameItem := item.word?_eq_iff name
    have sameIndex := index.word?_eq_iff name
    rw [showsItem_iff name, bindsItem_iff name, showsIndex_iff name, bindsIndex_iff name, Ne, Ne,
      sameItem, sameIndex]
    exact ⟨Iff.rfl, Iff.rfl⟩

end ListDecl

/-- The ids of canonical nodes have no blanks around them. -/
theorem trimmed_id_of_mem_walk {v : Value} {n : Normalized} (done : normalize v = .ok n)
    {t : CanonicalNode} (mem : t ∈ n.document.root.walk) : Text.Trimmed t.value.id := by
  obtain ⟨d, u, -, -, rfl⟩ := (normalize_eq_ok_iff v n).mp done
  have value : t.value ∈ (Canonical.ofNode Canonical.rootPath u.root).walk.map Tree.value :=
    List.mem_map_of_mem mem
  rw [Tree.map_value_walk_eq, Canonical.positions_ofNode, List.map_map] at value
  obtain ⟨p, -, same⟩ := List.mem_map.mp value
  rw [← same]
  exact (Canonical.formAt_fieldsAt p.1 p.2).id_trimmed

/-- The node of the canonical document under a text with blanks around it is none. -/
theorem node?_eq_none_of_padded {v : Value} {n : Normalized} (done : normalize v = .ok n)
    {id : String} (padded : Text.trim id ≠ id) : n.document.node? id = none := by
  cases found : n.document.node? id with
  | none => rfl
  | some m =>
    have mem : m ∈ n.document.root.walk := List.mem_of_find?_eq_some found
    have same : m.value.id = id := by simpa using List.find?_some found
    have trimmed := Text.trim_of_trimmed (trimmed_id_of_mem_walk done mem)
    rw [same] at trimmed
    exact absurd trimmed padded

theorem node?_empty {v : Value} {n : Normalized} (done : normalize v = .ok n) :
    n.document.node? "" = none := by
  cases found : n.document.node? "" with
  | none => rfl
  | some m =>
    have mem : m ∈ n.document.root.walk := List.mem_of_find?_eq_some found
    have same : m.value.id = "" := by simpa using List.find?_some found
    exact absurd same (trimmed_id_of_mem_walk done mem).nonempty

section

variable {v : Value} {n : Normalized} {l : ListDecl} {s : String}

theorem ListDecl.shownEmpty?_of_text (done : normalize v = .ok n) (text : l.emptyNodeId = .str s) :
    l.shownEmpty? n.document = n.document.node? (Text.trim s) := by
  rw [shownEmpty?, text, Value.word?, Value.asText?, Option.bind_some, Text.trimmed?]
  split
  · rename_i blank
    rw [(Text.trim_eq_empty_iff s).mpr blank, node?_empty done]
    rfl
  · rfl

theorem Tsx.Draft.emptyNode?_of_text (done : normalize v = .ok n) (text : l.emptyNodeId = .str s) :
    emptyNode? n.document l = n.document.node? s := by
  rw [emptyNode?, text, Value.asText?]
  by_cases empty : s = ""
  · rw [empty, node?_empty done]
    rfl
  · simp [Option.filter, empty]

theorem shownEmpty?_eq_iff (done : normalize v = .ok n) (l : ListDecl) :
    l.shownEmpty? n.document = Tsx.Draft.emptyNode? n.document l ↔
      ∀ s, l.emptyNodeId = .str s ->
        Text.trim s = s ∨ n.document.node? (Text.trim s) = none := by
  constructor
  · intro alike s text
    rw [l.shownEmpty?_of_text done text, Tsx.Draft.emptyNode?_of_text done text] at alike
    by_cases plain : Text.trim s = s
    · exact .inl plain
    · exact .inr (alike.trans (node?_eq_none_of_padded done plain))
  · intro unpadded
    cases text : l.emptyNodeId with
    | str s =>
      rw [l.shownEmpty?_of_text done text, Tsx.Draft.emptyNode?_of_text done text]
      rcases unpadded s text with plain | absent
      · rw [plain]
      · by_cases plain : Text.trim s = s
        · rw [plain]
        · rw [absent, node?_eq_none_of_padded done plain]
    | _ => simp [ListDecl.shownEmpty?, Tsx.Draft.emptyNode?, text, Value.word?, Value.asText?]

theorem shownTemplate_eq (done : normalize v = .ok n) {t : CanonicalNode}
    (mem : t ∈ n.document.root.walk)
    (unpadded : ∀ s, l.emptyNodeId = .str s ->
      Text.trim s = s ∨ n.document.node? (Text.trim s) = none) :
    l.shownTemplate t.children = Tsx.Draft.template l t.children := by
  refine List.filter_congr fun c child => ?_
  have known : c ∈ n.document.root.walk := Tree.mem_walk_of_mem_children mem child
  have trimmed := trimmed_id_of_mem_walk done known
  have named : l.emptyNodeId.word? = some c.value.id ↔ l.emptyNodeId = .str c.value.id := by
    rw [Value.word?_eq_some_iff]
    constructor
    · rintro ⟨s, text, -, id⟩
      rcases unpadded s text with plain | absent
      · rw [text, ← id, plain]
      · rw [id] at absent
        have missed := List.find?_eq_none.mp absent c known
        simp at missed
    · intro text
      refine ⟨_, text, ?_, Text.trim_of_trimmed trimmed⟩
      rw [Bool.eq_false_iff, Ne, ← Text.trim_eq_empty_iff, Text.trim_of_trimmed trimmed]
      exact trimmed.nonempty
  rw [Bool.eq_iff_iff, bne_iff_ne, bne_iff_ne, Ne, Ne, named]

end

/-- Every list of a canonical document is read in one way when it is drawn and when it is drafted
just when its words for the item and the index have no blanks around them, and what stands between
the blanks around its word for the empty node is no id. -/
theorem readAlike_iff_unpadded {v : Value} {n : Normalized} (done : normalize v = .ok n)
    {t : CanonicalNode} (mem : t ∈ n.document.root.walk) (l : ListDecl) :
    l.ReadAlike n.document t.children ↔
      l.itemAs.Unpadded ∧ l.indexAs.Unpadded ∧
        ∀ s, l.emptyNodeId = .str s ->
          Text.trim s = s ∨ n.document.node? (Text.trim s) = none := by
  constructor
  · intro alike
    have names := l.names_iff.mp fun w name => ⟨alike.item w name, alike.index w name⟩
    exact ⟨names.1, names.2, (shownEmpty?_eq_iff done l).mp alike.empty⟩
  · rintro ⟨item, index, empty⟩
    have names := l.names_iff.mpr ⟨item, index⟩
    exact ⟨(shownEmpty?_eq_iff done l).mpr empty, shownTemplate_eq done mem empty,
      fun w name => (names w name).1, fun w name => (names w name).2⟩

/-- A list of users under a given name for the item, with a node for when there are none. -/
def userList (itemAs emptyNodeId : String) : Value :=
  .object [("version", .str "1.2"), ("ui", .object [("root", .object [("id", .str "list"),
    ("type", .str "ul"), ("list", .object [("source", .object [("$param", .str "users")]),
      ("itemAs", .str itemAs), ("emptyNodeId", .str emptyNodeId)]),
    ("children", .list [.object [("id", .str "row"), ("type", .str "li"),
      ("text", .object [("$data", .str "user.name")])],
      .object [("id", .str "none"), ("type", .str "li"), ("text", .str "No users")]])])])]

theorem userList_readAlike :
    ∃ n l, normalize (userList "user" "none") = .ok n ∧ n.document.root.value.list = some l ∧
      l.ReadAlike n.document n.document.root.children := by
  refine ⟨_, _, rfl, rfl, ?_⟩
  refine (readAlike_iff_unpadded (v := userList "user" "none") rfl (Tree.mem_walk_self _) _).mpr
    ⟨fun s same _ _ => ?_, fun s same _ _ => ?_, fun s same => .inl ?_⟩
  · cases same
    rfl
  · cases same
  · cases same
    rfl

/-- With blanks around its words the list shows the item as a user and the node for no users, and
the draft of it does neither. -/
theorem paddedUserList_apart :
    ∃ n l, normalize (userList " user " " none ") = .ok n ∧ n.document.root.value.list = some l ∧
      l.ShowsItem "user" ∧ ¬ l.BindsItem "user" ∧
      (l.shownEmpty? n.document).isSome = true ∧ Tsx.Draft.emptyNode? n.document l = none := by
  have name : Path.IsName "user" := by decide
  refine ⟨_, _, rfl, rfl, ?_, ?_, rfl, rfl⟩
  · rw [ListDecl.showsItem_iff name]
    exact ⟨rfl, nofun⟩
  · rw [ListDecl.bindsItem_iff name]
    rintro ⟨given, -⟩
    have same : " user " = "user" := Option.some.inj given
    simp at same

end ViewDoc
