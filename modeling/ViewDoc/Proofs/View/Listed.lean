import ViewDoc.Proofs.Ref.Resolved
import ViewDoc.Proofs.Scope.Lists
import ViewDoc.Proofs.View.Alike
/-!
What stands below a list when it is drawn. The main statement is that a list with items shows one
fragment for each of them, in order, under the key of the item and with the template in the context of
the item, and that any other list shows the node for the empty list or nothing. This is so for every
frame, and so for lists in lists.
-/

set_option autoImplicit false

namespace ViewDoc

/-- Two relations between lists, item by item, hold one after the other just when they do so for each
item. -/
theorem forall₂_comp_iff {α β γ : Type} {R : α -> β -> Prop} {S : β -> γ -> Prop} {as : List α}
    {cs : List γ} : (∃ bs, List.Forall₂ R as bs ∧ List.Forall₂ S bs cs) ↔
      List.Forall₂ (fun a c => ∃ b, R a b ∧ S b c) as cs := by
  constructor
  · rintro ⟨bs, first, second⟩
    induction first generalizing cs with
    | nil =>
      cases second
      exact .nil
    | cons own _ ih =>
      cases second with
      | cons next second => exact .cons ⟨_, own, next⟩ (ih second)
  · intro both
    induction both with
    | nil => exact ⟨[], .nil, .nil⟩
    | cons own _ ih =>
      obtain ⟨b, first, second⟩ := own
      obtain ⟨bs, firsts, seconds⟩ := ih
      exact ⟨b :: bs, .cons first firsts, .cons second seconds⟩

/-- Of two values that are put under a name one after the other the second one stays. -/
theorem Keyed.set_set_text {α : Type} (es : List (Key × α)) (name : String) (a b : α) :
    set (set es (.text name) a) (.text name) b = set es (.text name) b := by
  have own : Key.meets (.text name) (.text name) = true := (Key.meets_text_iff _ _).mpr rfl
  induction es with
  | nil => simp [set, own]
  | cons e rest ih =>
    obtain ⟨k, c⟩ := e
    by_cases here : k.meets (.text name) = true
    · simp [set, here]
    · simp [set, here, ih]

namespace ListDecl

/-- The key of the fragment for an item: what the path for keys reads from the item, or the position
where there is no such path or it reads null. -/
inductive Keys (l : ListDecl) (item : Value) (i : Nat) : Value -> Prop where
  | read {path : String} {key : Value} (keyed : l.keyBy.word? = some path)
      (found : Path.read item path = .ok key) (present : key ≠ .null) : Keys l item i key
  | absent {path : String} (keyed : l.keyBy.word? = some path)
      (found : Path.read item path = .ok .null) : Keys l item i (.int i)
  | unkeyed (none : l.keyBy.word? = none) : Keys l item i (.int i)

/-- A scope with the names that a list gives put into it, that of the item before that of the
position. Without names it stays, and with one a scope that is no object counts as empty. -/
def aliased (l : ListDecl) (scope item : Value) (i : Nat) : Value :=
  match l.itemAs.word?, l.indexAs.word? with
  | none, none => scope
  | some a, none => scope.overlaid [(.text a, item)]
  | none, some b => scope.overlaid [(.text b, .int i)]
  | some a, some b => scope.overlaid [(.text a, item), (.text b, .int i)]

/-- The context of an item: nothing but the item, the position and the names for them is its own. -/
structure Enters (l : ListDecl) (outer : Context) (x : Value) (i : Nat) (inner : Context) :
    Prop where
  item : inner.item = x
  index : inner.index = some (i : Int)
  params : inner.params = outer.params
  state : inner.state = outer.state
  data : inner.data = l.aliased outer.data x i
  member : ∀ name, inner.data.member? name =
    if l.indexAs.word? = some name then some (.int i)
    else if l.itemAs.word? = some name then some x else outer.data.member? name

variable {l : ListDecl} {ctx inner : Context} {item key source : Value} {i : Nat}

theorem keyOf_eq_ok_iff : keyOf l.keyBy.word? item i = .ok key ↔ l.Keys item i key := by
  cases keyed : l.keyBy.word? with
  | none =>
    constructor
    · intro done
      cases done
      exact .unkeyed keyed
    · rintro (⟨given, -, -⟩ | ⟨given, -⟩ | -)
      · cases keyed.symm.trans given
      · cases keyed.symm.trans given
      · rfl
  | some path =>
    rw [keyOf, Fault.bind_eq_ok_iff]
    constructor
    · rintro ⟨found, read, done⟩
      by_cases null : found = .null
      · subst null
        cases done
        exact .absent keyed read
      · have own : found.nonNull? = some found := by
          cases found <;> first | rfl | exact absurd rfl null
        rw [own] at done
        cases done
        exact .read keyed read null
    · rintro (⟨given, read, present⟩ | ⟨given, read⟩ | none)
      · cases keyed.symm.trans given
        have own : key.nonNull? = some key := by
          cases key <;> first | rfl | exact absurd rfl present
        refine ⟨key, read, ?_⟩
        rw [own]
        rfl
      · cases keyed.symm.trans given
        exact ⟨.null, read, rfl⟩
      · cases keyed.symm.trans none

theorem data_entryContext (l : ListDecl) (ctx : Context) (item : Value) (i : Nat) :
    (l.entryContext ctx item i).data = l.aliased ctx.data item i := by
  have named {word : Option String} {a : String} (given : word = some a) (nonempty : word ≠ some "") :
      a ≠ "" := by
    rintro rfl
    exact nonempty given
  rw [entryContext, aliased, Context.withItem, Context.aliases]
  cases ofItem : l.itemAs.word? with
  | none =>
    cases ofIndex : l.indexAs.word? with
    | none => rfl
    | some b =>
      have second : b ≠ "" := named ofIndex l.indexAs.word?_ne_empty
      simp [second, Entries.ofList, Entries.merge, Entries.set, Keyed.ofEntries]
  | some a =>
    have first : a ≠ "" := named ofItem l.itemAs.word?_ne_empty
    cases ofIndex : l.indexAs.word? with
    | none => simp [first, Entries.ofList, Entries.merge, Entries.set, Keyed.ofEntries]
    | some b =>
      have second : b ≠ "" := named ofIndex l.indexAs.word?_ne_empty
      by_cases same : a = b
      · subst same
        simp [first, Entries.ofList, Entries.merge, Entries.set, Keyed.ofEntries, Value.overlaid,
          Keyed.merge, Keyed.set_set_text]
      · simp [first, second, same, Entries.ofList, Entries.merge, Entries.set, Keyed.ofEntries]

theorem enters_iff : l.Enters ctx item i inner ↔ inner = l.entryContext ctx item i := by
  constructor
  · rintro ⟨ofItem, ofIndex, params, state, data, -⟩
    rw [← l.data_entryContext ctx item i] at data
    cases inner
    dsimp only at ofItem ofIndex params state data
    rw [ofItem, ofIndex, params, state, data]
    rfl
  · rintro rfl
    exact ⟨rfl, rfl, rfl, rfl, l.data_entryContext ctx item i, l.member?_entryContext ctx item i⟩

/-- The entry for an item at a position. -/
structure Plans (l : ListDecl) (ctx : Context) (x : Value) (i : Nat) (e : ListEntry) : Prop where
  key : l.Keys x i e.key
  item : e.item = x
  index : e.index = i
  context : l.Enters ctx x i e.context

theorem entriesFrom_eq_ok_iff {items : List Value} {es : List ListEntry} :
    l.entriesFrom ctx i items = .ok es ↔
      List.Forall₂ (fun p e => l.Plans ctx p.1 p.2 e) (items.zipIdx i) es := by
  induction items generalizing i es with
  | nil =>
    constructor
    · intro done
      cases done
      exact .nil
    · intro made
      cases made
      rfl
  | cons item rest ih =>
    rw [entriesFrom, Fault.bind_eq_ok_iff, List.zipIdx_cons]
    constructor
    · rintro ⟨key, keyed, done⟩
      obtain ⟨more, later, done⟩ := Fault.exists_of_bind_ok done
      cases done
      exact .cons ⟨keyOf_eq_ok_iff.mp keyed, rfl, rfl, enters_iff.mpr rfl⟩ (ih.mp later)
    · rintro (_ | ⟨own, made⟩)
      rename_i e more
      obtain ⟨key, item, index, context⟩ := own
      refine ⟨e.key, keyOf_eq_ok_iff.mpr key, ?_⟩
      rw [ih.mpr made]
      cases e
      dsimp only at item index context
      rw [item, index, enters_iff.mp context]
      rfl

/-- What is no list of values counts as one without items. -/
theorem plan_eq (l : ListDecl) (scope : Value) (ctx : Context) :
    l.plan scope ctx = (do
      let source ← l.sourceValue scope ctx
      let entries ← l.entriesFrom (ctx.withData scope) 0 (source.asList?.getD [])
      return ⟨entries, l.emptyNodeId.word?⟩) := by
  rw [plan]
  refine congrArg _ (funext fun source => ?_)
  cases source <;> rfl

theorem plan_eq_ok_iff {scope : Value} {p : ListPlan} :
    l.plan scope ctx = .ok p ↔
      ∃ source, l.sourceValue scope ctx = .ok source ∧
        List.Forall₂ (fun q e => l.Plans (ctx.withData scope) q.1 q.2 e)
          (source.asList?.getD []).zipIdx p.entries ∧
        p.emptyNodeId = l.emptyNodeId.word? := by
  rw [plan_eq, Fault.bind_eq_ok_iff]
  refine exists_congr fun source => and_congr_right fun _ => ?_
  rw [Fault.bind_eq_ok_iff]
  constructor
  · rintro ⟨entries, made, done⟩
    cases done
    exact ⟨entriesFrom_eq_ok_iff.mp made, rfl⟩
  · rintro ⟨made, word⟩
    refine ⟨p.entries, entriesFrom_eq_ok_iff.mpr made, ?_⟩
    rw [← word]
    rfl

end ListDecl

/-- A frame with another data scope. -/
def Frame.withData (frame : Frame) (data : Value) : Frame :=
  { frame with context := frame.context.withData data }

namespace Stage

/-- What is below the element of a node is what its list gives: the element takes children, and the
node is neither an outlet nor a route. -/
structure DrawsList (s : Stage) (n : CanonicalFields) (l : ListDecl) : Prop where
  list : n.list = some l
  inside : Entries.get? s.outlets n.id = none
  unrouted : n.type ≠ routeType
  roomy : voidElements.contains (Text.lower (s.registry.resolve s.icons n).element) = false

/-- The element of a node with its text, and with nothing below it. -/
def ownFields (s : Stage) (frame : Frame) (n : CanonicalFields) : Noted ViewNote ViewFields := do
  let fields ← s.elementOf frame n (s.registry.resolve s.icons n)
  let text ← Noted.ofExcept (n.text.resolveOne frame.context)
  return { fields with text := shownText text }

section

variable (s : Stage) (draw : Frame -> CanonicalNode -> Noted ViewNote View) (frame : Frame)
  (l : ListDecl) (children : List CanonicalNode)

/-- The fragment for an item: the template, drawn in the context of the item. -/
inductive IsCopy (x : Value) (i : Nat) : View -> Prop where
  | fragment {key : Value} {inner : Context} {copies : List View} (keyed : l.Keys x i key)
      (context : l.Enters frame.context x i inner)
      (template : List.Forall₂ (fun c v => (draw ⟨inner, frame.routePath⟩ c).result = .ok v)
        (l.shownTemplate children) copies) :
      IsCopy x i (.node { element := View.fragmentElement, key } copies)

/-- What a list gives for its source: a fragment for each item, else the node for the empty list, if
there is one. -/
inductive Lists : Value -> List View -> Prop where
  | copies {x : Value} {rest : List Value} {views : List View}
      (each : List.Forall₂ (fun p v => IsCopy draw frame l children p.1 p.2 v)
        (x :: rest).zipIdx views) : Lists (.list (x :: rest)) views
  | empty {source : Value} {n : CanonicalNode} {v : View}
      (without : ∀ x rest, source ≠ .list (x :: rest)) (shown : l.shownEmpty? s.document = some n)
      (drawn : (draw frame n).result = .ok v) : Lists source [v]
  | nothing {source : Value} (without : ∀ x rest, source ≠ .list (x :: rest))
      (hidden : l.shownEmpty? s.document = none) : Lists source []

/-- The fragment for an entry. -/
def entryView (e : ListEntry) : Noted ViewNote View := do
  let copies ← (l.shownTemplate children).mapM (draw ⟨e.context, frame.routePath⟩)
  return .node { element := View.fragmentElement, key := e.key } copies

/-- The views for the entries of a list. -/
def entryViews : List ListEntry -> Noted ViewNote (List View)
  | [] =>
    match l.shownEmpty? s.document with
    | some n => return [← draw frame n]
    | none => return []
  | e :: es => (e :: es).mapM (entryView draw frame l children)

end

variable {s : Stage} {draw : Frame -> CanonicalNode -> Noted ViewNote View} {frame : Frame}
  {l : ListDecl} {children : List CanonicalNode}

theorem isCopy_iff {x : Value} {i : Nat} {v : View} :
    IsCopy draw frame l children x i v ↔ ∃ e, l.Plans frame.context x i e ∧
      (entryView draw frame l children e).result = .ok v := by
  constructor
  · rintro ⟨keyed, context, template⟩
    rename_i key inner copies
    refine ⟨⟨key, x, i, inner⟩, ⟨keyed, rfl, rfl, context⟩, ?_⟩
    rw [entryView, Noted.result_bind, Noted.result_mapM, Fault.mapM_eq_ok_iff.mpr template]
    rfl
  · rintro ⟨e, planned, done⟩
    rw [entryView, Noted.result_bind, Noted.result_mapM] at done
    obtain ⟨copies, template, done⟩ := Fault.exists_of_bind_ok done
    cases done
    exact .fragment planned.key planned.context (Fault.mapM_eq_ok_iff.mp template)

theorem asList?_eq_nil {source : Value} (without : ∀ x rest, source ≠ .list (x :: rest)) :
    source.asList?.getD [] = [] := by
  cases source with
  | list items =>
    cases items with
    | nil => rfl
    | cons x rest => exact absurd rfl (without x rest)
  | _ => rfl

/-- What a list gives for its source are the views for the entries of the items. -/
theorem lists_iff {source : Value} {views : List View} :
    s.Lists draw frame l children source views ↔
      ∃ es, List.Forall₂ (fun q e => l.Plans frame.context q.1 q.2 e)
          (source.asList?.getD []).zipIdx es ∧
        (s.entryViews draw frame l children es).result = .ok views := by
  constructor
  · intro given
    cases given with
    | copies each =>
      obtain ⟨es, made, drawn⟩ := forall₂_comp_iff.mpr (each.imp fun _ _ => isCopy_iff.mp)
      refine ⟨es, made, ?_⟩
      cases made
      rw [entryViews, Noted.result_mapM]
      exact Fault.mapM_eq_ok_iff.mpr drawn
    | empty without shown drawn =>
      refine ⟨[], ?_, ?_⟩
      · rw [asList?_eq_nil without]
        exact .nil
      · rw [entryViews, shown, Noted.result_bind, drawn]
        rfl
    | nothing without hidden =>
      refine ⟨[], ?_, ?_⟩
      · rw [asList?_eq_nil without]
        exact .nil
      · rw [entryViews, hidden]
        rfl
  · rintro ⟨es, made, done⟩
    by_cases without : ∀ x rest, source ≠ .list (x :: rest)
    · rw [asList?_eq_nil without] at made
      cases made
      cases shown : l.shownEmpty? s.document with
      | none =>
        rw [entryViews, shown] at done
        cases done
        exact .nothing without shown
      | some n =>
        rw [entryViews, shown, Noted.result_bind] at done
        obtain ⟨v, drawn, done⟩ := Fault.exists_of_bind_ok done
        cases done
        exact .empty without shown drawn
    · simp only [not_forall, not_not] at without
      obtain ⟨x, rest, rfl⟩ := without
      have drawn : es.Forall₂ (fun e v => (entryView draw frame l children e).result = .ok v)
          views := by
        cases made
        rw [entryViews, Noted.result_mapM] at done
        exact Fault.mapM_eq_ok_iff.mp done
      exact .copies ((forall₂_comp_iff.mp ⟨es, made, drawn⟩).imp fun _ _ => isCopy_iff.mpr)

theorem listViews_eq_entryViews (s : Stage) (draw : Frame -> CanonicalNode -> Noted ViewNote View)
    (frame : Frame) (l : ListDecl) (children : List CanonicalNode) :
    s.listViews draw frame l children = (do
      let plan ← Noted.ofExcept (l.plan frame.context.data frame.context)
      s.entryViews draw frame l children plan.entries) := by
  rw [ListDecl.listViews_eq]
  refine congrArg _ (funext fun plan => ?_)
  obtain ⟨entries, word⟩ := plan
  cases entries <;> rfl

/-- The views below a list are what it gives for its source. -/
theorem listViews_result_iff {views : List View} :
    (s.listViews draw frame l children).result = .ok views ↔
      ∃ source, l.sourceValue frame.context.data frame.context = .ok source ∧
        s.Lists draw frame l children source views := by
  rw [listViews_eq_entryViews, Noted.result_bind, Noted.result_ofExcept, Fault.bind_eq_ok_iff]
  constructor
  · rintro ⟨p, planned, done⟩
    obtain ⟨source, selected, made, -⟩ := ListDecl.plan_eq_ok_iff.mp planned
    exact ⟨source, selected, lists_iff.mpr ⟨p.entries, made, done⟩⟩
  · rintro ⟨source, selected, given⟩
    obtain ⟨es, made, done⟩ := lists_iff.mp given
    exact ⟨⟨es, l.emptyNodeId.word?⟩,
      ListDecl.plan_eq_ok_iff.mpr ⟨source, selected, made, rfl⟩, done⟩

/-- A node that draws its list is its element above the views of the list. -/
theorem result_viewOf_of_drawsList {t : CanonicalNode} (draws : s.DrawsList t.value l) (budget : Nat)
    (outer : Frame) :
    (s.viewOf (budget + 1) outer t).result = (do
      let scope ← dataScope t.value.data outer.context s.settings.preview s.settings.maxDepth
      let own ← (s.ownFields (outer.withData scope) t.value).result
      let views ← (s.listViews (s.viewOf budget) (outer.withData scope) l t.children).result
      return .node own views) := by
  rw [viewOf, Noted.result_bind, Noted.result_ofExcept]
  refine congrArg _ (funext fun scope => ?_)
  rw [Noted.result_bind, result_resolutionOf]
  change Noted.result (_ >>= _) = _
  simp only [ownFields, Noted.result_bind, Noted.result_ofExcept, draws.roomy, draws.inside,
    childViews, if_neg draws.unrouted, draws.list, if_neg Bool.false_ne_true, bind_assoc]
  rfl

/-- A node that draws its list is its element above just what the list gives for its source, in the
scope of the node. -/
theorem viewOf_iff_of_drawsList {t : CanonicalNode} (draws : s.DrawsList t.value l) (budget : Nat)
    (outer : Frame) (v : View) :
    (s.viewOf (budget + 1) outer t).result = .ok v ↔
      ∃ scope own source views,
        dataScope t.value.data outer.context s.settings.preview s.settings.maxDepth = .ok scope ∧
        (s.ownFields (outer.withData scope) t.value).result = .ok own ∧
        l.sourceValue scope (outer.withData scope).context = .ok source ∧
        s.Lists (s.viewOf budget) (outer.withData scope) l t.children source views ∧
        v = .node own views := by
  rw [result_viewOf_of_drawsList draws, Fault.bind_eq_ok_iff]
  constructor
  · rintro ⟨scope, inherited, done⟩
    obtain ⟨own, made, done⟩ := Fault.exists_of_bind_ok done
    obtain ⟨views, listed, done⟩ := Fault.exists_of_bind_ok done
    cases done
    obtain ⟨source, selected, given⟩ := listViews_result_iff.mp listed
    exact ⟨scope, own, source, views, inherited, made, selected, given, rfl⟩
  · rintro ⟨scope, own, source, views, inherited, made, selected, given, rfl⟩
    have listed := listViews_result_iff.mpr ⟨source, selected, given⟩
    refine ⟨scope, inherited, ?_⟩
    rw [made, listed]
    rfl

/-- A list of users with their places in it, and with a node for when there are none. -/
def roster : ListDecl :=
  { source := .object [("$param", .str "users")], itemAs := .str "user", indexAs := .str "place",
    keyBy := .str "id", emptyNodeId := .str "none" }

def rosterNode : CanonicalNode :=
  .node { id := "list", type := "ul", list := some roster }
    [.node { id := "name", type := "li", text := .object [("$data", .str "user.name")] } [],
      .node { id := "none", type := "li", text := .str "No users" } [],
      .node { id := "place", type := "li", text := .object [("$data", .str "place")] } []]

/-- The second of two users has no id. -/
def rosterStage : Stage :=
  { document := { version := "1.2", root := rosterNode },
    params := [("users", .list [.object [("id", .str "a"), ("name", .str "Ann")],
      .object [("name", .str "Bob")]])] }

theorem roster_drawn :
    rosterStage.DrawsList rosterNode.value roster ∧
      ∃ scope source views,
        roster.sourceValue scope { params := rosterStage.params, data := scope } = .ok source ∧
        rosterStage.Lists (rosterStage.viewOf 1) ⟨{ params := rosterStage.params, data := scope }, none⟩
          roster rosterNode.children source views ∧
        views.map (fun v => (v.value.key, v.children.map fun c => c.value.text)) =
          [(.str "a", [.str "Ann", .int 0]), (.int 1, [.str "Bob", .int 1])] := by
  have draws : rosterStage.DrawsList rosterNode.value roster := by
    refine ⟨rfl, rfl, ?_, rfl⟩
    decide
  obtain ⟨scope, own, source, views, -, -, selected, given, same⟩ :=
    (viewOf_iff_of_drawsList draws 1 ⟨{ params := rosterStage.params }, none⟩ _).mp rfl
  cases same
  exact ⟨draws, scope, source, _, selected, given, rfl⟩

end Stage

end ViewDoc
