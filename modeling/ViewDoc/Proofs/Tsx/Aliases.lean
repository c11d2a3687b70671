import ViewDoc.Proofs.Scope.Inherits
import ViewDoc.Proofs.Scope.Lists
import ViewDoc.Proofs.Tsx.Places
import ViewDoc.Validation
/-!
The names that lists give to their items and indices, below any number of lists and declarations. When
a document is drawn they stand in the data scope, where a declaration can replace them. When it is
drafted they are kept beside the data. The main statement is that a name which is drafted as a loop
variable finds, when it is drawn, the item or the index of that list in every entry, as long as the
declarations since then keep it.
-/

set_option autoImplicit false

namespace ViewDoc

open Tsx (Blueprint Declared Draft Expr Layer Loop Note Place Scope)

/-- What is passed on the way from the root to a node. -/
inductive Passage where
  /-- A node with its declaration. -/
  | node (decl : Option DataDecl)
  /-- An entry of a list, with the loop that is drafted for the list. -/
  | entry (layer : Layer) (item : Value) (index : Nat)
  /-- A list of a route node. It is drafted as a loop and drawn without entries. -/
  | unlisted (layer : Layer)

namespace Passage

/-- What a name that lists give is bound to: the loop variable and its value in the innermost entry
of a list that gives the name. -/
def bound (w : String) : List Passage -> Option (String × Value)
  | [] => none
  | .node _ :: passed => bound w passed
  | .unlisted _ :: passed => bound w passed
  | .entry layer item index :: passed =>
    if Scope.givenName? layer.list.indexAs = some w then some (layer.loop.index, .int index)
    else if Scope.givenName? layer.list.itemAs = some w then some (layer.loop.item, item)
    else bound w passed

/-- A list gives a name, to its item or to its index. -/
def Gives (layer : Layer) (w : String) : Prop :=
  Scope.givenName? layer.list.itemAs = some w ∨ Scope.givenName? layer.list.indexAs = some w

/-- A word of a list is this name when it is trimmed just if it is the name as it stands. -/
structure Plain (layer : Layer) (w : String) : Prop where
  item : layer.list.itemAs.word? = some w ↔ Scope.givenName? layer.list.itemAs = some w
  index : layer.list.indexAs.word? = some w ↔ Scope.givenName? layer.list.indexAs = some w

/-- Since the innermost entry of a list that gives the name nothing takes it away. -/
def Kept (w : String) : List Passage -> Prop
  | [] => True
  | .node decl :: passed => (∀ d, decl = some d -> d.Keeps w) ∧ Kept w passed
  | .unlisted layer :: passed => ¬ Gives layer w ∧ Kept w passed
  | .entry layer _ _ :: passed => Plain layer w ∧ (Gives layer w ∨ Kept w passed)

end Passage

/-- Where a node stands: the place at which it is drafted, the context in which it is drawn, and the
way to it, the last passage first. -/
structure Spot where
  place : Place := {}
  context : Context := {}
  passed : List Passage := []

namespace Stage

/-- What the markup for the document of a stage is drafted from. -/
def blueprint (s : Stage) (names : Declared) : Blueprint :=
  ⟨s.document, names, s.registry, s.icons⟩

/-- What a node at a spot refers to is drafted and drawn at another spot. -/
inductive Opens (s : Stage) (names : Declared) (p : Spot) (t : CanonicalNode) : Spot -> Prop where
  | intro {data : Expr} {notes : List Note} {v : Value}
      (drafted : Draft.dataScope names p.place.scope t.value.path t.value.data = .ok (data, notes))
      (drawn : dataScope t.value.data p.context s.settings.preview s.settings.maxDepth = .ok v) :
      Opens s names p t ⟨p.place.within t.value data, p.context.withData v,
        .node t.value.data :: p.passed⟩

/-- The nodes that are both drafted and drawn, each at its spot, and in a list at one for every
entry. -/
inductive Meets (s : Stage) (names : Declared) : Spot -> CanonicalNode -> Prop where
  | root : Meets s names { context := { params := s.params, state := s.state } } s.document.root
  | child {p q : Spot} {t c : CanonicalNode} (outer : Meets s names p t)
      (opens : s.Opens names p t q) (inside : (s.blueprint names).isVoid t = false)
      (list : t.value.list = none) (below : c ∈ t.children) : Meets s names q c
  | item {p q : Spot} {t c : CanonicalNode} {l : ListDecl} {loop : Loop} {plan : ListPlan}
      {e : ListEntry} (outer : Meets s names p t) (opens : s.Opens names p t q)
      (inside : (s.blueprint names).isVoid t = false) (listed : t.value.type ≠ routeType)
      (gives : (s.blueprint names).Gives q.place t l loop)
      (planned : l.plan q.context.data q.context = .ok plan) (mem : e ∈ plan.entries)
      (below : c ∈ Draft.template l t.children) :
      Meets s names ⟨q.place.inLoop l loop, e.context,
        .entry ⟨l, loop⟩ e.item e.index :: q.passed⟩ c
  | routed {p q : Spot} {t c : CanonicalNode} {l : ListDecl} {loop : Loop}
      (outer : Meets s names p t) (opens : s.Opens names p t q)
      (inside : (s.blueprint names).isVoid t = false) (route : t.value.type = routeType)
      (gives : (s.blueprint names).Gives q.place t l loop)
      (below : c ∈ Draft.template l t.children) :
      Meets s names ⟨q.place.inLoop l loop, q.context, .unlisted ⟨l, loop⟩ :: q.passed⟩ c
  | empty {p q : Spot} {t c : CanonicalNode} {l : ListDecl} (outer : Meets s names p t)
      (opens : s.Opens names p t q) (inside : (s.blueprint names).isVoid t = false)
      (list : t.value.list = some l) (found : Draft.emptyNode? s.document l = some c) :
      Meets s names q c

variable {s : Stage} {names : Declared} {p q : Spot} {t : CanonicalNode} {w x : String}

theorem Opens.enters (opens : s.Opens names p t q)
    (inside : (s.blueprint names).isVoid t = false) :
    (s.blueprint names).Enters p.place t q.place := by
  obtain ⟨drafted, -⟩ := opens
  exact .intro inside drafted

/-- The places of the spots are those at which nodes are drafted. -/
theorem Meets.reached (meets : s.Meets names p t) : (s.blueprint names).Reached p.place t := by
  induction meets with
  | root => exact .root
  | child _ opens inside list below ih => exact .child ih (opens.enters inside) list below
  | item _ opens inside _ gives _ _ below ih => exact .item ih (opens.enters inside) gives below
  | routed _ opens inside _ gives below ih => exact .item ih (opens.enters inside) gives below
  | empty _ opens inside list found ih => exact .empty ih (opens.enters inside) list found

end Stage

namespace Spot

/-- At a spot a name is bound to a loop variable, the value of which it finds in the data scope. -/
def Shows (p : Spot) (w x : String) : Prop :=
  ∃ v, Passage.bound w p.passed = some (x, v) ∧ p.context.data.member? w = some v

variable {s : Stage} {names : Declared} {p q : Spot} {t : CanonicalNode} {w x : String}
  {l : ListDecl} {loop : Loop}

/-- What holds of a name wherever it is drafted as a loop variable, unless it was taken away. -/
def Sound (p : Spot) (w x : String) : Prop :=
  Passage.Kept w p.passed -> Entries.get? p.place.scope.aliases w = some x -> p.Shows w x

theorem sound_root (context : Context) : Sound { context } w x := by
  intro kept known
  cases known

/-- A node only gives another scope for the data. -/
theorem Sound.opens (sound : p.Sound w x) (opens : s.Opens names p t q) : q.Sound w x := by
  intro kept known
  obtain ⟨-, drawn⟩ := opens
  obtain ⟨keeps, before⟩ := kept
  obtain ⟨v, bound, found⟩ := sound before known
  exact ⟨v, bound, member?_of_dataScope keeps found drawn⟩

/-- In an entry a name is what the list gives, or else what it was around the list, both when it is
drafted and when it is drawn. -/
theorem Sound.entry (sound : q.Sound w x) {plan : ListPlan} {e : ListEntry}
    (planned : l.plan q.context.data q.context = .ok plan) (mem : e ∈ plan.entries) :
    Sound ⟨q.place.inLoop l loop, e.context, .entry ⟨l, loop⟩ e.item e.index :: q.passed⟩ w x := by
  rintro ⟨⟨item, index⟩, before⟩ known
  dsimp only at item index
  have around : q.context.withData q.context.data = q.context := rfl
  have found : e.context.data.member? w =
      if Scope.givenName? l.indexAs = some w then some (.int e.index)
      else if Scope.givenName? l.itemAs = some w then some e.item
      else q.context.data.member? w := by
    rw [ListDecl.context_of_mem_entries planned mem, ListDecl.member?_entryContext, around]
    simp only [item, index]
  have named : Entries.get? (q.place.scope.inLoop l loop.item loop.index).aliases w = some x := known
  rw [Scope.get?_aliases_inLoop] at named
  -- drafted and drawn, the index hides the item, and both hide what is around the list
  by_cases ofIndex : Scope.givenName? l.indexAs = some w
  · rw [if_pos ofIndex] at named found
    cases named
    exact ⟨.int e.index, if_pos ofIndex, found⟩
  · rw [if_neg ofIndex] at named found
    by_cases ofItem : Scope.givenName? l.itemAs = some w
    · rw [if_pos ofItem] at named found
      cases named
      exact ⟨e.item, (if_neg ofIndex).trans (if_pos ofItem), found⟩
    · rw [if_neg ofItem] at named found
      have before : Passage.Kept w q.passed := before.resolve_left fun gives =>
        gives.elim ofItem ofIndex
      obtain ⟨v, bound, shown⟩ := sound before named
      exact ⟨v, ((if_neg ofIndex).trans (if_neg ofItem)).trans bound, found.trans shown⟩

/-- A list that is not drawn as one is passed by without a change where it does not give the name. -/
theorem Sound.unlisted (sound : q.Sound w x) :
    Sound ⟨q.place.inLoop l loop, q.context, .unlisted ⟨l, loop⟩ :: q.passed⟩ w x := by
  rintro ⟨other, before⟩ known
  have named : Entries.get? (q.place.scope.inLoop l loop.item loop.index).aliases w = some x := known
  obtain ⟨ofItem, ofIndex⟩ := not_or.mp other
  rw [Scope.get?_aliases_inLoop, if_neg ofIndex, if_neg ofItem] at named
  exact sound before named

end Spot

namespace Stage

variable {s : Stage} {names : Declared} {p q : Spot} {t : CanonicalNode} {w x : String}

theorem Meets.sound (meets : s.Meets names p t) (w x : String) : p.Sound w x := by
  -- along the way from the root, one lemma for each kind of passage
  induction meets with
  | root => exact Spot.sound_root _
  | child _ opens _ _ _ ih => exact ih.opens opens
  | item _ opens _ _ _ planned mem _ ih => exact (ih.opens opens).entry planned mem
  | routed _ opens _ _ _ _ ih => exact (ih.opens opens).unlisted
  | empty _ opens _ _ _ ih => exact ih.opens opens

/-- Where a name is drafted as a loop variable it is bound to the variable of the innermost list that
gives it, and finds the item or the index of that list when it is drawn, in every entry, if nothing
takes it away since then. -/
theorem Meets.alias_found (meets : s.Meets names p t) (opens : s.Opens names p t q)
    (name : Path.IsName w) (known : Entries.get? q.place.scope.aliases w = some x)
    (kept : Passage.Kept w q.passed) :
    ∃ v, Passage.bound w q.passed = some (x, v) ∧ (Ref.data w).resolve q.context = .ok v ∧
      ∀ path, Draft.reference names q.place.scope path (.data w) =
        pure (.members (.name x) []) := by
  obtain ⟨v, bound, found⟩ := (meets.sound w x).opens opens kept known
  refine ⟨v, bound, ?_, fun path => ?_⟩
  · rw [Ref.resolve, Path.read_of_isName name]
    exact Value.read_of_member? found
  · rw [Draft.reference_of_isName names _ path name, Draft.dataMember, known]

/-- A list of users whose rows declare a title: among the data, or in place of them. -/
def titledUsers (part : String) : Value :=
  .object [("version", .str "1.2"),
    ("logic", .object [("props", .object [("users", .object [("type", .str "array")])])]),
    ("ui", .object [("root", .object [("id", .str "users"), ("type", .str "ul"),
      ("list", .object [("source", .object [("$param", .str "users")]), ("itemAs", .str "user")]),
      ("children", .list [.object [("id", .str "row"), ("type", .str "li"),
        ("data", .object [(part, .object [("title", .str "Member")])]),
        ("text", .object [("$data", .str "user.name")])]])])])]

def titleAdded : DataDecl :=
  { extend := .object [("title", .str "Member")] }

def titleOnly : DataDecl :=
  { value := .object [("title", .str "Member")] }

def titledRow (data : DataDecl) : CanonicalNode :=
  .node { id := "row", type := "li", path := "ui.root.children[0]", data := some data,
          text := .object [("$data", .str "user.name")] } []

def titledUsersDocument (data : DataDecl) : CanonicalDocument where
  version := "1.2"
  logic := some { props := [("users", { type := "array" })] }
  root := .node { id := "users", type := "ul", path := "ui.root",
                  list := some { source := .object [("$param", .str "users")],
                                 itemAs := .str "user" } } [titledRow data]

def titledUsersNames : Declared where
  props := [("users", { type := "array" })]
  reserved := ["users", "users"]

def titledUsersLayer : Layer :=
  ⟨{ source := .object [("$param", .str "users")], itemAs := .str "user" },
    { source := .members (.name "users") [], item := "user", index := "index" }⟩

def ada : Value :=
  .object [("name", .str "Ada")]

def titledUsersStage (data : DataDecl) : Stage :=
  { document := titledUsersDocument data, params := [("users", .list [ada])] }

def adaSpot : Spot where
  place := Place.inLoop {} titledUsersLayer.list titledUsersLayer.loop
  context := { params := [("users", .list [ada])], data := .object [("user", ada)], item := ada,
               index := some 0 }
  passed := [.entry titledUsersLayer ada 0, .node none]

theorem titledUsers_meets (data : DataDecl) :
    (titledUsersStage data).Meets titledUsersNames adaSpot (titledRow data) := by
  have listed : (titledUsersStage data).document.root.value.type ≠ routeType := by
    show "ul" ≠ "MdrRoute"
    decide
  have opened : (titledUsersStage data).Opens titledUsersNames
      { context := { params := [("users", .list [ada])] } } (titledUsersDocument data).root _ :=
    .intro rfl rfl
  -- of a node only its fields matter, and the row is in none of them
  have inside : ((titledUsersStage titleOnly).blueprint titledUsersNames).isVoid
      (titledUsersDocument titleOnly).root = false := by
    decide +kernel
  have shown : titledUsersLayer.list.emptyNodeId != .str (titledRow data).value.id :=
    bne_iff_ne.mpr nofun
  exact .item .root opened inside listed (.intro rfl rfl) rfl List.mem_cons_self
    (List.mem_filter.mpr ⟨List.mem_cons_self, shown⟩)

/-- A title among the data: the row is drafted and drawn with the user. -/
theorem titledUsers_alias_found :
    normalize (titledUsers "extend") = .ok ⟨titledUsersDocument titleAdded, []⟩ ∧
      ∃ q, Opens (titledUsersStage titleAdded) titledUsersNames adaSpot (titledRow titleAdded) q ∧
        Passage.bound "user" q.passed = some ("user", ada) ∧
        (Ref.data "user").resolve q.context = .ok ada := by
  have keeps : titleAdded.Keeps "user" := by
    refine ⟨rfl, fun es extend => ?_, .inl ⟨rfl, rfl, rfl⟩⟩
    cases extend
    exact ⟨rfl, by decide⟩
  have opened : Opens (titledUsersStage titleAdded) titledUsersNames adaSpot
      (titledRow titleAdded) _ := .intro rfl rfl
  have kept : Passage.Kept "user" (.node (some titleAdded) :: adaSpot.passed) := by
    refine ⟨fun d declared => ?_, ⟨⟨fun _ => rfl, fun _ => rfl⟩, ⟨nofun, nofun⟩⟩, .inl (.inl rfl)⟩
    cases declared
    exact keeps
  obtain ⟨v, bound, found, -⟩ := (titledUsers_meets _).alias_found opened
    (by decide) (x := "user") rfl kept
  obtain rfl : ada = v := (Prod.mk.inj (Option.some.inj bound)).2
  exact ⟨rfl, _, opened, rfl, found⟩

/-- A title in place of the data: the row is drafted with the user, and drawn without. -/
theorem titledUsers_alias_lost :
    (∃ r, Validation.ofValue (titledUsers "value") = .ok r ∧ r.issues = [] ∧ r.diagnostics = []) ∧
      normalize (titledUsers "value") = .ok ⟨titledUsersDocument titleOnly, []⟩ ∧
      Declared.ofDocument (titledUsersDocument titleOnly) = .ok titledUsersNames ∧
      ∃ p t q, Meets (titledUsersStage titleOnly) titledUsersNames p t ∧
        Opens (titledUsersStage titleOnly) titledUsersNames p t q ∧
        Passage.bound "user" q.passed = some ("user", ada) ∧
        Draft.reference titledUsersNames q.place.scope t.value.path (.data "user") =
          pure (.members (.name "user") []) ∧
        (Ref.data "user").resolve q.context = .ok .null := by
  have opened : Opens (titledUsersStage titleOnly) titledUsersNames adaSpot
      (titledRow titleOnly) _ := .intro rfl rfl
  exact ⟨⟨_, rfl, rfl, rfl⟩, rfl, rfl, adaSpot, _, _, titledUsers_meets _, opened, rfl, rfl, rfl⟩

end Stage

end ViewDoc
