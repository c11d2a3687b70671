import ViewDoc.Proofs.Nesting.Rank
import ViewDoc.Proofs.Tsx.Stepwise
/-!
Drafting markup ends. A node is drafted within every budget above its rank, because each level of
the recursion goes to a node of lower rank. Where a node is drafted, its budget reaches all nodes
whose markup it holds.
-/

set_option autoImplicit false

namespace ViewDoc.Tsx

theorem emptyNode?_leadsTo {d : CanonicalDocument} {t c : CanonicalNode} {l : ListDecl}
    (list : t.value.list = some l) (found : Draft.emptyNode? d l = some c) : d.LeadsTo t c := by
  obtain ⟨id, given, found⟩ := Option.bind_eq_some_iff.mp found
  obtain ⟨given, -⟩ := Option.filter_eq_some_iff.mp given
  refine .empty list ⟨id, ?_, .inl rfl⟩ found
  cases written : l.emptyNodeId <;> simp_all [Value.asText?]

namespace Draft

/-- Drafting gives up for the depth of nesting nowhere but at a node. -/
theorem shallow_steps : Stepwise fun _ x => x.Shallow :=
  ⟨.pure, fun _ => .note _, fun _ _ => .note _, .ofExcept, .bind⟩

variable (names : Declared) (scope : Scope) (path : String)

theorem shallow_stylesheetsFrom (i : Nat) (items : List Value) :
    (stylesheetsFrom path i items).Shallow := by
  induction items generalizing i with
  | nil => exact .pure ()
  | cons v rest ih =>
    rw [stylesheetsFrom]
    split
    · exact .bind (.note _) fun _ => ih (i + 1)
    · exact .bind (shallow_steps.warn _ _ _ _) fun _ => ih (i + 1)

theorem shallow_stylesheets (v : Value) : (stylesheets path v).Shallow := by
  cases v with
  | list items => exact shallow_stylesheetsFrom path 0 items
  | _ => exact shallow_steps.warn _ _ _ _

theorem shallow_propAttribute (key : String) (v : Value) :
    (propAttribute names scope path key v).Shallow := by
  have braced : (do return (← value names scope (path ++ ".props." ++ key) v).map fun e =>
      (⟨key, .braced e⟩ : Attribute) : Draft (Option Attribute)).Shallow :=
    .bind (shallow_steps.value names scope _ v) fun _ => .pure _
  rw [propAttribute]
  split
  · exact .bind (shallow_stylesheets _ v) fun _ => .pure _
  · split
    · exact .bind (shallow_steps.warn _ _ _ _) fun _ => .pure _
    · dsimp only
      split
      · split
        · exact .pure _
        · exact braced
      · exact braced

theorem shallow_propAttributes (omitted : List String) (props : Entries) :
    (propAttributes names scope path omitted props).Shallow := by
  induction props with
  | nil => exact .pure []
  | cons p rest ih =>
    obtain ⟨key, v⟩ := p
    rw [propAttributes]
    dsimp only
    split
    · exact .bind (.pure none) fun _ => .bind ih fun _ => .pure _
    · exact .bind (shallow_propAttribute names scope path key v) fun _ => .bind ih fun _ => .pure _

theorem shallow_attributes (n : CanonicalFields) (omitted : List String) :
    (attributes names scope n omitted).Shallow := by
  have later (style : Option Expr) : (do
      let props ← propAttributes names scope n.path omitted n.props
      let found ← handlers names scope n [] n.events
      return (style.map fun e => (⟨"style", .braced e⟩ : Attribute)).toList ++ props ++
        found.map fun h => ⟨h.1, .handler h.2⟩ : Draft (List Attribute)).Shallow :=
    .bind (shallow_propAttributes names scope _ _ _) fun _ =>
      .bind (shallow_steps.handlers names scope n _ _) fun _ => .pure _
  rw [attributes]
  dsimp only
  split
  · exact .bind (.pure none) later
  · exact .bind (shallow_steps.value names scope _ _) later

theorem shallow_resolution (b : Blueprint) (n : CanonicalFields) : (resolution b n).Shallow :=
  .bind (.note _) fun _ => .bind (.forM_note _ _) fun _ => .pure _

theorem shallow_list {b : Blueprint} {draft : Scope -> CanonicalNode -> Draft Markup}
    {t : CanonicalNode} {l : ListDecl} (list : t.value.list = some l)
    (each : ∀ scope c, b.document.LeadsTo t c -> (draft scope c).Shallow) :
    (Draft.list b draft scope path l t.children).Shallow := by
  refine .bind (shallow_steps.loop b.names scope path l) fun loop => ?_
  refine .bind (.mapM fun c mem => each _ c (.child (List.mem_filter.mp mem).1)) fun copies => ?_
  split
  · rename_i c found
    exact .bind (each scope c (emptyNode?_leadsTo list found)) fun _ => .pure _
  · exact .pure _

/-- A node is drafted within every budget above its rank. -/
theorem shallow_node {b : Blueprint} (acyclic : b.document.Acyclic) {budget : Nat}
    {t : CanonicalNode} (mem : t ∈ b.document.root.walk) (room : b.document.rank t < budget) :
    (node b budget scope t).Shallow := by
  induction budget generalizing scope t with
  | zero => exact absurd room (Nat.not_lt_zero _)
  | succ budget ih =>
    have each (scope : Scope) (c : CanonicalNode) (leads : b.document.LeadsTo t c) :
        (node b budget scope c).Shallow := by
      have lower := acyclic.rank_lt leads mem
      exact ih scope (leads.mem_walk mem) (by omega)
    refine .bind (shallow_steps.dataScope b.names scope _ _) fun data => ?_
    refine .bind (shallow_resolution b _) fun r => ?_
    refine .bind (shallow_attributes b.names _ _ _) fun attributes => ?_
    dsimp only
    split
    · split
      · exact .bind (shallow_steps.warn _ _ _ _) fun _ => .pure _
      · exact .pure _
    · refine .bind (shallow_steps.text b.names _ _ _) fun text => ?_
      split
      · rename_i l list
        exact .bind (.map _ (shallow_list _ _ list each)) fun _ => .pure _
      · exact .bind (.mapM fun c below => each _ c (.child below)) fun _ => .pure _

end Draft

namespace Blueprint

/-- Whether a node is drafted as an element that never has children. -/
def isVoid (b : Blueprint) (t : CanonicalNode) : Bool :=
  voidElements.contains (Text.lower (b.registry.resolve b.icons t.value).element)

/-- The markup of a node holds that of another: of a child, of a node in the template of a list, or
of the node for the empty state. -/
inductive Holds (b : Blueprint) (t c : CanonicalNode) : Prop where
  | child (inside : b.isVoid t = false) (list : t.value.list = none) (below : c ∈ t.children)
  | item {l : ListDecl} (inside : b.isVoid t = false) (list : t.value.list = some l)
      (below : c ∈ Draft.template l t.children)
  | empty {l : ListDecl} (inside : b.isVoid t = false) (list : t.value.list = some l)
      (found : Draft.emptyNode? b.document l = some c)

end Blueprint

namespace Draft

open Relation (TransGen)

variable {b : Blueprint} {scope : Scope} {t c : CanonicalNode}

theorem exists_of_list_ok {draft : Scope -> CanonicalNode -> Draft Markup} {path : String}
    {l : ListDecl} {children : List CanonicalNode} {r : Markup × List Note}
    (done : Draft.list b draft scope path l children = .ok r) :
    (∀ c ∈ template l children, ∃ inner q, draft inner c = .ok q) ∧
      ∀ c, emptyNode? b.document l = some c -> ∃ inner q, draft inner c = .ok q := by
  obtain ⟨loop, _, -, done⟩ := Noted.exists_of_bind_ok done
  obtain ⟨copies, _, items, done⟩ := Noted.exists_of_bind_ok done
  refine ⟨fun c below => ⟨_, Noted.exists_of_mapM_ok items c below⟩, fun c found => ?_⟩
  simp only [found] at done
  obtain ⟨q, _, empty, -⟩ := Noted.exists_of_bind_ok done
  exact ⟨scope, q, empty⟩

theorem eq_of_resolution_ok {n : CanonicalFields} {p : Resolution × List Note}
    (done : resolution b n = .ok p) : p.1 = b.registry.resolve b.icons n := by
  obtain ⟨_, _, -, done⟩ := Noted.exists_of_bind_ok done
  obtain ⟨_, _, -, done⟩ := Noted.exists_of_bind_ok done
  exact (congrArg Prod.fst (Except.ok.inj done)).symm

/-- What is drafted within a node: the markup of its list, or that of its children. -/
def content (b : Blueprint) (draft : Scope -> CanonicalNode -> Draft Markup) (scope : Scope)
    (t : CanonicalNode) : Draft (List Markup) :=
  match t.value.list with
  | some l => List.singleton <$> list b draft scope t.value.path l t.children
  | none => t.children.mapM (draft scope)

/-- The markup of a node, with the drafts that it is made of. -/
inductive MadeOf (b : Blueprint) (less : Nat) (scope : Scope) (t : CanonicalNode) :
    Markup -> Prop where
  | isVoid {data : Expr} {as : List Attribute} {noted more : List Note}
      (drafted : dataScope b.names scope t.value.path t.value.data = .ok (data, noted))
      (given : attributes b.names { scope with data } t.value
        (b.registry.resolve b.icons t.value).omitProps = .ok (as, more))
      (isVoid : b.isVoid t = true) :
      MadeOf b less scope t (.element (b.registry.resolve b.icons t.value).element as [])
  | holder {data : Expr} {as : List Attribute} {own : Option Markup} {inner : List Markup}
      {noted more written others : List Note}
      (drafted : dataScope b.names scope t.value.path t.value.data = .ok (data, noted))
      (given : attributes b.names { scope with data } t.value
        (b.registry.resolve b.icons t.value).omitProps = .ok (as, more))
      (inside : b.isVoid t = false)
      (text : text b.names { scope with data } t.value.path t.value.text = .ok (own, written))
      (held : content b (node b less) { scope with data } t = .ok (inner, others)) :
      MadeOf b less scope t (.element (b.registry.resolve b.icons t.value).element as
        (own.toList ++ inner))

theorem madeOf_of_node_ok {less : Nat} {r : Markup × List Note}
    (done : node b (less + 1) scope t = .ok r) : MadeOf b less scope t r.1 := by
  obtain ⟨data, _, drafted, done⟩ := Noted.exists_of_bind_ok done
  obtain ⟨resolved, _, resolution, done⟩ := Noted.exists_of_bind_ok done
  obtain ⟨as, _, given, done⟩ := Noted.exists_of_bind_ok done
  rw [eq_of_resolution_ok resolution] at given done
  dsimp only at done
  split at done
  · rename_i isVoid
    have whole : r.1 = .element (b.registry.resolve b.icons t.value).element as.1 [] := by
      split at done
      · obtain ⟨_, _, -, done⟩ := Noted.exists_of_bind_ok done
        exact Noted.eq_of_pure_ok done
      · exact Noted.eq_of_pure_ok done
    rw [whole]
    exact .isVoid drafted given isVoid
  · rename_i inside
    obtain ⟨own, _, text, done⟩ := Noted.exists_of_bind_ok done
    obtain ⟨inner, others, held, whole⟩ : ∃ inner others,
        content b (node b less) { scope with data := data.1 } t = .ok (inner, others) ∧
          r.1 = .element (b.registry.resolve b.icons t.value).element as.1
            (own.1.toList ++ inner) := by
      rw [content]
      cases list : t.value.list with
      | none =>
        simp only [list] at done ⊢
        obtain ⟨inner, _, held, done⟩ := Noted.exists_of_bind_ok done
        exact ⟨inner.1, inner.2, held, Noted.eq_of_pure_ok done⟩
      | some l =>
        simp only [list] at done ⊢
        obtain ⟨inner, _, held, done⟩ := Noted.exists_of_bind_ok done
        exact ⟨inner.1, inner.2, held, Noted.eq_of_pure_ok done⟩
    rw [whole]
    exact .holder drafted given (Bool.eq_false_iff.mpr inside) text held

theorem exists_madeOf_of_node_ok {budget : Nat} {r : Markup × List Note}
    (done : node b budget scope t = .ok r) : ∃ less, MadeOf b less scope t r.1 := by
  cases budget with
  | zero => cases done
  | succ less => exact ⟨less, madeOf_of_node_ok done⟩

theorem exists_singleton_of_map_ok {α : Type} {x : Draft α} {r : List α × List Note}
    (done : List.singleton <$> x = .ok r) : ∃ q, x = .ok q ∧ r.1 = [q.1] := by
  rw [map_eq_pure_bind] at done
  obtain ⟨q, _, own, done⟩ := Noted.exists_of_bind_ok done
  exact ⟨q, own, Noted.eq_of_pure_ok done⟩

/-- Where a node is drafted, what its markup holds is drafted on a smaller budget. -/
theorem exists_of_node_ok {budget : Nat} {r : Markup × List Note} (holds : b.Holds t c)
    (done : node b (budget + 1) scope t = .ok r) :
    ∃ inner q, node b budget inner c = .ok q := by
  have inside : b.isVoid t = false := by cases holds <;> assumption
  have made := madeOf_of_node_ok done
  generalize r.1 = m at made
  cases made with
  | isVoid _ _ isVoid => exact absurd (inside.symm.trans isVoid) nofun
  | holder _ _ _ _ held =>
    rw [content] at held
    cases holds with
    | child _ list below =>
      rw [list] at held
      exact ⟨_, Noted.exists_of_mapM_ok held c below⟩
    | item _ list below =>
      rw [list] at held
      obtain ⟨q, drafted, -⟩ := exists_singleton_of_map_ok held
      exact (exists_of_list_ok drafted).1 c below
    | empty _ list found =>
      rw [list] at held
      obtain ⟨q, drafted, -⟩ := exists_singleton_of_map_ok held
      exact (exists_of_list_ok drafted).2 c found

/-- Every node that the markup of a node holds, directly or not, is drafted on a smaller budget. -/
theorem exists_lt_of_node_ok {budget : Nat} {r : Markup × List Note} (holds : TransGen b.Holds t c)
    (done : node b budget scope t = .ok r) :
    ∃ less < budget, ∃ inner q, node b less inner c = .ok q := by
  induction holds with
  | single holds =>
    cases budget with
    | zero => cases done
    | succ less => exact ⟨less, Nat.lt_succ_self less, exists_of_node_ok holds done⟩
  | tail _ holds ih =>
    obtain ⟨less, lower, inner, q, drafted⟩ := ih
    cases less with
    | zero => cases drafted
    | succ least => exact ⟨least, Nat.lt_of_succ_lt lower, exists_of_node_ok holds drafted⟩

/-- A node whose markup holds itself is drafted on no budget. -/
theorem node_ne_ok_of_cycle (cycle : TransGen b.Holds t t) (budget : Nat) (scope : Scope)
    (r : Markup × List Note) : node b budget scope t ≠ .ok r := by
  induction budget using Nat.strongRecOn generalizing scope r with
  | ind budget ih =>
    intro done
    obtain ⟨less, lower, inner, q, drafted⟩ := exists_lt_of_node_ok cycle done
    exact ih less lower inner q drafted

end Draft

namespace Blueprint

open Relation (ReflTransGen)

variable {γ : Type}

/-- What a node has of its own, with what those have whose markup it holds. -/
def within (b : Blueprint) (own : CanonicalNode -> List γ) : Nat -> CanonicalNode -> List γ
  | 0, _ => []
  | budget + 1, t =>
    own t ++
      if b.isVoid t then []
      else
        match t.value.list with
        | none => t.children.flatMap (within b own budget)
        | some l =>
          (Draft.template l t.children).flatMap (within b own budget) ++
            ((Draft.emptyNode? b.document l).map (within b own budget)).getD []

variable {b : Blueprint} {own : CanonicalNode -> List γ} {t c : CanonicalNode} {x : γ}

theorem exists_of_mem_within {budget : Nat} (mem : x ∈ b.within own budget t) :
    ∃ c, ReflTransGen b.Holds t c ∧ x ∈ own c := by
  induction budget generalizing t with
  | zero => cases mem
  | succ budget ih =>
    have below {c : CanonicalNode} (holds : b.Holds t c) (mem : x ∈ b.within own budget c) :
        ∃ c, ReflTransGen b.Holds t c ∧ x ∈ own c := by
      obtain ⟨d, reach, mem⟩ := ih mem
      exact ⟨d, .head holds reach, mem⟩
    rw [within] at mem
    obtain here | mem := List.mem_append.mp mem
    · exact ⟨t, .refl, here⟩
    · cases isVoid : b.isVoid t with
      | true =>
        rw [if_pos isVoid] at mem
        cases mem
      | false =>
        rw [if_neg (Bool.eq_false_iff.mp isVoid)] at mem
        cases list : t.value.list with
        | none =>
          simp only [list] at mem
          obtain ⟨c, child, mem⟩ := List.mem_flatMap.mp mem
          exact below (.child isVoid list child) mem
        | some l =>
          simp only [list] at mem
          obtain item | empty := List.mem_append.mp mem
          · obtain ⟨c, child, mem⟩ := List.mem_flatMap.mp item
            exact below (.item isVoid list child) mem
          · cases found : Draft.emptyNode? b.document l with
            | none =>
              rw [found] at empty
              cases empty
            | some c =>
              rw [found] at empty
              exact below (.empty isVoid list found) empty

theorem mem_within_of_holds {budget : Nat} (holds : b.Holds t c)
    (mem : x ∈ b.within own budget c) : x ∈ b.within own (budget + 1) t := by
  have inside : ¬ b.isVoid t = true := by cases holds <;> simp [*]
  rw [within, if_neg inside]
  refine List.mem_append_right _ ?_
  cases holds with
  | child _ list below =>
    simp only [list]
    exact List.mem_flatMap.mpr ⟨c, below, mem⟩
  | item _ list below =>
    simp only [list]
    exact List.mem_append_left _ (List.mem_flatMap.mpr ⟨c, below, mem⟩)
  | empty _ list found =>
    simp only [list, found]
    exact List.mem_append_right _ mem

/-- Where a node is drafted, the budget reaches every node that its markup holds. -/
theorem mem_within_of_reach {budget : Nat} {scope : Scope} {r : Markup × List Note}
    (done : Draft.node b budget scope t = .ok r) (reach : ReflTransGen b.Holds t c)
    (mem : x ∈ own c) : x ∈ b.within own budget t := by
  induction reach using ReflTransGen.head_induction_on generalizing budget scope r with
  | refl =>
    cases budget with
    | zero => cases done
    | succ budget => exact List.mem_append_left _ mem
  | head holds _ ih =>
    cases budget with
    | zero => cases done
    | succ budget =>
      obtain ⟨inner, q, drafted⟩ := Draft.exists_of_node_ok holds done
      exact mem_within_of_holds holds (ih drafted)

theorem mem_within_iff {budget : Nat} {scope : Scope} {r : Markup × List Note}
    (done : Draft.node b budget scope t = .ok r) :
    x ∈ b.within own budget t ↔ ∃ c, ReflTransGen b.Holds t c ∧ x ∈ own c :=
  ⟨exists_of_mem_within, fun ⟨_, reach, mem⟩ => mem_within_of_reach done reach mem⟩

end Blueprint

end ViewDoc.Tsx
