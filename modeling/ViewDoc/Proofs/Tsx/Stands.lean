import ViewDoc.Proofs.Tsx.Places
/-!
Where markup stands in the markup of the root. What is drafted at a place stands in the templates of
exactly the loops around the place, and every loop that stands somewhere is that of a list that is
reached.
-/

set_option autoImplicit false

namespace ViewDoc.Tsx

namespace Markup

/-- Markup without further markup in it. -/
inductive Leaf : Markup -> Prop where
  | text (s : String) : Leaf (.text s)
  | value (e : Expr) : Leaf (.value e)

/-- Markup that has a copy of a template for every round of a loop. -/
inductive Repeats (loop : Loop) (template : List Markup) : Markup -> Prop where
  | each : Repeats loop template (.each loop template)
  | eachOr (empty : Markup) : Repeats loop template (.eachOr loop empty template)

/-- A piece of markup stands in a whole, in the templates of loops, the innermost of which comes
first. -/
inductive Stands (whole : Markup) : List Loop -> Markup -> Prop where
  | root : Stands whole [] whole
  | child {loops : List Loop} {tag : String} {attributes : List Attribute} {children : List Markup}
      {m : Markup} (outer : Stands whole loops (.element tag attributes children))
      (mem : m ∈ children) : Stands whole loops m
  | copy {loops : List Loop} {loop : Loop} {template : List Markup} {list m : Markup}
      (outer : Stands whole loops list) (repeats : list.Repeats loop template)
      (mem : m ∈ template) : Stands whole (loop :: loops) m
  | empty {loops : List Loop} {loop : Loop} {empty : Markup} {template : List Markup}
      (outer : Stands whole loops (.eachOr loop empty template)) : Stands whole loops empty

end Markup

namespace Draft

variable {b : Blueprint} {p q : Place} {t : CanonicalNode} {l : ListDecl} {loop : Loop}

theorem leaf_of_text_ok {names : Declared} {scope : Scope} {path : String} {v : Value}
    {r : Option Markup × List Note} (done : text names scope path v = .ok r) :
    ∀ m ∈ r.1, m.Leaf := by
  rw [text.eq_def] at done
  split at done
  · cases done
    exact fun m mem => (Option.not_mem_none m mem).elim
  · dsimp only at done
    split at done
    · cases done
      exact fun m mem => (Option.not_mem_none m mem).elim
    · split at done
      · cases done
        exact fun m mem => Option.mem_some.mp mem ▸ .text _
      · cases done
        exact fun m mem => Option.mem_some.mp mem ▸ .value _
  · split at done
    · obtain ⟨e, _, -, done⟩ := Noted.exists_of_bind_ok done
      have whole := Noted.eq_of_pure_ok done
      exact fun m mem => Option.mem_some.mp (whole ▸ mem) ▸ .value e.1
    · obtain ⟨finite, _, -, done⟩ := Noted.exists_of_bind_ok done
      split at done
      · have whole := Noted.eq_of_pure_ok done
        exact fun m mem => Option.mem_some.mp (whole ▸ mem) ▸ .value _
      · obtain ⟨_, _, -, done⟩ := Noted.exists_of_bind_ok done
        have whole := Noted.eq_of_pure_ok done
        rw [whole]
        exact fun m mem => (Option.not_mem_none m mem).elim

/-- Markup of a node is an element. It holds leaves, and the markup of what is drafted within the
node, unless it stays empty. -/
theorem element_of_node_ok {budget : Nat} {r : Markup × List Note}
    (done : node b budget p.scope t = .ok r) :
    (b.isVoid t = true ∧ ∃ tag attributes, r.1 = .element tag attributes []) ∨
      ∃ q less tag attributes text inner notes, b.Enters p t q ∧
        r.1 = .element tag attributes (text ++ inner) ∧ (∀ m ∈ text, m.Leaf) ∧
        content b (node b less) q.scope t = .ok (inner, notes) := by
  obtain ⟨less, made⟩ := exists_madeOf_of_node_ok done
  generalize r.1 = m at made ⊢
  cases made with
  | isVoid _ _ isVoid => exact .inl ⟨isVoid, _, _, rfl⟩
  | @holder data as own inner _ _ _ others drafted given inside written held =>
    refine .inr ⟨p.within t.value data, less, _, as, own.toList, inner, others,
      .intro inside drafted, rfl, fun m mem => ?_, held⟩
    exact leaf_of_text_ok written m (Option.mem_toList.mp mem)

/-- What a node that is entered holds stands in its element. -/
theorem exists_of_enters {budget : Nat} {r : Markup × List Note} (enters : b.Enters p t q)
    (done : node b budget p.scope t = .ok r) :
    ∃ less tag attributes children inner notes,
      r.1 = .element tag attributes children ∧ inner ⊆ children ∧
        content b (node b less) q.scope t = .ok (inner, notes) := by
  obtain ⟨isVoid, -⟩ | ⟨q', less, tag, attributes, text, inner, notes, entered, whole, -, held⟩ :=
    element_of_node_ok done
  · exact absurd (isVoid.symm.trans enters.inside) nofun
  · obtain rfl := enters.unique entered
    exact ⟨less, tag, attributes, _, inner, notes, whole, List.subset_append_right _ _, held⟩

theorem exists_of_loop_ok {draft : Scope -> CanonicalNode -> Draft Markup} {scope : Scope}
    {path : String} {children : List CanonicalNode} {r : Markup × List Note}
    (done : list b draft scope path l children = .ok r) :
    ∃ loop notes template more, Draft.loop b.names scope path l = .ok (loop, notes) ∧
      (Draft.template l children).mapM (draft (scope.inLoop l loop.item loop.index)) =
        .ok (template, more) ∧
      match emptyNode? b.document l with
        | none => r.1 = .each loop template
        | some c => ∃ empty, draft scope c = .ok empty ∧ r.1 = .eachOr loop empty.1 template := by
  obtain ⟨loop, _, drafted, done⟩ := Noted.exists_of_bind_ok done
  obtain ⟨template, _, copies, done⟩ := Noted.exists_of_bind_ok done
  refine ⟨loop.1, loop.2, template.1, template.2, drafted, copies, ?_⟩
  cases found : emptyNode? b.document l with
  | none =>
    simp only [found] at done
    exact Noted.eq_of_pure_ok done
  | some c =>
    simp only [found] at done
    obtain ⟨empty, _, stand, done⟩ := Noted.exists_of_bind_ok done
    exact ⟨empty, stand, Noted.eq_of_pure_ok done⟩

end Draft

namespace Blueprint

variable {b : Blueprint} {p q : Place} {t : CanonicalNode} {l : ListDecl} {loop : Loop}
  {whole : Markup}

/-- The drafts of a node at a place stand in the templates of the loops around it. -/
def Shows (b : Blueprint) (whole : Markup) (p : Place) (t : CanonicalNode) : Prop :=
  ∃ budget r, Draft.node b budget p.scope t = .ok r ∧
    whole.Stands (p.layers.map (·.loop)) r.1

/-- The markup of a list stands where that of its node stands. -/
theorem Shows.list (shows : b.Shows whole p t) (enters : b.Enters p t q)
    (list : t.value.list = some l) :
    ∃ less r, Draft.list b (Draft.node b less) q.scope t.value.path l t.children = .ok r ∧
      whole.Stands (q.layers.map (·.loop)) r.1 := by
  obtain ⟨budget, s, drafted, stands⟩ := shows
  obtain ⟨less, tag, attributes, children, inner, notes, element, among, held⟩ :=
    Draft.exists_of_enters enters drafted
  rw [Draft.content, list] at held
  obtain ⟨r, drafted, single⟩ := Draft.exists_singleton_of_map_ok held
  obtain rfl : inner = [r.1] := single
  rw [element, ← enters.layers_eq] at stands
  exact ⟨less, r, drafted, .child stands (among List.mem_cons_self)⟩

theorem Shows.child (shows : b.Shows whole p t) (enters : b.Enters p t q)
    (list : t.value.list = none) {c : CanonicalNode} (below : c ∈ t.children) :
    b.Shows whole q c := by
  obtain ⟨budget, s, drafted, stands⟩ := shows
  obtain ⟨less, tag, attributes, children, inner, notes, element, among, held⟩ :=
    Draft.exists_of_enters enters drafted
  rw [Draft.content, list] at held
  obtain ⟨r, drafted, mem⟩ := Noted.exists_mem_of_mapM_ok held c below
  rw [element, ← enters.layers_eq] at stands
  exact ⟨less, r, drafted, .child stands (among mem)⟩

/-- The loop that a list gives stands where the markup of its node stands, and in its template stand
the drafts of the children. -/
theorem Shows.repeats (shows : b.Shows whole p t) (enters : b.Enters p t q)
    (gives : b.Gives q t l loop) :
    ∃ markup template, whole.Stands (q.layers.map (·.loop)) markup ∧
      markup.Repeats loop template ∧ ∀ c ∈ Draft.template l t.children,
        ∃ budget r, Draft.node b budget (q.inLoop l loop).scope c = .ok r ∧ r.1 ∈ template := by
  obtain ⟨list, given⟩ := gives
  obtain ⟨less, r, drafted, stands⟩ := shows.list enters list
  obtain ⟨made, _, template, _, same, copies, shape⟩ := Draft.exists_of_loop_ok drafted
  obtain rfl := (Prod.mk.inj (Except.ok.inj (same.symm.trans given))).1
  refine ⟨r.1, template, stands, ?_, fun c below => ?_⟩
  · cases found : Draft.emptyNode? b.document l with
    | none =>
      rw [found] at shape
      exact shape ▸ .each
    | some c =>
      rw [found] at shape
      obtain ⟨empty, -, shape⟩ := shape
      exact shape ▸ .eachOr empty.1
  · obtain ⟨s, copy, mem⟩ := Noted.exists_mem_of_mapM_ok copies c below
    exact ⟨less, s, copy, mem⟩

theorem Shows.empty (shows : b.Shows whole p t) (enters : b.Enters p t q)
    (list : t.value.list = some l) {c : CanonicalNode}
    (found : Draft.emptyNode? b.document l = some c) : b.Shows whole q c := by
  obtain ⟨less, r, drafted, stands⟩ := shows.list enters list
  obtain ⟨made, _, template, _, -, -, shape⟩ := Draft.exists_of_loop_ok drafted
  rw [found] at shape
  obtain ⟨empty, drafted, shape⟩ := shape
  rw [shape] at stands
  exact ⟨less, empty, drafted, .empty stands⟩

/-- Whatever is reached is drafted, and its markup stands in the templates of the loops around it. -/
theorem Reached.shows {budget : Nat} {r : Markup × List Note}
    (done : Draft.node b budget {} b.document.root = .ok r) (reached : b.Reached p t) :
    b.Shows r.1 p t := by
  induction reached with
  | root => exact ⟨budget, r, done, .root⟩
  | child _ enters list below ih => exact ih.child enters list below
  | item _ enters gives below ih =>
    obtain ⟨markup, template, stands, repeats, each⟩ := ih.repeats enters gives
    obtain ⟨less, s, drafted, mem⟩ := each _ below
    exact ⟨less, s, drafted, .copy stands repeats mem⟩
  | empty _ enters list found ih => exact ih.empty enters list found

/-- Where the pieces that stand in the templates of loops come from. -/
inductive Origin (b : Blueprint) : List Loop -> Markup -> Prop where
  | node {p : Place} {t : CanonicalNode} {budget : Nat} {m : Markup} {notes : List Note}
      (reached : b.Reached p t) (drafted : Draft.node b budget p.scope t = .ok (m, notes)) :
      Origin b (p.layers.map (·.loop)) m
  | list {p q : Place} {t : CanonicalNode} {l : ListDecl} {less : Nat} {m : Markup}
      {notes : List Note} (reached : b.Reached p t) (enters : b.Enters p t q)
      (list : t.value.list = some l)
      (drafted : Draft.list b (Draft.node b less) q.scope t.value.path l t.children =
        .ok (m, notes)) : Origin b (q.layers.map (·.loop)) m
  | leaf {loops : List Loop} {m : Markup} (leaf : m.Leaf) : Origin b loops m

variable {loops : List Loop} {m : Markup}

theorem Origin.child {tag : String} {attributes : List Attribute} {children : List Markup}
    (origin : b.Origin loops (.element tag attributes children)) (mem : m ∈ children) :
    b.Origin loops m := by
  cases origin with
  | @node p t _ _ _ reached drafted =>
    obtain ⟨-, tag, attributes, none⟩ | ⟨q, less, tag, attributes, text, inner, notes, enters, whole,
      leaves, held⟩ := Draft.element_of_node_ok drafted
    · cases none
      cases mem
    · cases whole
      obtain mem | mem := List.mem_append.mp mem
      · exact .leaf (leaves m mem)
      · rw [← enters.layers_eq]
        cases list : t.value.list with
        | none =>
          rw [Draft.content, list] at held
          obtain ⟨c, below, more, drafted⟩ := Noted.exists_of_mem_mapM held m mem
          exact .node (.child reached enters list below) drafted
        | some l =>
          rw [Draft.content, list] at held
          obtain ⟨r, listed, single⟩ := Draft.exists_singleton_of_map_ok held
          obtain rfl : inner = [r.1] := single
          obtain rfl := List.mem_singleton.mp mem
          exact .list reached enters list listed
  | list _ _ list drafted =>
    obtain ⟨made, _, template, _, -, -, shape⟩ := Draft.exists_of_loop_ok drafted
    split at shape
    · cases shape
    · obtain ⟨empty, -, shape⟩ := shape
      cases shape
  | leaf leaf => cases leaf

/-- Markup with copies of a template is that of a list, and the template that of its children. -/
theorem Origin.repeats {template : List Markup} (origin : b.Origin loops m)
    (repeats : m.Repeats loop template) :
    ∃ q l, b.Loops q l loop ∧ q.layers.map (·.loop) = loops ∧
      ∀ c ∈ template, b.Origin (loop :: loops) c := by
  cases origin with
  | node reached drafted =>
    obtain ⟨-, tag, attributes, whole⟩ | ⟨q, less, tag, attributes, text, inner, notes, -, whole, -⟩ :=
      Draft.element_of_node_ok drafted
    · cases whole
      cases repeats
    · cases whole
      cases repeats
  | @list p q t l less m notes reached enters list drafted =>
    obtain ⟨made, _, copies, _, given, drafted, shape⟩ := Draft.exists_of_loop_ok drafted
    have same : made = loop ∧ copies = template := by
      split at shape
      · cases shape
        cases repeats
        exact ⟨rfl, rfl⟩
      · obtain ⟨empty, -, shape⟩ := shape
        cases shape
        cases repeats
        exact ⟨rfl, rfl⟩
    obtain ⟨rfl, rfl⟩ := same
    have gives : b.Gives q t l made := ⟨list, given⟩
    refine ⟨q, l, ⟨reached, enters, gives⟩, rfl, fun c mem => ?_⟩
    obtain ⟨child, below, more, drafted⟩ := Noted.exists_of_mem_mapM drafted c mem
    exact .node (.item reached enters gives below) drafted
  | leaf leaf =>
    cases leaf <;> cases repeats

theorem Origin.empty {empty : Markup} {template : List Markup}
    (origin : b.Origin loops (.eachOr loop empty template)) : b.Origin loops empty := by
  cases origin with
  | node reached drafted =>
    obtain ⟨-, tag, attributes, whole⟩ | ⟨q, less, tag, attributes, text, inner, notes, -, whole, -⟩ :=
      Draft.element_of_node_ok drafted
    · cases whole
    · cases whole
  | list reached enters list drafted =>
    obtain ⟨made, _, copies, _, -, -, shape⟩ := Draft.exists_of_loop_ok drafted
    split at shape
    · cases shape
    · rename_i c found
      obtain ⟨⟨empty, notes⟩, stand, shape⟩ := shape
      cases shape
      exact .node (.empty reached enters list found) stand
  | leaf leaf => cases leaf

/-- Every piece of the markup of the root comes from a node that is reached, from a list, or from a
text. -/
theorem origin_of_stands {budget : Nat} {r : Markup × List Note}
    (done : Draft.node b budget {} b.document.root = .ok r) (stands : r.1.Stands loops m) :
    b.Origin loops m := by
  induction stands with
  | root => exact .node .root done
  | child _ mem ih => exact ih.child mem
  | copy _ repeats mem ih =>
    obtain ⟨q, l, -, -, each⟩ := ih.repeats repeats
    exact each _ mem
  | empty _ ih => exact ih.empty

end Blueprint

end ViewDoc.Tsx
