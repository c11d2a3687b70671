import ViewDoc.Document.Load
import ViewDoc.Proofs.Tsx.Stands
import ViewDoc.Validation
/-!
Hygiene of loop variables. A loop never hides what the component binds. It may hide a variable of a
loop around it, since its variables are kept apart from nothing else: names in templates stand for
what they are meant to stand for exactly if all loops are clear. Lists that give no names are, unless
the component binds a name of the kind that loops use.
-/

set_option autoImplicit false

namespace ViewDoc.Tsx

/-- A loop stands in markup, in the templates of other loops, the innermost of which comes first. -/
def Markup.Nests (whole : Markup) (loops : List Loop) (loop : Loop) : Prop :=
  ∃ list template, whole.Stands loops list ∧ list.Repeats loop template

namespace Module

variable {source : Normalized} {options : Options} {m : Module}

/-- What the variables of the loops in a module stand for, and what they leave alone. -/
structure Hygiene (b : Blueprint) (m : Module) : Prop where
  drafted : ∀ p t, b.Reached p t -> b.Shows m.root p t
  /-- The loops of the markup are those of the lists that are drafted. -/
  nests_iff : ∀ loops loop, m.root.Nests loops loop ↔
    ∃ q l, b.Loops q l loop ∧ q.layers.map (·.loop) = loops
  not_bound : ∀ q l loop, b.Loops q l loop -> loop.item ∉ m.bound ∧ loop.index ∉ m.bound
  faithful_iff_clear : (∀ q l loop, b.Loops q l loop -> (q.inLoop l loop).Faithful) ↔
    ∀ q l loop, b.Loops q l loop -> q.Clear l loop
  faithful : (∀ q l loop, b.Loops q l loop -> q.Clear l loop) ->
    ∀ p t, b.Reached p t -> p.Faithful

theorem Made.nests_iff {names : Declared} {notes : List Note}
    (made : Made source options names notes m) (loops : List Loop) (loop : Loop) :
    m.root.Nests loops loop ↔
      ∃ q l, Blueprint.Loops ⟨source.document, names, options.registry, options.icons⟩ q l loop ∧
        q.layers.map (·.loop) = loops := by
  constructor
  · rintro ⟨list, template, stands, repeats⟩
    obtain ⟨q, l, listed, around, -⟩ :=
      (Blueprint.origin_of_stands made.drafted stands).repeats repeats
    exact ⟨q, l, listed, around⟩
  · rintro ⟨q, l, ⟨reached, enters, gives⟩, rfl⟩
    have shows := reached.shows made.drafted
    obtain ⟨list, template, stands, repeats, -⟩ := shows.repeats enters gives
    exact ⟨list, template, stands, repeats⟩

theorem generate_hygiene (done : generate source options = .ok m) :
    ∃ names, Declared.ofDocument source.document = .ok names ∧
      m.Hygiene ⟨source.document, names, options.registry, options.icons⟩ := by
  obtain ⟨names, notes, made⟩ := exists_made done
  have kept := Blueprint.faithful_iff_clear
    (b := ⟨source.document, names, options.registry, options.icons⟩) made.declared
  refine ⟨names, made.declared, fun p t reached => reached.shows made.drafted, made.nests_iff,
    fun q l loop loops => ?_, kept, fun clear p t reached => ?_⟩
  · obtain ⟨-, -, gives⟩ := loops
    obtain ⟨item, index⟩ := gives.not_mem_reserved
    exact ⟨fun mem => item (made.bound_subset_reserved mem),
      fun mem => index (made.bound_subset_reserved mem)⟩
  · exact reached.faithful fun q l loop loops _ => kept.mpr clear q l loop loops

end Module

namespace Place

open Layer (variablesOf)

/-- A place in loops that use the names for lists that give none. -/
structure Plain (p : Place) : Prop where
  depth : p.scope.depth = p.layers.length
  aliases : p.scope.aliases = []
  named : ∀ x ∈ variablesOf p.layers, ∃ k < p.layers.length,
    x = numbered "item" k ∨ x = numbered "index" k

variable {p : Place} {l : ListDecl} {loop : Loop}

theorem Plain.ne_of_mem (plain : p.Plain) {x : String} (mem : x ∈ variablesOf p.layers) :
    x ≠ numbered "item" p.scope.depth ∧ x ≠ numbered "index" p.scope.depth := by
  obtain ⟨k, lower, rfl | rfl⟩ := plain.named x mem
  · refine ⟨fun same => ?_, numbered_item_ne_index _ _⟩
    have level := numbered_injective "item" same
    rw [plain.depth] at level
    omega
  · refine ⟨fun same => numbered_item_ne_index _ _ same.symm, fun same => ?_⟩
    have level := numbered_injective "index" same
    rw [plain.depth] at level
    omega

theorem Plain.clear (plain : p.Plain) (item : loop.item = numbered "item" p.scope.depth)
    (index : loop.index = numbered "index" p.scope.depth) : p.Clear l loop := by
  refine ⟨?_, fun word x _ _ known => ?_, fun x _ mem => ?_⟩
  · rw [item, index]
    exact numbered_item_ne_index _ _
  · rw [plain.aliases] at known
    cases known
  · rw [item, index]
    exact plain.ne_of_mem mem

theorem Plain.inLoop (plain : p.Plain) (item : loop.item = numbered "item" p.scope.depth)
    (index : loop.index = numbered "index" p.scope.depth)
    (noItem : Scope.givenName? l.itemAs = none) (noIndex : Scope.givenName? l.indexAs = none) :
    (p.inLoop l loop).Plain := by
  refine ⟨congrArg (· + 1) plain.depth, ?_, fun x mem => ?_⟩
  · rw [Place.inLoop, Scope.inLoop, noItem, noIndex]
    exact plain.aliases
  · have own : p.layers.length < (p.inLoop l loop).layers.length := Nat.lt_succ_self _
    obtain rfl | mem := List.mem_cons.mp mem
    · exact ⟨_, own, .inl (plain.depth ▸ item)⟩
    · obtain rfl | mem := List.mem_cons.mp mem
      · exact ⟨_, own, .inr (plain.depth ▸ index)⟩
      · obtain ⟨k, lower, named⟩ := plain.named x mem
        exact ⟨k, Nat.lt_succ_of_lt lower, named⟩

end Place

namespace Blueprint

variable {b : Blueprint} {p q : Place} {t : CanonicalNode} {l : ListDecl} {loop : Loop}

/-- No list in the document gives names to its variables. -/
def Unnamed (b : Blueprint) : Prop :=
  ∀ t ∈ b.document.root.walk, ∀ l, t.value.list = some l ->
    Scope.givenName? l.itemAs = none ∧ Scope.givenName? l.indexAs = none

theorem Gives.eq_numbered (gives : b.Gives q t l loop)
    (noItem : Scope.givenName? l.itemAs = none) (noIndex : Scope.givenName? l.indexAs = none)
    (free : ∀ n, numbered "item" n ∉ b.names.reserved ∧ numbered "index" n ∉ b.names.reserved) :
    loop.item = numbered "item" q.scope.depth ∧ loop.index = numbered "index" q.scope.depth := by
  obtain ⟨item, index⟩ := gives.variables_eq
  rw [item, index, noItem, noIndex]
  exact ⟨freshName_eq_self (free _).1, freshName_eq_self (free _).2⟩

theorem Enters.plain (enters : b.Enters p t q) (plain : p.Plain) : q.Plain := by
  obtain ⟨-, -⟩ := enters
  exact ⟨plain.depth, plain.aliases, plain.named⟩

theorem Reached.plain (unnamed : b.Unnamed)
    (free : ∀ n, numbered "item" n ∉ b.names.reserved ∧ numbered "index" n ∉ b.names.reserved)
    (reached : b.Reached p t) : p.Plain := by
  induction reached with
  | root => exact ⟨rfl, rfl, fun x mem => (List.not_mem_nil mem).elim⟩
  | child _ enters _ _ ih => exact enters.plain ih
  | item outer enters gives _ ih =>
    obtain ⟨list, -⟩ := id gives
    obtain ⟨noItem, noIndex⟩ := unnamed _ (mem_walk_of_reach outer.reach) _ list
    obtain ⟨item, index⟩ := gives.eq_numbered noItem noIndex free
    exact (enters.plain ih).inLoop item index noItem noIndex
  | empty _ enters _ _ ih => exact enters.plain ih

theorem clear_of_unnamed (unnamed : b.Unnamed)
    (free : ∀ n, numbered "item" n ∉ b.names.reserved ∧ numbered "index" n ∉ b.names.reserved)
    (loops : b.Loops q l loop) : q.Clear l loop := by
  obtain ⟨reached, enters, gives⟩ := loops
  obtain ⟨list, -⟩ := id gives
  obtain ⟨noItem, noIndex⟩ := unnamed _ (mem_walk_of_reach reached.reach) _ list
  obtain ⟨item, index⟩ := gives.eq_numbered noItem noIndex free
  exact (enters.plain (reached.plain unnamed free)).clear item index

end Blueprint

namespace Module

/-- Rows of cells, whose inner template reads the item of both lists. -/
def grid : Normalized where
  document := {
    version := "1.2"
    logic := some { props := [("rows", { type := "array" })] }
    root := .node { id := "table", type := "ul",
                    list := some { source := .object [("$param", .str "rows")] } }
      [.node { id := "row", type := "li", data := some { source := .object [("$item", .str "")] },
               list := some { source := .object [("$data", .str "cells")] } }
        [.node { id := "cell", type := "span", text := .object [("$item", .str "")],
                 props := [("title", .object [("$data", .str "name")])] } []]] }
  diagnostics := []

/-- The markup for it. -/
def gridLines : List String :=
  ["<ul>", "  \x7basArray(rows).map((item, index) => (",
    "      <React.Fragment key=\x7bindex\x7d>", "        <li>",
    "          \x7basArray(item?.cells).map((item1, index1) => (",
    "              <React.Fragment key=\x7bindex1\x7d>",
    "                <span title=\x7bitem?.name\x7d>", "                  \x7bitem1\x7d",
    "                </span>", "              </React.Fragment>", "          ))\x7d",
    "        </li>", "      </React.Fragment>", "  ))\x7d", "</ul>"]

theorem grid_clear {names : Declared} (declared : Declared.ofDocument grid.document = .ok names)
    {q : Place} {l : ListDecl} {loop : Loop}
    (loops : Blueprint.Loops ⟨grid.document, names, .standard, .standard⟩ q l loop) :
    q.Clear l loop := by
  have reserved : names.reserved = ["rows", "rows"] := by
    have shown : (Declared.ofDocument grid.document).toOption.map (·.reserved) =
        some ["rows", "rows"] := by decide +kernel
    rw [declared] at shown
    exact Option.some.inj shown
  refine Blueprint.clear_of_unnamed (fun t mem l list => ?_) (fun n => ?_) loops
  · have one : t ∈ grid.document.root.walk := mem
    simp only [grid, Tree.walk, Tree.walkAll, List.append_nil, List.mem_cons, List.not_mem_nil,
      or_false] at one
    obtain rfl | rfl | rfl := one <;> cases list
    · exact ⟨rfl, rfl⟩
    · exact ⟨rfl, rfl⟩
  · have other {base : String} (differs : ¬ base.toList <+: "rows".toList) :
        numbered base n ∉ names.reserved := by
      intro mem
      have same : numbered base n = "rows" := by simpa [reserved] using mem
      exact differs (same ▸ prefix_numbered base n)
    exact ⟨other (by decide), other (by decide)⟩

theorem grid_faithful :
    ∃ m names, generate grid {} = .ok m ∧ m.root.lines 0 = gridLines ∧
      Declared.ofDocument grid.document = .ok names ∧
      m.Hygiene ⟨grid.document, names, .standard, .standard⟩ ∧
      ∀ p t, Blueprint.Reached ⟨grid.document, names, .standard, .standard⟩ p t -> p.Faithful := by
  have shown : (generate grid {}).toOption.map (fun m => m.root.lines 0) = some gridLines := by
    decide +kernel
  cases done : generate grid {} with
  | error fault =>
    rw [done] at shown
    cases shown
  | ok m =>
    rw [done] at shown
    obtain ⟨names, declared, hygiene⟩ := generate_hygiene done
    have faithful := hygiene.faithful fun q l loop loops => grid_clear declared loops
    exact ⟨m, names, rfl, Option.some.inj shown, declared, hygiene, faithful⟩

/-- A document in which the variable of a list is taken by the list within it: the component has a
parameter of the first name for items, so that the outer list goes on to the second, which the inner
list uses because of its depth. -/
def nestedLists : Value :=
  .object [("version", .str "1.2"),
    ("logic", .object [("props", .object [("item", .object [("type", .str "string")]),
      ("groups", .object [("type", .str "array")]), ("tags", .object [("type", .str "array")])])]),
    ("ui", .object [("root", .object [("id", .str "root"), ("type", .str "ul"),
      ("list", .object [("source", .object [("$param", .str "groups")])]),
      ("children", .list [.object [("id", .str "group"), ("type", .str "li"),
        ("data", .object [("source", .object [("$item", .str "")])]),
        ("list", .object [("source", .object [("$param", .str "tags")])]),
        ("children", .list [.object [("id", .str "tag"), ("type", .str "span"),
          ("text", .object [("$data", .str "name")])]])]])])])]

/-- Its canonical form. -/
def nestedListsDocument : CanonicalDocument where
  version := "1.2"
  logic := some { props := [("item", { type := "string" }), ("groups", { type := "array" }),
    ("tags", { type := "array" })] }
  root := .node { id := "root", type := "ul", path := "ui.root",
                  list := some { source := .object [("$param", .str "groups")] } }
    [.node { id := "group", type := "li", path := "ui.root.children[0]",
             data := some { source := .object [("$item", .str "")] },
             list := some { source := .object [("$param", .str "tags")] } }
      [.node { id := "tag", type := "span", path := "ui.root.children[0].children[0]",
               text := .object [("$data", .str "name")] } []]]

/-- What its component declares. -/
def nestedListsNames : Declared where
  props := [("item", { type := "string" }), ("groups", { type := "array" }),
    ("tags", { type := "array" })]
  reserved := ["item", "groups", "tags", "groups", "tags"]

/-- The place in the inner list, around its loop. -/
def nestedListsPlace : Place :=
  let outer : Layer := ⟨{ source := .object [("$param", .str "groups")] },
    { source := .members (.name "groups") [], item := "item1", index := "index" }⟩
  { layers := [outer], home := [outer],
    scope := { data := .members (.name "item1") [], item := some "item1", index := some "index",
               depth := 1 } }

/-- Its markup. -/
def nestedListsLines : List String :=
  ["<ul>", "  \x7basArray(groups).map((item1, index) => (",
    "      <React.Fragment key=\x7bindex\x7d>", "        <li>",
    "          \x7basArray(tags).map((item1, index1) => (",
    "              <React.Fragment key=\x7bindex1\x7d>", "                <span>",
    "                  \x7bitem1?.name\x7d", "                </span>",
    "              </React.Fragment>", "          ))\x7d", "        </li>",
    "      </React.Fragment>", "  ))\x7d", "</ul>"]

theorem nestedLists_loops :
    Blueprint.Loops ⟨nestedListsDocument, nestedListsNames, .standard, .standard⟩ nestedListsPlace
      { source := .object [("$param", .str "tags")] }
      { source := .members (.name "tags") [], item := "item1", index := "index1" } := by
  have inner : Blueprint.Reached ⟨nestedListsDocument, nestedListsNames, .standard, .standard⟩ _ _ :=
    .item .root (.intro (by decide +kernel) rfl) (.intro rfl rfl)
      (List.mem_filter.mpr ⟨List.mem_cons_self, by decide +kernel⟩)
  exact .intro inner (.intro (by decide +kernel) rfl) (.intro rfl rfl)

theorem nestedLists_unclear :
    (∃ r, Validation.ofValue nestedLists = .ok r ∧ r.issues = [] ∧ r.diagnostics = []) ∧
      ∃ m, normalize nestedLists = .ok ⟨nestedListsDocument, []⟩ ∧
        generate ⟨nestedListsDocument, []⟩ {} = .ok m ∧
        m.root.lines 0 = nestedListsLines ∧
        Declared.ofDocument nestedListsDocument = .ok nestedListsNames ∧
        ∃ q l loop,
          Blueprint.Loops ⟨nestedListsDocument, nestedListsNames, .standard, .standard⟩ q l loop ∧
            ¬ q.Clear l loop ∧ ¬ (q.inLoop l loop).Faithful := by
  have shown : (generate ⟨nestedListsDocument, []⟩ {}).toOption.map (fun m => m.root.lines 0) =
      some nestedListsLines := by
    decide +kernel
  cases done : generate ⟨nestedListsDocument, []⟩ {} with
  | error fault =>
    rw [done] at shown
    cases shown
  | ok m =>
    rw [done] at shown
    refine ⟨⟨_, rfl, rfl, rfl⟩, m, rfl, rfl, Option.some.inj shown, rfl, _, _, _, nestedLists_loops,
      fun clear => ?_, fun faithful => ?_⟩
    · have apart := clear.data "item1" List.mem_cons_self List.mem_cons_self
      exact apart.1 rfl
    · -- the outer list has declared the data, and the name now stands for the inner one
      have same := faithful.data "item1" List.mem_cons_self
      exact absurd same (by decide)

end Module

end ViewDoc.Tsx
