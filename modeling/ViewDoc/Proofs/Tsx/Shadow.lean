import ViewDoc.Proofs.Tsx.Hygiene
/-!
Loop variables beside the names that a component binds. A variable is searched for by numbers, and
the search comes to an end whatever is taken. The main statement is that the variables of every loop
in the markup are found by this search, and that none of them is a parameter, a state variable or a
setter, also where a parameter is first read behind the loop.
-/

set_option autoImplicit false

namespace ViewDoc.Tsx

/-- The search for a name that is not taken, by the numbers from one on. -/
inductive Search (taken : List String) (base : String) : Nat -> String -> Prop where
  | ends {n : Nat} : numbered base n ∉ taken -> Search taken base n (numbered base n)
  | goesOn {n : Nat} {x : String} : numbered base n ∈ taken -> Search taken base (n + 1) x ->
      Search taken base n x

variable {taken : List String} {base x y : String} {n : Nat}

theorem Search.not_mem (search : Search taken base n x) : x ∉ taken := by
  induction search with
  | ends free => exact free
  | goesOn _ _ ih => exact ih

theorem Search.unique (search : Search taken base n x) (again : Search taken base n y) : x = y := by
  induction search with
  | ends free =>
    cases again with
    | ends => rfl
    | goesOn occupied => exact absurd occupied free
  | goesOn occupied _ ih =>
    cases again with
    | ends free => exact absurd occupied free
    | goesOn _ later => exact ih later

/-- A search passes over the names that are taken, and ends at the first that is not. -/
theorem search_of_le {m : Nat} (le : n ≤ m) (free : numbered base m ∉ taken)
    (occupied : ∀ k, n ≤ k -> k < m -> numbered base k ∈ taken) :
    Search taken base n (numbered base m) := by
  obtain ⟨d, rfl⟩ := Nat.exists_eq_add_of_le le
  induction d generalizing n with
  | zero => exact .ends free
  | succ d ih =>
    have moved : n + (d + 1) = n + 1 + d := by omega
    rw [moved] at free occupied ⊢
    refine .goesOn (occupied n (Nat.le_refl n) (by omega)) (ih (by omega) free fun k above => ?_)
    exact occupied k (Nat.le_of_succ_le above)

/-- The search from the name itself ends, and a fresh name is what it ends with. -/
theorem search_freshName (taken : List String) (base : String) :
    Search taken base 0 (freshName taken base) := by
  have free := freshName_not_mem taken base
  rw [freshName, List.find?_map] at free ⊢
  cases found : (List.range (taken.length + 1)).find?
      ((fun name => !taken.contains name) ∘ numbered base) with
  | some m =>
    rw [found] at free
    obtain ⟨-, -, below⟩ := List.find?_range_eq_some.mp found
    refine search_of_le (Nat.zero_le m) free fun k _ lower => ?_
    simpa using below k lower
  | none =>
    rw [found] at free
    exact .ends free

/-- The name that a loop variable has where it is not taken. -/
def Scope.wanted (depth : Nat) (usual : String) (given : Option String) : String :=
  match given with
  | some name => identifier name
  | none => numbered usual depth

namespace Blueprint

variable {b : Blueprint} {p q : Place} {t : CanonicalNode} {l : ListDecl} {loop : Loop}

theorem Gives.search (gives : b.Gives q t l loop) :
    Search b.names.reserved
        (Scope.wanted q.scope.depth "item" (Scope.givenName? l.itemAs)) 0 loop.item ∧
      Search b.names.reserved
        (Scope.wanted q.scope.depth "index" (Scope.givenName? l.indexAs)) 0 loop.index := by
  obtain ⟨item, index⟩ := gives.variables_eq
  rw [item, index]
  exact ⟨search_freshName _ _, search_freshName _ _⟩

/-- A list that is drafted has a loop. -/
theorem Shows.exists_loop {whole : Markup} (shows : b.Shows whole p t) (isVoid : b.isVoid t = false)
    (list : t.value.list = some l) : ∃ q loop, b.Enters p t q ∧ b.Gives q t l loop := by
  obtain ⟨budget, r, drafted, -⟩ := shows
  obtain ⟨isVoid', -⟩ | ⟨q, less, -, -, -, inner, notes, enters, -, -, held⟩ :=
    Draft.element_of_node_ok drafted
  · exact absurd (isVoid.symm.trans isVoid') nofun
  · rw [Draft.content, list] at held
    obtain ⟨r, listed, -⟩ := Draft.exists_singleton_of_map_ok held
    obtain ⟨loop, _, _, _, made, -⟩ := Draft.exists_of_loop_ok listed
    exact ⟨q, loop, enters, list, made⟩

end Blueprint

namespace Module

variable {source : Normalized} {options : Options} {m : Module}

/-- A name is none of those that the body of a component binds. -/
structure Unbound (m : Module) (x : String) : Prop where
  parameters : ∀ p ∈ m.parameters, p.name ≠ x
  state : ∀ s ∈ m.state, s.name ≠ x
  setters : ∀ s ∈ m.state, setter s.name ≠ x

theorem unbound_of_not_mem {x : String} (free : x ∉ m.bound) : m.Unbound x := by
  refine ⟨fun p mem same => free ?_, fun s mem same => free ?_, fun s mem same => free ?_⟩
  · exact List.mem_append_left _ (List.mem_append_left _ (List.mem_map.mpr ⟨p, mem, same⟩))
  · exact List.mem_append_left _ (List.mem_append_right _ (List.mem_map.mpr ⟨s, mem, same⟩))
  · exact List.mem_append_right _ (List.mem_map.mpr ⟨s, mem, same⟩)

/-- The loops of a module and their variables. -/
structure Unshadowed (b : Blueprint) (m : Module) : Prop where
  /-- Every list that is drafted has its loop in the markup. -/
  looped : ∀ p t l, b.Reached p t -> b.isVoid t = false -> t.value.list = some l ->
    ∃ q loop, b.Enters p t q ∧ b.Gives q t l loop ∧ m.root.Nests (q.layers.map (·.loop)) loop
  /-- Every loop in the markup is that of a list, with the first names that are not reserved. -/
  searched : ∀ loops loop, m.root.Nests loops loop -> ∃ q l, b.Loops q l loop ∧
    q.layers.map (·.loop) = loops ∧
    Search b.names.reserved
      (Scope.wanted q.scope.depth "item" (Scope.givenName? l.itemAs)) 0 loop.item ∧
    Search b.names.reserved
      (Scope.wanted q.scope.depth "index" (Scope.givenName? l.indexAs)) 0 loop.index
  unbound : ∀ loops loop, m.root.Nests loops loop -> m.Unbound loop.item ∧ m.Unbound loop.index

/-- The search for the variables of loops always ends, and loops hide nothing that the component
binds. -/
theorem generate_unshadowed (done : generate source options = .ok m) :
    (∀ taken base, ∃ x, Search taken base 0 x) ∧
      ∃ names, Declared.ofDocument source.document = .ok names ∧
        m.Unshadowed ⟨source.document, names, options.registry, options.icons⟩ := by
  refine ⟨fun taken base => ⟨_, search_freshName taken base⟩, ?_⟩
  obtain ⟨names, notes, made⟩ := exists_made done
  refine ⟨names, made.declared, fun p t l reached isVoid list => ?_, fun loops loop nests => ?_,
    fun loops loop nests => ?_⟩
  · obtain ⟨q, loop, enters, gives⟩ := (reached.shows made.drafted).exists_loop isVoid list
    exact ⟨q, loop, enters, gives, (made.nests_iff _ _).mpr ⟨q, l, ⟨reached, enters, gives⟩, rfl⟩⟩
  · obtain ⟨q, l, listed, around⟩ := (made.nests_iff loops loop).mp nests
    obtain ⟨-, -, gives⟩ := id listed
    exact ⟨q, l, listed, around, gives.search⟩
  · obtain ⟨q, l, ⟨-, -, gives⟩, -⟩ := (made.nests_iff loops loop).mp nests
    obtain ⟨item, index⟩ := gives.search
    exact ⟨unbound_of_not_mem fun mem => item.not_mem (made.bound_subset_reserved mem),
      unbound_of_not_mem fun mem => index.not_mem (made.bound_subset_reserved mem)⟩

/-- A list whose variables ask for the name of a setter, and for that of a parameter that is not
declared and first read behind the list. -/
def tallies : Normalized where
  document := {
    version := "1.2"
    logic := some { props := [("rows", { type := "array" })],
                    state := [("count", { type := "number", initial := .int 0 })] }
    root := .node { id := "page", type := "div" } [
      .node { id := "table", type := "ul",
              list := some { source := .object [("$param", .str "rows")], itemAs := .str "unit",
                             indexAs := .str "setCount" } }
        [.node { id := "row", type := "li", text := .object [("$item", .str "name")] } []],
      .node { id := "foot", type := "p", text := .object [("$param", .str "unit")] } []] }
  diagnostics := []

/-- The markup for it. -/
def talliesLines : List String :=
  ["<div>", "  <ul>", "    \x7basArray(rows).map((unit1, setCount1) => (",
    "        <React.Fragment key=\x7bsetCount1\x7d>", "          <li>",
    "            \x7bunit1?.name\x7d", "          </li>", "        </React.Fragment>", "    ))\x7d",
    "  </ul>", "  <p>", "    \x7bunit\x7d", "  </p>", "</div>"]

theorem tallies_unshadowed :
    ∃ m names, generate tallies {} = .ok m ∧ m.root.lines 0 = talliesLines ∧
      m.bound = ["rows", "unit", "count", "setCount"] ∧
      Declared.ofDocument tallies.document = .ok names ∧
      m.Unshadowed ⟨tallies.document, names, .standard, .standard⟩ := by
  have shown : (generate tallies {}).toOption.map (fun m => (m.root.lines 0, m.bound)) =
      some (talliesLines, ["rows", "unit", "count", "setCount"]) := by
    decide +kernel
  cases done : generate tallies {} with
  | error fault =>
    rw [done] at shown
    cases shown
  | ok m =>
    rw [done] at shown
    obtain ⟨lines, bound⟩ := Prod.mk.inj (Option.some.inj shown)
    obtain ⟨-, names, declared, unshadowed⟩ := generate_unshadowed done
    exact ⟨m, names, rfl, lines, bound, declared, unshadowed⟩

end Module

end ViewDoc.Tsx
