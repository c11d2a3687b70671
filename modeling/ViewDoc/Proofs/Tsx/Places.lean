import ViewDoc.Proofs.Tsx.Reserved
import ViewDoc.Tsx.Element
/-!
What the names of loops stand for at the places at which nodes are drafted. Code takes the innermost
loop that binds a name; a document takes, for the item and the index, the innermost list, and for a
given name the innermost list that gives it. Going into a node changes nothing; going into a
template keeps every name faithful exactly if the variables of the loop are clear: different from
each other, and from the variables of loops around it that are still in use. The main statement is
that the names in all templates that drafting reaches are faithful exactly if the variables of all
loops are clear.
-/

set_option autoImplicit false

namespace ViewDoc.Tsx

/-- The two variables of a loop. -/
inductive Role where
  | item
  | index
  deriving DecidableEq, Repr

/-- A variable of one of several nested loops. -/
structure LoopVariable where
  /-- The number of loops around its own. -/
  level : Nat
  role : Role
  deriving DecidableEq, Repr

/-- A list as it is declared, and the loop that is drafted for it. -/
structure Layer where
  list : ListDecl
  loop : Loop

namespace Layer

/-- What a name stands for inside of loops, the innermost of which comes first. A loop that binds it
twice is no code, so that it stands for nothing. -/
def standsFor : List Layer -> String -> Option LoopVariable
  | [], _ => none
  | layer :: outer, x =>
    if layer.loop.item = x then
      if layer.loop.index = x then none else some ⟨outer.length, .item⟩
    else if layer.loop.index = x then some ⟨outer.length, .index⟩
    else standsFor outer x

/-- What a word is meant to stand for: a variable of the innermost list that gives it. -/
def introduced : List Layer -> String -> Option LoopVariable
  | [], _ => none
  | layer :: outer, word =>
    if Scope.givenName? layer.list.indexAs = some word then some ⟨outer.length, .index⟩
    else if Scope.givenName? layer.list.itemAs = some word then some ⟨outer.length, .item⟩
    else introduced outer word

/-- The item or the index of the innermost list. -/
def innermost (role : Role) : List Layer -> Option LoopVariable
  | [] => none
  | _ :: outer => some ⟨outer.length, role⟩

/-- The variables of loops. -/
def variablesOf (layers : List Layer) : List String :=
  layers.flatMap fun layer => [layer.loop.item, layer.loop.index]

variable {layer : Layer} {layers outer : List Layer} {x word : String} {v : LoopVariable}

theorem standsFor_cons_of_ne (item : x ≠ layer.loop.item) (index : x ≠ layer.loop.index) :
    standsFor (layer :: outer) x = standsFor outer x := by
  rw [standsFor, if_neg item.symm, if_neg index.symm]

theorem standsFor_item (apart : layer.loop.item ≠ layer.loop.index) :
    standsFor (layer :: outer) layer.loop.item = some ⟨outer.length, .item⟩ := by
  rw [standsFor, if_pos rfl, if_neg apart.symm]

theorem standsFor_index (apart : layer.loop.item ≠ layer.loop.index) :
    standsFor (layer :: outer) layer.loop.index = some ⟨outer.length, .index⟩ := by
  rw [standsFor, if_neg apart, if_pos rfl]

theorem standsFor_item_eq_none (same : layer.loop.item = layer.loop.index) :
    standsFor (layer :: outer) layer.loop.item = none := by
  rw [standsFor, if_pos rfl, if_pos same.symm]

theorem level_lt_of_standsFor (found : standsFor layers x = some v) : v.level < layers.length := by
  induction layers with
  | nil => cases found
  | cons layer outer ih =>
    have within : standsFor outer x = some v -> v.level < outer.length + 1 :=
      fun found => Nat.lt_succ_of_lt (ih found)
    rw [standsFor] at found
    split at found
    · split at found
      · cases found
      · cases found
        exact Nat.lt_succ_self _
    · split at found
      · cases found
        exact Nat.lt_succ_self _
      · exact within found

theorem level_lt_of_introduced (given : introduced layers word = some v) :
    v.level < layers.length := by
  induction layers with
  | nil => cases given
  | cons layer outer ih =>
    rw [introduced] at given
    split at given
    · cases given
      exact Nat.lt_succ_self _
    · split at given
      · cases given
        exact Nat.lt_succ_self _
      · exact Nat.lt_succ_of_lt (ih given)

/-- A word that the innermost list does not give is meant as it is around this list. -/
theorem introduced_cons_of_ne (item : Scope.givenName? layer.list.itemAs ≠ some word)
    (index : Scope.givenName? layer.list.indexAs ≠ some word) :
    introduced (layer :: outer) word = introduced outer word := by
  rw [introduced, if_neg index, if_neg item]

/-- A variable of the innermost loop stands for none of the loops around it. -/
theorem standsFor_ne_of_level_lt (apart : layer.loop.item ≠ layer.loop.index)
    (own : x = layer.loop.item ∨ x = layer.loop.index) {meant : Option LoopVariable}
    (further : ∀ v, meant = some v -> v.level < outer.length) :
    standsFor (layer :: outer) x ≠ meant := by
  intro same
  obtain rfl | rfl := own
  · rw [standsFor_item apart] at same
    exact Nat.lt_irrefl _ (further _ same.symm)
  · rw [standsFor_index apart] at same
    exact Nat.lt_irrefl _ (further _ same.symm)

end Layer

/-- A place: the lists around it, innermost first; those of them that are around the node whose
declaration gives the data scope; and the scope. -/
structure Place where
  layers : List Layer := []
  home : List Layer := []
  scope : Scope := {}

theorem Scope.get?_named (known : List (String × String)) (given : Option String)
    (x word : String) :
    Entries.get? (match given with
      | some word => Entries.set known word x
      | none => known) word = if given = some word then some x else Entries.get? known word := by
  cases given with
  | none => rfl
  | some other =>
    by_cases same : other = word
    · rw [if_pos (congrArg some same), same]
      exact Entries.get?_set_self known word x
    · rw [if_neg fun equal => same (Option.some.inj equal)]
      exact Entries.get?_set_of_ne known x (Ne.symm same)

theorem Scope.get?_aliases_inLoop (scope : Scope) (l : ListDecl) (item index word : String) :
    Entries.get? (scope.inLoop l item index).aliases word =
      if givenName? l.indexAs = some word then some index
      else if givenName? l.itemAs = some word then some item
      else Entries.get? scope.aliases word :=
  (get?_named _ _ _ word).trans (congrArg _ (get?_named _ _ _ word))

namespace Place

open Layer (standsFor introduced innermost variablesOf)

/-- The place inside of a node, with the expression for its data scope. -/
def within (p : Place) (n : CanonicalFields) (data : Expr) : Place :=
  { p with home := if n.data.isSome then p.layers else p.home, scope := { p.scope with data } }

/-- The place in the template of a list. -/
def inLoop (p : Place) (l : ListDecl) (loop : Loop) : Place :=
  { layers := ⟨l, loop⟩ :: p.layers, home := p.home,
    scope := p.scope.inLoop l loop.item loop.index }

/-- Every name of the scope stands for what it is meant to stand for. The names of the data scope are
meant as they are where it is declared. -/
structure Faithful (p : Place) : Prop where
  item : p.scope.item.bind (standsFor p.layers) = innermost .item p.layers
  index : p.scope.index.bind (standsFor p.layers) = innermost .index p.layers
  aliases : ∀ word,
    (Entries.get? p.scope.aliases word).bind (standsFor p.layers) = introduced p.layers word
  data : ∀ x ∈ p.scope.data.names, standsFor p.layers x = standsFor p.home x

/-- The variables of a loop differ, and neither is the variable of a loop around it to which a word
that the list does not give, or the data scope, still refers. -/
structure Clear (p : Place) (l : ListDecl) (loop : Loop) : Prop where
  apart : loop.item ≠ loop.index
  aliases : ∀ word x, Scope.givenName? l.itemAs ≠ some word -> Scope.givenName? l.indexAs ≠ some word ->
    Entries.get? p.scope.aliases word = some x -> x ≠ loop.item ∧ x ≠ loop.index
  data : ∀ x ∈ p.scope.data.names, x ∈ variablesOf p.layers -> x ≠ loop.item ∧ x ≠ loop.index

/-- What holds of every place that is reached. -/
structure Regular (reserved : List String) (p : Place) : Prop where
  inside : p.scope.names ⊆ reserved ++ variablesOf p.layers
  nested : p.home.length ≤ p.layers.length

variable {p : Place} {names : Declared} {reserved : List String} {n : CanonicalFields}
  {data : Expr} {notes : List Note} {path : String} {l : ListDecl} {loop : Loop}

theorem faithful_root : ({} : Place).Faithful :=
  ⟨rfl, rfl, fun _ => rfl, fun _ mem => (List.not_mem_nil mem).elim⟩

theorem regular_root : ({} : Place).Regular reserved :=
  ⟨List.nil_subset _, Nat.le_refl 0⟩

theorem Faithful.within (faithful : p.Faithful)
    (drafted : Draft.dataScope names p.scope path n.data = .ok (data, notes)) :
    (p.within n data).Faithful := by
  refine ⟨faithful.item, faithful.index, faithful.aliases, fun x mem => ?_⟩
  cases declared : n.data with
  | none =>
    rw [declared] at drafted
    have kept : data = p.scope.data := Noted.eq_of_pure_ok drafted
    rw [Place.within, declared]
    rw [Place.within, kept] at mem
    exact faithful.data x mem
  | some d =>
    rw [Place.within, declared]
    rfl

theorem Regular.within (regular : p.Regular reserved) (own : names.own ⊆ reserved)
    (read : ∀ param ∈ (n.data.map DataDecl.reads).getD [], identifier param ∈ reserved)
    (drafted : Draft.dataScope names p.scope path n.data = .ok (data, notes)) :
    (p.within n data).Regular reserved := by
  have known : data.names ⊆ reserved ++ variablesOf p.layers := by
    have wider : names.own ⊆ reserved ++ variablesOf p.layers :=
      List.subset_append_of_subset_left _ own
    have account : Draft.Account names _ (fun _ => True) _ _ data notes :=
      Draft.reads_dataScope wider regular.inside path n.data data notes drafted
    refine account.result fun param mem => List.mem_append_left _ ?_
    exact read param (List.mem_filter.mp mem).1
  have around : p.scope.loopNames ⊆ reserved ++ variablesOf p.layers :=
    Scope.loopNames_subset regular.inside
  refine ⟨List.append_subset.mpr ⟨known, around⟩, ?_⟩
  rw [Place.within]
  dsimp only
  split
  · exact Nat.le_refl _
  · exact regular.nested

theorem Regular.inLoop (regular : p.Regular reserved) (l : ListDecl) (loop : Loop) :
    (p.inLoop l loop).Regular reserved := by
  refine ⟨fun x mem => ?_, Nat.le_succ_of_le regular.nested⟩
  have found := Scope.inLoop_subset regular.inside l loop.item loop.index mem
  have bound : variablesOf (p.inLoop l loop).layers =
      loop.item :: loop.index :: variablesOf p.layers := rfl
  rw [bound]
  simp only [List.mem_cons, List.mem_append] at found ⊢
  obtain item | index | held | around := found
  · exact .inr (.inl item)
  · exact .inr (.inr (.inl index))
  · exact .inl held
  · exact .inr (.inr (.inr around))

/-- A name that stands for a variable of a loop further out, or for none, is not one that the loop
brings. -/
theorem ne_of_further {x : String} {meant : Option LoopVariable}
    (apart : loop.item ≠ loop.index) (same : standsFor (⟨l, loop⟩ :: p.layers) x = meant)
    (further : ∀ v, meant = some v -> v.level < p.layers.length) :
    x ≠ loop.item ∧ x ≠ loop.index := by
  refine not_or.mp fun own => ?_
  have differs : standsFor (⟨l, loop⟩ :: p.layers) x ≠ meant :=
    Layer.standsFor_ne_of_level_lt apart own further
  exact differs same

/-- Names that are faithful in the template of a list are clear of the variables of its loop. -/
theorem Faithful.clear (kept : (p.inLoop l loop).Faithful) (regular : p.Regular reserved) :
    p.Clear l loop := by
  have apart : loop.item ≠ loop.index := by
    intro same
    have none : standsFor (⟨l, loop⟩ :: p.layers) loop.item = none :=
      Layer.standsFor_item_eq_none same
    exact absurd (none.symm.trans kept.item) nofun
  refine ⟨apart, fun word x noItem noIndex known => ?_, fun x mem _ => ?_⟩
  · have meant := kept.aliases word
    have found : Entries.get? (p.inLoop l loop).scope.aliases word = some x := by
      rw [Place.inLoop, Scope.get?_aliases_inLoop, if_neg noIndex, if_neg noItem, known]
    rw [found] at meant
    have around : introduced (p.inLoop l loop).layers word = introduced p.layers word :=
      Layer.introduced_cons_of_ne noItem noIndex
    rw [around] at meant
    exact ne_of_further apart meant fun v given => Layer.level_lt_of_introduced given
  · refine ne_of_further apart (kept.data x mem) fun v found => ?_
    exact Nat.lt_of_lt_of_le (Layer.level_lt_of_standsFor found) regular.nested

/-- Names stay faithful in the template of a list when they are clear of the variables of its
loop. -/
theorem Faithful.inLoop (faithful : p.Faithful) (regular : p.Regular reserved)
    (item : loop.item ∉ reserved) (index : loop.index ∉ reserved) (clear : p.Clear l loop) :
    (p.inLoop l loop).Faithful := by
  have apart := clear.apart
  refine ⟨Layer.standsFor_item apart, Layer.standsFor_index apart, fun word => ?_, ?_⟩
  · rw [Place.inLoop, Scope.get?_aliases_inLoop, introduced]
    split
    · exact Layer.standsFor_index apart
    · split
      · exact Layer.standsFor_item apart
      · rename_i noIndex noItem
        rw [← faithful.aliases word]
        cases known : Entries.get? p.scope.aliases word with
        | none => rfl
        | some x =>
          obtain ⟨noItem, noIndex⟩ := clear.aliases word x noItem noIndex known
          exact Layer.standsFor_cons_of_ne noItem noIndex
  · intro x mem
    have clean : x ≠ loop.item ∧ x ≠ loop.index := by
      obtain held | around := List.mem_append.mp (Scope.data_subset regular.inside mem)
      · exact ⟨fun same => item (same ▸ held), fun same => index (same ▸ held)⟩
      · exact clear.data x mem around
    have kept : standsFor (⟨l, loop⟩ :: p.layers) x = standsFor p.layers x :=
      Layer.standsFor_cons_of_ne clean.1 clean.2
    exact kept.trans (faithful.data x mem)

/-- Where the names of a scope are faithful they are so in the template of a list exactly if the
variables of its loop are clear. -/
theorem Faithful.inLoop_iff (faithful : p.Faithful) (regular : p.Regular reserved)
    (item : loop.item ∉ reserved) (index : loop.index ∉ reserved) :
    (p.inLoop l loop).Faithful ↔ p.Clear l loop :=
  ⟨fun kept => kept.clear regular, faithful.inLoop regular item index⟩

end Place

open Relation (ReflTransGen)

namespace Blueprint

/-- A node is drafted at a place, and what its markup holds is drafted at another. -/
inductive Enters (b : Blueprint) (p : Place) (t : CanonicalNode) : Place -> Prop where
  | intro {data : Expr} {notes : List Note} (inside : b.isVoid t = false)
      (drafted : Draft.dataScope b.names p.scope t.value.path t.value.data = .ok (data, notes)) :
      Enters b p t (p.within t.value data)

/-- A node is a list that is drafted at a place with this loop. -/
inductive Gives (b : Blueprint) (q : Place) (t : CanonicalNode) (l : ListDecl) (loop : Loop) :
    Prop where
  | intro {notes : List Note} (list : t.value.list = some l)
      (drafted : Draft.loop b.names q.scope t.value.path l = .ok (loop, notes)) :
      Gives b q t l loop

/-- The nodes that are drafted, each at its place. -/
inductive Reached (b : Blueprint) : Place -> CanonicalNode -> Prop where
  | root : Reached b {} b.document.root
  | child {p q : Place} {t c : CanonicalNode} (outer : Reached b p t) (enters : b.Enters p t q)
      (list : t.value.list = none) (below : c ∈ t.children) : Reached b q c
  | item {p q : Place} {t c : CanonicalNode} {l : ListDecl} {loop : Loop} (outer : Reached b p t)
      (enters : b.Enters p t q) (gives : b.Gives q t l loop)
      (below : c ∈ Draft.template l t.children) : Reached b (q.inLoop l loop) c
  | empty {p q : Place} {t c : CanonicalNode} {l : ListDecl} (outer : Reached b p t)
      (enters : b.Enters p t q) (list : t.value.list = some l)
      (found : Draft.emptyNode? b.document l = some c) : Reached b q c

/-- The lists that are drafted, each with its loop and the place around the loop. -/
inductive Loops (b : Blueprint) (q : Place) (l : ListDecl) (loop : Loop) : Prop where
  | intro {p : Place} {t : CanonicalNode} (reached : b.Reached p t) (enters : b.Enters p t q)
      (gives : b.Gives q t l loop) : Loops b q l loop

variable {b : Blueprint} {p q : Place} {t : CanonicalNode} {l : ListDecl} {loop : Loop}

theorem Enters.inside (enters : b.Enters p t q) : b.isVoid t = false := by
  obtain ⟨inside, -⟩ := enters
  exact inside

theorem Enters.layers_eq (enters : b.Enters p t q) : q.layers = p.layers := by
  obtain ⟨-, -⟩ := enters
  rfl

theorem Enters.unique {r : Place} (enters : b.Enters p t q) (again : b.Enters p t r) : q = r := by
  obtain ⟨-, drafted⟩ := enters
  obtain ⟨-, same⟩ := again
  obtain ⟨rfl, -⟩ := Prod.mk.inj (Except.ok.inj (drafted.symm.trans same))
  rfl

theorem Gives.variables_eq (gives : b.Gives q t l loop) :
    loop.item = Scope.variableFor b.names.reserved q.scope.depth "item"
        (Scope.givenName? l.itemAs) ∧
      loop.index = Scope.variableFor b.names.reserved q.scope.depth "index"
        (Scope.givenName? l.indexAs) := by
  obtain ⟨-, drafted⟩ := gives
  obtain ⟨source, _, -, drafted⟩ := Noted.exists_of_bind_ok drafted
  dsimp only at drafted
  cases key : l.keyBy.word? <;> rw [key] at drafted <;>
    obtain ⟨key, _, -, drafted⟩ := Noted.exists_of_bind_ok drafted
  all_goals
    have whole := Noted.eq_of_pure_ok drafted
    exact ⟨congrArg Loop.item whole, congrArg Loop.index whole⟩

theorem Gives.not_mem_reserved (gives : b.Gives q t l loop) :
    loop.item ∉ b.names.reserved ∧ loop.index ∉ b.names.reserved := by
  obtain ⟨item, index⟩ := gives.variables_eq
  rw [item, index]
  exact ⟨freshName_not_mem _ _, freshName_not_mem _ _⟩

theorem Reached.reach (reached : b.Reached p t) : ReflTransGen b.Holds b.document.root t := by
  induction reached with
  | root => exact .refl
  | child _ enters list below ih =>
    obtain ⟨inside, -⟩ := enters
    exact .tail ih (.child inside list below)
  | item _ enters gives below ih =>
    obtain ⟨inside, -⟩ := enters
    obtain ⟨list, -⟩ := gives
    exact .tail ih (.item inside list below)
  | empty _ enters list found ih =>
    obtain ⟨inside, -⟩ := enters
    exact .tail ih (.empty inside list found)

theorem Enters.regular (declared : Declared.ofDocument b.document = .ok b.names)
    (reached : b.Reached p t) (regular : p.Regular b.names.reserved) (enters : b.Enters p t q) :
    q.Regular b.names.reserved := by
  obtain ⟨ps, named, held⟩ := Declared.exists_paramsOf_ok declared (mem_walk_of_reach reached.reach)
  obtain ⟨-, drafted⟩ := enters
  refine regular.within (Declared.own_subset_reserved declared) (fun param mem => ?_) drafted
  exact held param (data_reads_subset named mem)

theorem Reached.regular (declared : Declared.ofDocument b.document = .ok b.names)
    (reached : b.Reached p t) : p.Regular b.names.reserved := by
  induction reached with
  | root => exact Place.regular_root
  | child outer enters _ _ ih => exact enters.regular declared outer ih
  | item outer enters _ _ ih => exact (enters.regular declared outer ih).inLoop _ _
  | empty outer enters _ _ ih => exact enters.regular declared outer ih

theorem Loops.regular (declared : Declared.ofDocument b.document = .ok b.names)
    (loops : b.Loops q l loop) : q.Regular b.names.reserved := by
  obtain ⟨reached, enters, -⟩ := loops
  exact enters.regular declared reached (reached.regular declared)

theorem Enters.faithful (enters : b.Enters p t q) (faithful : p.Faithful) : q.Faithful := by
  obtain ⟨-, drafted⟩ := enters
  exact faithful.within drafted

/-- Names can lose what they stand for only where a loop is entered. -/
theorem Reached.faithful
    (step : ∀ q l loop, b.Loops q l loop -> q.Faithful -> (q.inLoop l loop).Faithful)
    (reached : b.Reached p t) : p.Faithful := by
  induction reached with
  | root => exact Place.faithful_root
  | child _ enters _ _ ih => exact enters.faithful ih
  | item outer enters gives _ ih => exact step _ _ _ ⟨outer, enters, gives⟩ (enters.faithful ih)
  | empty _ enters _ _ ih => exact enters.faithful ih

theorem Loops.faithful
    (step : ∀ q l loop, b.Loops q l loop -> q.Faithful -> (q.inLoop l loop).Faithful)
    (loops : b.Loops q l loop) : q.Faithful := by
  obtain ⟨reached, enters, -⟩ := loops
  exact enters.faithful (reached.faithful step)

/-- The names in all templates are faithful exactly if the variables of all loops are clear. -/
theorem faithful_iff_clear (declared : Declared.ofDocument b.document = .ok b.names) :
    (∀ q l loop, b.Loops q l loop -> (q.inLoop l loop).Faithful) ↔
      ∀ q l loop, b.Loops q l loop -> q.Clear l loop := by
  have step {q : Place} {l : ListDecl} {loop : Loop} (loops : b.Loops q l loop)
      (faithful : q.Faithful) : (q.inLoop l loop).Faithful ↔ q.Clear l loop := by
    obtain ⟨-, -, gives⟩ := id loops
    obtain ⟨item, index⟩ := gives.not_mem_reserved
    exact faithful.inLoop_iff (loops.regular declared) item index
  constructor
  · intro templates q l loop loops
    have around := loops.faithful fun q l loop loops _ => templates q l loop loops
    exact (step loops around).mp (templates q l loop loops)
  · intro clear q l loop loops
    have around := loops.faithful fun q l loop loops faithful =>
      (step loops faithful).mpr (clear q l loop loops)
    exact (step loops around).mpr (clear q l loop loops)

end Blueprint

end ViewDoc.Tsx
