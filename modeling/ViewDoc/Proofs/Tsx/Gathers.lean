import ViewDoc.Proofs.Tsx.Closed
import ViewDoc.Proofs.Value.FirstBy
/-!
What drafting gathers. The notes of a drafted node amount to what it asks for on its own, followed by
what the nodes ask for that its markup holds. So the imports of a module are those of the nodes that
are drafted, each once, and its stylesheets are those that these nodes list, the first at each path.
-/

set_option autoImplicit false

namespace ViewDoc.Tsx

open Relation (ReflTransGen)

variable {γ : Type}

namespace Note

/-- The imports that a note asks for. -/
def imported : Note -> List ImportSpec
  | .imports specs => specs
  | _ => []

/-- The stylesheets that a note carries along. -/
def carried : Note -> List Stylesheet
  | .stylesheet sheet => [sheet]
  | _ => []

theorem importSpecs_eq_firstBy (notes : List Note) :
    importSpecs notes = firstBy ImportSpec.identity (notes.flatMap imported) := by
  have asked : imported = fun n => match n with
      | .imports specs => specs
      | _ => [] := by
    funext n
    cases n <;> rfl
  rw [asked]
  rfl

theorem stylesheets_eq_firstBy (notes : List Note) :
    stylesheets notes = firstBy (·.path) (notes.flatMap carried) := by
  induction notes using List.reverseRecOn with
  | nil => rfl
  | append_singleton notes n ih =>
    rw [List.flatMap_append, List.flatMap_singleton]
    cases n with
    | stylesheet sheet =>
      rw [carried, firstBy_concat, ← ih, stylesheets, List.foldl_append]
      rfl
    | _ =>
      change stylesheets _ = firstBy _ (_ ++ [])
      rw [List.append_nil, ← ih, stylesheets, List.foldl_append]
      rfl

/-- What notes amount to, where the reports do not count. -/
structure Quiet (f : Note -> List γ) : Prop where
  report : ∀ d, f (.report d) = []
  undeclared : ∀ param path, f (.undeclared param path) = []

theorem imported_quiet : Quiet imported :=
  ⟨fun _ => rfl, fun _ _ => rfl⟩

theorem carried_quiet : Quiet carried :=
  ⟨fun _ => rfl, fun _ _ => rfl⟩

end Note

/-- The stylesheets that props list, unless the element does not take them. -/
def Stylesheet.listed (omitted : List String) (props : Entries) : List Stylesheet :=
  props.flatMap fun p =>
    if omitted.contains p.1 then []
    else if p.1 = stylesheetProp then
      match p.2 with
      | .list items => items.filterMap Stylesheet.ofValue?
      | _ => []
    else []

namespace Blueprint

/-- The imports of a node on its own. -/
def imports (b : Blueprint) (t : CanonicalNode) : List ImportSpec :=
  (b.registry.resolve b.icons t.value).imports

/-- The stylesheets of a node on its own. -/
def sheets (b : Blueprint) (t : CanonicalNode) : List Stylesheet :=
  Stylesheet.listed (b.registry.resolve b.icons t.value).omitProps t.value.props

/-- What the notes on a node amount to that are its own. -/
def asks (b : Blueprint) (f : Note -> List γ) (t : CanonicalNode) : List γ :=
  f (.imports (b.imports t)) ++ (b.sheets t).flatMap fun s => f (.stylesheet s)

theorem asks_imported (b : Blueprint) (t : CanonicalNode) : b.asks Note.imported t = b.imports t := by
  simp [asks, Note.imported]

theorem asks_carried (b : Blueprint) (t : CanonicalNode) : b.asks Note.carried t = b.sheets t := by
  simp [asks, Note.carried]

/-- What the module of a document is drafted from. -/
abbrev ofSource (source : Normalized) (options : Options) (names : Declared) : Blueprint :=
  ⟨source.document, names, options.registry, options.icons⟩

/-- A node is the root, or the markup of the root holds it, directly or not. -/
def Includes (b : Blueprint) (t : CanonicalNode) : Prop :=
  ReflTransGen b.Holds b.document.root t

end Blueprint

namespace Draft

variable {α β : Type} {f : Note -> List γ} {xs ys : List γ}

/-- Where a draft is made, its notes amount to these items. -/
def Gathers (f : Note -> List γ) (xs : List γ) (x : Draft α) : Prop :=
  ∀ a notes, x = .ok (a, notes) -> notes.flatMap f = xs

namespace Gathers

theorem pure (a : α) : Gathers f [] (pure a : Draft α) := by
  intro _ _ done
  cases done
  rfl

theorem note (n : Note) : Gathers f (f n) (Noted.note n) := by
  intro _ _ done
  cases done
  exact List.flatMap_singleton f n

theorem ofExcept (x : Except Fault α) : Gathers f [] (Noted.ofExcept x) := by
  intro a notes done
  cases x with
  | error fault => cases done
  | ok b =>
    cases done
    rfl

/-- Two steps, of which the second may rely on the result of the first. -/
theorem bind_of_ok {x : Draft α} {g : α -> Draft β} (first : Gathers f xs x)
    (next : ∀ a notes, x = .ok (a, notes) -> Gathers f ys (g a)) :
    Gathers f (xs ++ ys) (x >>= g) := by
  intro b notes done
  cases x with
  | error fault => cases done
  | ok p =>
    change Noted.andThen (.ok p) g = .ok (b, notes) at done
    rw [Noted.andThen] at done
    cases rest : g p.1 with
    | error fault =>
      rw [rest] at done
      cases done
    | ok q =>
      rw [rest] at done
      cases done
      rw [List.flatMap_append, first p.1 p.2 rfl, next p.1 p.2 rfl q.1 q.2 rest]

theorem bind {x : Draft α} {g : α -> Draft β} (first : Gathers f xs x)
    (next : ∀ a, Gathers f ys (g a)) : Gathers f (xs ++ ys) (x >>= g) :=
  bind_of_ok first fun a _ _ => next a

/-- The same after a step that gathers nothing. -/
theorem bind_silent {x : Draft α} {g : α -> Draft β} (first : Gathers f [] x)
    (next : ∀ a, Gathers f ys (g a)) : Gathers f ys (x >>= g) :=
  bind first next

/-- The same before a step that gathers nothing. -/
theorem bind_last {x : Draft α} {g : α -> Draft β} (first : Gathers f xs x)
    (next : ∀ a, Gathers f [] (g a)) : Gathers f xs (x >>= g) := by
  have whole := bind first next
  rwa [List.append_nil] at whole

theorem map {x : Draft α} (g : α -> β) (own : Gathers f xs x) : Gathers f xs (g <$> x) := by
  rw [map_eq_pure_bind]
  exact bind_last own fun a => pure (g a)

theorem mapM {g : α -> Draft β} {items : α -> List γ} {l : List α}
    (each : ∀ a ∈ l, Gathers f (items a) (g a)) : Gathers f (l.flatMap items) (l.mapM g) := by
  induction l with
  | nil => exact pure []
  | cons a rest ih =>
    rw [List.mapM_cons, List.flatMap_cons]
    obtain ⟨head, tail⟩ := List.forall_mem_cons.mp each
    exact bind head fun b => bind_last (ih tail) fun bs => pure (b :: bs)

end Gathers

variable (quiet : Note.Quiet f)
include quiet

/-- Nothing is gathered but at nodes and their props. -/
theorem gathers_steps : Stepwise fun _ x => Gathers f [] x where
  pure := .pure
  report d := quiet.report d ▸ .note _
  undeclared param path := quiet.undeclared param path ▸ .note _
  ofExcept _ := .ofExcept _
  bind := .bind_silent

variable (names : Declared) (scope : Scope) (path : String)

theorem gathers_stylesheetsFrom (i : Nat) (items : List Value) :
    Gathers f ((items.filterMap Stylesheet.ofValue?).flatMap fun s => f (.stylesheet s))
      (stylesheetsFrom path i items) := by
  induction items generalizing i with
  | nil => exact .pure ()
  | cons v rest ih =>
    rw [stylesheetsFrom]
    cases sheet : Stylesheet.ofValue? v with
    | some s =>
      rw [List.filterMap_cons_some sheet, List.flatMap_cons]
      exact .bind (.note _) fun _ => ih (i + 1)
    | none =>
      rw [List.filterMap_cons_none sheet]
      exact .bind_silent ((gathers_steps quiet).warn _ _ _ _) fun _ => ih (i + 1)

theorem gathers_stylesheets (v : Value) :
    Gathers f ((match v with
      | .list items => items.filterMap Stylesheet.ofValue?
      | _ => []).flatMap fun s => f (.stylesheet s)) (stylesheets path v) := by
  cases v with
  | list items => exact gathers_stylesheetsFrom quiet path 0 items
  | _ => exact (gathers_steps quiet).warn _ _ _ _

theorem gathers_propAttribute (key : String) (v : Value) :
    Gathers f ((if key = stylesheetProp then
      match v with
      | .list items => items.filterMap Stylesheet.ofValue?
      | _ => [] else []).flatMap fun s => f (.stylesheet s))
      (propAttribute names scope path key v) := by
  have steps := gathers_steps quiet
  have braced : Gathers f [] (do
      return (← value names scope (path ++ ".props." ++ key) v).map fun e =>
        (⟨key, .braced e⟩ : Attribute) : Draft (Option Attribute)) :=
    .bind_silent (steps.value names scope _ v) fun _ => .pure _
  rw [propAttribute]
  split
  · exact .bind_last (gathers_stylesheets quiet _ v) fun _ => .pure _
  · split
    · exact .bind_silent (steps.warn _ _ _ _) fun _ => .pure _
    · dsimp only
      split
      · split
        · exact .pure _
        · exact braced
      · exact braced

theorem gathers_propAttributes (omitted : List String) (props : Entries) :
    Gathers f ((Stylesheet.listed omitted props).flatMap fun s => f (.stylesheet s))
      (propAttributes names scope path omitted props) := by
  induction props with
  | nil => exact .pure []
  | cons p rest ih =>
    obtain ⟨key, v⟩ := p
    rw [propAttributes, Stylesheet.listed, List.flatMap_cons, List.flatMap_append]
    dsimp only
    split
    · exact .bind (.pure none) fun _ => .bind_last ih fun _ => .pure _
    · refine .bind (gathers_propAttribute quiet names scope path key v) fun _ => ?_
      exact .bind_last ih fun _ => .pure _

theorem gathers_attributes (n : CanonicalFields) (omitted : List String) :
    Gathers f ((Stylesheet.listed omitted n.props).flatMap fun s => f (.stylesheet s))
      (attributes names scope n omitted) := by
  have steps := gathers_steps quiet
  have later (style : Option Expr) :
      Gathers f ((Stylesheet.listed omitted n.props).flatMap fun s => f (.stylesheet s)) (do
        let props ← propAttributes names scope n.path omitted n.props
        let found ← handlers names scope n [] n.events
        return (style.map fun e => (⟨"style", .braced e⟩ : Attribute)).toList ++ props ++
          found.map fun h => ⟨h.1, .handler h.2⟩ : Draft (List Attribute)) :=
    .bind_last (gathers_propAttributes quiet names scope _ _ _) fun _ =>
      .bind_silent (steps.handlers names scope n _ _) fun _ => .pure _
  rw [attributes]
  dsimp only
  split
  · exact .bind_silent (.pure none) later
  · exact .bind_silent (steps.value names scope _ _) later

theorem gathers_resolution (b : Blueprint) (n : CanonicalFields) :
    Gathers f (f (.imports (b.registry.resolve b.icons n).imports)) (resolution b n) :=
  .bind_last (.note _) fun _ =>
    .bind_silent ((gathers_steps quiet).forM_report _) fun _ => .pure _

theorem gathers_list {b : Blueprint} {draft : Scope -> CanonicalNode -> Draft Markup}
    {items : CanonicalNode -> List γ} (each : ∀ scope c, Gathers f (items c) (draft scope c))
    (l : ListDecl) (children : List CanonicalNode) :
    Gathers f ((template l children).flatMap items ++
      ((emptyNode? b.document l).map items).getD [])
      (Draft.list b draft scope path l children) := by
  refine .bind_silent ((gathers_steps quiet).loop b.names scope path l) fun loop => ?_
  refine .bind (.mapM fun c _ => each _ c) fun copies => ?_
  cases emptyNode? b.document l with
  | none => exact .pure _
  | some c => exact .bind_last (each scope c) fun _ => .pure _

/-- The notes on a node amount to what it asks for, with what those ask for that its markup holds. -/
theorem gathers_node (b : Blueprint) (budget : Nat) (t : CanonicalNode) :
    Gathers f (b.within (b.asks f) budget t) (node b budget scope t) := by
  have steps := gathers_steps quiet
  induction budget generalizing scope t with
  | zero =>
    intro _ _ done
    cases done
  | succ budget ih =>
    rw [Blueprint.within, Blueprint.asks, List.append_assoc]
    refine .bind_silent (steps.dataScope b.names scope _ _) fun data => ?_
    refine .bind_of_ok (gathers_resolution quiet b _) fun r _ resolved => ?_
    have known : r = b.registry.resolve b.icons t.value := eq_of_resolution_ok resolved
    subst known
    refine .bind (gathers_attributes quiet b.names _ _ _) fun attributes => ?_
    dsimp only
    rw [Blueprint.isVoid]
    split
    · split
      · exact .bind_silent (steps.warn _ _ _ _) fun _ => .pure _
      · exact .pure _
    · refine .bind_silent (steps.text b.names _ _ _) fun text => ?_
      cases t.value.list with
      | none => exact .bind_last (.mapM fun c _ => ih _ c) fun _ => .pure _
      | some l =>
        exact .bind_last (.map _ (gathers_list quiet _ _ ih l t.children)) fun _ => .pure _

end Draft

namespace Module.Made

variable {source : Normalized} {options : Options} {names : Declared} {notes : List Note}
  {m : Module}

theorem mem_notes_iff (made : Made source options names notes m) {f : Note -> List γ}
    (quiet : Note.Quiet f) (x : γ) :
    x ∈ notes.flatMap f ↔ ∃ t, (Blueprint.ofSource source options names).Includes t ∧
      x ∈ (Blueprint.ofSource source options names).asks f t := by
  rw [Draft.gathers_node quiet _ _ _ _ _ _ made.drafted]
  exact Blueprint.mem_within_iff made.drafted

theorem exists_of_mem_importSpecs (made : Made source options names notes m) {i : ImportSpec}
    (mem : i ∈ Note.importSpecs notes) :
    ∃ t, (Blueprint.ofSource source options names).Includes t ∧
      i ∈ (Blueprint.ofSource source options names).imports t := by
  rw [Note.importSpecs_eq_firstBy] at mem
  obtain ⟨t, included, mem⟩ :=
    (made.mem_notes_iff Note.imported_quiet i).mp (mem_of_mem_firstBy mem)
  exact ⟨t, included, Blueprint.asks_imported _ t ▸ mem⟩

theorem exists_of_mem_imports (made : Made source options names notes m)
    {i : ImportSpec × PackageImport} (mem : i ∈ m.imports) :
    ∃ t, (Blueprint.ofSource source options names).Includes t ∧
      i.1 ∈ (Blueprint.ofSource source options names).imports t ∧
      i.2 = PackageImport.resolve i.1.source options.strategy options.server options.versions := by
  rw [made.imports] at mem
  obtain ⟨k, listed, rfl⟩ := List.mem_map.mp mem
  obtain ⟨t, included, asked⟩ := made.exists_of_mem_importSpecs listed
  exact ⟨t, included, asked, rfl⟩

/-- Every import that a node asks for is among those of the module, or one that is the same. -/
theorem exists_mem_importSpecs (made : Made source options names notes m) {t : CanonicalNode}
    (included : (Blueprint.ofSource source options names).Includes t) {i : ImportSpec}
    (mem : i ∈ (Blueprint.ofSource source options names).imports t) :
    ∃ k ∈ Note.importSpecs notes, k.identity = i.identity := by
  rw [Note.importSpecs_eq_firstBy]
  refine exists_mem_firstBy _ ((made.mem_notes_iff Note.imported_quiet i).mpr ⟨t, included, ?_⟩)
  rwa [Blueprint.asks_imported]

theorem exists_of_mem_stylesheets (made : Made source options names notes m) {s : Stylesheet}
    (mem : s ∈ m.stylesheets) :
    ∃ t, (Blueprint.ofSource source options names).Includes t ∧
      s ∈ (Blueprint.ofSource source options names).sheets t := by
  rw [made.stylesheets, Note.stylesheets_eq_firstBy] at mem
  obtain ⟨t, included, mem⟩ :=
    (made.mem_notes_iff Note.carried_quiet s).mp (mem_of_mem_firstBy mem)
  exact ⟨t, included, Blueprint.asks_carried _ t ▸ mem⟩

/-- At the path of every stylesheet that a node lists, the module has a stylesheet. -/
theorem exists_mem_stylesheets (made : Made source options names notes m) {t : CanonicalNode}
    (included : (Blueprint.ofSource source options names).Includes t) {s : Stylesheet}
    (mem : s ∈ (Blueprint.ofSource source options names).sheets t) :
    ∃ k ∈ m.stylesheets, k.path = s.path := by
  rw [made.stylesheets, Note.stylesheets_eq_firstBy]
  refine exists_mem_firstBy _ ((made.mem_notes_iff Note.carried_quiet s).mpr ⟨t, included, ?_⟩)
  rwa [Blueprint.asks_carried]

theorem nodup_stylesheets (made : Made source options names notes m) :
    (m.stylesheets.map (·.path)).Nodup := by
  rw [made.stylesheets, Note.stylesheets_eq_firstBy]
  exact nodup_map_firstBy _ _

end Module.Made

end ViewDoc.Tsx
