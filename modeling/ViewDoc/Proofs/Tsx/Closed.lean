import ViewDoc.Proofs.Component.Adapters
import ViewDoc.Proofs.Nesting.Markup
import ViewDoc.Proofs.Tsx.Nodes
import ViewDoc.Tsx.Module
/-!
Generated components are closed: what their markup reads is bound by the signature, by the state
variables, or by a loop around the place where it is read. The parameters that are read without a
declaration are exactly those that the signature adds, each once and each with one report.
-/

set_option autoImplicit false

namespace ViewDoc.Tsx

open Relation (ReflTransGen)

namespace Blueprint

variable {b : Blueprint} {t : CanonicalNode} {p : String}

theorem readsWithin_eq (budget : Nat) (t : CanonicalNode) :
    b.readsWithin budget t = b.within b.reads budget t := by
  induction budget generalizing t with
  | zero => rfl
  | succ budget ih =>
    have below : b.readsWithin budget = b.within b.reads budget := funext ih
    rw [readsWithin, within]
    exact below ▸ rfl

theorem mem_readsWithin_iff {budget : Nat} {scope : Scope} {r : Markup × List Note}
    (done : Draft.node b budget scope t = .ok r) :
    p ∈ b.readsWithin budget t ↔ ∃ c, ReflTransGen b.Holds t c ∧ p ∈ b.reads c := by
  rw [readsWithin_eq]
  exact mem_within_iff done

end Blueprint

namespace Note

/-- The undeclared parameters that are mentioned for the first time. -/
def firsts (seen : List String) : List Note -> List String
  | [] => []
  | .undeclared param _ :: rest =>
    if seen.contains param then firsts seen rest else param :: firsts (param :: seen) rest
  | _ :: rest => firsts seen rest

theorem foldl_undeclared (notes : List Note) (acc seen : List String)
    (same : ∀ p, p ∈ acc ↔ p ∈ seen) :
    notes.foldl (fun acc n => match n with
      | .undeclared param _ => if acc.contains param then acc else acc ++ [param]
      | _ => acc) acc = acc ++ firsts seen notes := by
  induction notes generalizing acc seen with
  | nil => exact (List.append_nil acc).symm
  | cons n rest ih =>
    cases n with
    | undeclared param path =>
      rw [List.foldl_cons, firsts]
      by_cases known : param ∈ seen
      · have known' : param ∈ acc := (same param).mpr known
        simp only [List.contains_iff_mem.mpr known, List.contains_iff_mem.mpr known', if_true]
        exact ih acc seen same
      · have fresh : ¬ acc.contains param = true := fun mem =>
          known ((same param).mp (List.contains_iff_mem.mp mem))
        have fresh' : ¬ seen.contains param = true := fun mem => known (List.contains_iff_mem.mp mem)
        dsimp only
        rw [if_neg fresh, if_neg fresh', ih (acc ++ [param]) (param :: seen), List.append_assoc]
        · rfl
        · intro p
          simp [same p, or_comm]
    | _ => exact ih acc seen same

theorem undeclaredParams_eq_firsts (notes : List Note) : undeclaredParams notes = firsts [] notes :=
  foldl_undeclared notes [] [] fun _ => Iff.rfl

theorem mem_firsts_iff (notes : List Note) (seen : List String) (p : String) :
    p ∈ firsts seen notes ↔ p ∈ mentioned notes ∧ p ∉ seen := by
  induction notes generalizing seen with
  | nil => simp [firsts, mentioned]
  | cons n rest ih =>
    cases n with
    | undeclared param path =>
      rw [firsts]
      have cons : mentioned (.undeclared param path :: rest) = param :: mentioned rest := rfl
      rw [cons]
      by_cases known : param ∈ seen
      · rw [if_pos (List.contains_iff_mem.mpr known), ih]
        constructor
        · exact fun found => ⟨List.mem_cons_of_mem _ found.1, found.2⟩
        · rintro ⟨mem, other⟩
          obtain rfl | mem := List.mem_cons.mp mem
          · exact absurd known other
          · exact ⟨mem, other⟩
      · rw [if_neg fun mem => known (List.contains_iff_mem.mp mem), List.mem_cons, ih]
        by_cases same : p = param
        · subst same
          simp [known]
        · simp [same]
    | _ => exact ih seen

theorem firsts_nodup (notes : List Note) (seen : List String) : (firsts seen notes).Nodup := by
  induction notes generalizing seen with
  | nil => exact List.nodup_nil
  | cons n rest ih =>
    cases n with
    | undeclared param path =>
      rw [firsts]
      split
      · exact ih seen
      · refine List.nodup_cons.mpr ⟨fun again => ?_, ih _⟩
        exact ((mem_firsts_iff rest _ param).mp again).2 List.mem_cons_self
    | _ => exact ih seen

theorem mem_undeclaredParams_iff (notes : List Note) (p : String) :
    p ∈ undeclaredParams notes ↔ p ∈ mentioned notes := by
  rw [undeclaredParams_eq_firsts, mem_firsts_iff]
  exact and_iff_left List.not_mem_nil

theorem undeclaredParams_nodup (notes : List Note) : (undeclaredParams notes).Nodup :=
  undeclaredParams_eq_firsts notes ▸ firsts_nodup notes []

/-- One report for each parameter that is mentioned for the first time. -/
theorem reports_firsts {notes : List Note}
    (quiet : ∀ d, .report d ∈ notes -> d.code ≠ undeclaredCode) (seen : List String) :
    List.Forall₂ (fun p d => ∃ path, d = undeclaredReport p path) (firsts seen notes)
      (Diagnostic.withCode undeclaredCode (reports seen notes)) := by
  induction notes generalizing seen with
  | nil => exact .nil
  | cons n rest ih =>
    have ih := ih fun d mem => quiet d (List.mem_cons_of_mem _ mem)
    cases n with
    | report d =>
      have other : (d.code == undeclaredCode) = false := by
        simpa using quiet d List.mem_cons_self
      rw [firsts, reports, Diagnostic.withCode, List.filter_cons_of_neg (by simp [other])]
      · exact ih seen
      · exact fun _ _ same => nomatch same
    | undeclared param path =>
      rw [firsts, reports]
      split
      · exact ih seen
      · exact .cons ⟨path, rfl⟩ (ih (param :: seen))
    | _ => exact ih seen

end Note

namespace Module

variable {source : Normalized} {options : Options} {m : Module}

/-- What a generated module is made of: declarations, and markup that is drafted with notes. -/
structure Made (source : Normalized) (options : Options) (names : Declared) (notes : List Note)
    (m : Module) : Prop where
  declared : Declared.ofDocument source.document = .ok names
  drafted : Draft.node ⟨source.document, names, options.registry, options.icons⟩
    (source.document.root.size + 1) {} source.document.root = .ok (m.root, notes)
  parameters : m.parameters = parametersOf names (Note.undeclaredParams notes)
  state : m.state = stateOf names
  diagnostics : m.diagnostics = source.diagnostics ++ Note.reports [] notes
  name : m.name = nameOf options.name source.document.metadata
  imports : m.imports = (Note.importSpecs notes).map fun i =>
    (i, PackageImport.resolve i.source options.strategy options.server options.versions)
  stylesheets : m.stylesheets = Note.stylesheets notes

theorem exists_made (done : generate source options = .ok m) :
    ∃ names notes, Made source options names notes m := by
  obtain ⟨names, declared, done⟩ := Fault.exists_of_bind_ok done
  obtain ⟨⟨root, notes⟩, drafted, done⟩ := Fault.exists_of_bind_ok done
  cases done
  exact ⟨names, notes, declared, drafted, rfl, rfl, rfl, rfl, rfl, rfl⟩

namespace Made

variable {names : Declared} {notes : List Note}

theorem names_parameters (made : Made source options names notes m) :
    m.parameters.map (·.name) =
      (Entries.keys names.props ++ Note.undeclaredParams notes).map identifier := by
  rw [made.parameters, parametersOf, Entries.keys, List.map_append, List.map_append, List.map_map,
    List.map_map, List.map_map]
  rfl

theorem names_state (made : Made source options names notes m) :
    m.state.map (·.name) = (Entries.keys names.state).map identifier := by
  rw [made.state, stateOf, Entries.keys, List.map_map, List.map_map]
  rfl

theorem own_subset (made : Made source options names notes m) :
    names.own ⊆ m.parameters.map (·.name) ++ m.state.map (·.name) := by
  rw [made.names_parameters, made.names_state, List.map_append]
  intro x mem
  obtain mem | mem := List.mem_append.mp mem
  · exact List.mem_append_left _ (List.mem_append_left _ mem)
  · exact List.mem_append_right _ mem

/-- The root reads parameters as every node does; other reports under the code of undeclared ones
are those of adapters. -/
theorem account (made : Made source options names notes m) :
    Draft.Account names (m.parameters.map (·.name) ++ m.state.map (·.name))
      (fun d => ∃ n, d ∈ (options.registry.resolve options.icons n).diagnostics)
      (Blueprint.readsWithin ⟨source.document, names, options.registry, options.icons⟩
        (source.document.root.size + 1) source.document.root)
      (fun root => root.free ⊆ m.parameters.map (·.name) ++ m.state.map (·.name))
      m.root notes :=
  Draft.reads_node (fun n _ mem _ => ⟨n, mem⟩) made.own_subset (List.nil_subset _) _ _ _ _
    made.drafted

theorem mem_undeclaredParams_iff (made : Made source options names notes m) (p : String) :
    p ∈ Note.undeclaredParams notes ↔ p ∉ Entries.keys names.props ∧
      ∃ t, ReflTransGen
        (Blueprint.Holds ⟨source.document, names, options.registry, options.icons⟩)
        source.document.root t ∧
        p ∈ Blueprint.reads ⟨source.document, names, options.registry, options.icons⟩ t := by
  rw [Note.mem_undeclaredParams_iff, made.account.mentioned, Declared.missing, List.mem_filter,
    Blueprint.mem_readsWithin_iff made.drafted, and_comm, ← Entries.has_iff_mem_keys]
  simp

end Made

/-- A module is closed: `undeclared` are the parameters that it reads without a declaration, and
`made` are the reports on its making. -/
structure IsClosed (b : Blueprint) (undeclared : List String) (made : List Diagnostic)
    (m : Module) : Prop where
  free_subset : m.root.free ⊆ m.parameters.map (·.name) ++ m.state.map (·.name)
  parameters : m.parameters.map (·.name) =
    (Entries.keys b.names.props ++ undeclared).map identifier
  state : m.state.map (·.name) = (Entries.keys b.names.state).map identifier
  mem_undeclared_iff : ∀ p, p ∈ undeclared ↔ p ∉ Entries.keys b.names.props ∧
    ∃ t, ReflTransGen b.Holds b.document.root t ∧ p ∈ b.reads t
  undeclared_nodup : undeclared.Nodup
  /-- Adapters are free in what they report; those that come along never use this code. -/
  reports : (∀ n, ∀ d ∈ (b.registry.resolve b.icons n).diagnostics,
      d.code ≠ Note.undeclaredCode) ->
    List.Forall₂ (fun p d => ∃ path, d = Note.undeclaredReport p path) undeclared
      (Diagnostic.withCode Note.undeclaredCode made)

/-- What a component reads is bound in it, and its signature adds exactly the parameters that it
reads without a declaration. -/
theorem generate_isClosed (done : generate source options = .ok m) :
    ∃ names undeclared made, Declared.ofDocument source.document = .ok names ∧
      m.diagnostics = source.diagnostics ++ made ∧
      m.IsClosed ⟨source.document, names, options.registry, options.icons⟩ undeclared made := by
  obtain ⟨names, notes, made⟩ := exists_made done
  have account := made.account
  refine ⟨names, Note.undeclaredParams notes, Note.reports [] notes, made.declared,
    made.diagnostics, ?_, made.names_parameters, made.names_state, made.mem_undeclaredParams_iff,
    Note.undeclaredParams_nodup notes, fun quiet => ?_⟩
  · refine account.result fun p missing => List.mem_append_left _ ?_
    have mem : p ∈ Note.undeclaredParams notes :=
      (Note.mem_undeclaredParams_iff notes p).mpr (account.mentioned ▸ missing)
    rw [made.names_parameters]
    exact List.mem_map_of_mem (List.mem_append_right _ mem)
  · rw [Note.undeclaredParams_eq_firsts]
    refine Note.reports_firsts (fun d mem isCode => ?_) []
    obtain ⟨n, reported⟩ := account.reports d mem isCode
    exact quiet n d reported isCode

theorem standard_quiet (icons : IconRegistry) (n : CanonicalFields) :
    ∀ d ∈ (ComponentRegistry.standard.resolve icons n).diagnostics,
      d.code ≠ Note.undeclaredCode := by
  intro d mem isCode
  have other : Note.undeclaredCode ∉
      ComponentRegistry.unresolvedCode :: ComponentRegistry.standardCodes := by decide
  exact other (isCode ▸ ComponentRegistry.code_of_standard_resolve icons n d mem)

/-- A list of rows, in which a parameter that nothing declares is read twice: around the list, and
in its template beside the alias of the item. -/
def listing : Normalized where
  document := {
    version := "1.2"
    logic := some { props := [("rows", { type := "array" })],
                    state := [("count", { type := "number", initial := .int 0 })] }
    root := .node { id := "root", type := "ul", text := .object [("$param", .str "user-name")],
                    list := some { source := .object [("$param", .str "rows")],
                                   itemAs := .str "row" } }
      [.node { id := "cell", type := "li", text := .object [("$data", .str "row.name")],
               props := [("title", .object [("$param", .str "user-name.first")])],
               style := [("order", .object [("$state", .str "count")])] } []] }
  diagnostics := []

theorem listing_isClosed :
    ∃ m, generate listing {} = .ok m ∧ m.parameters.map (·.name) = ["rows", "user_name"] ∧
      m.state.map (·.name) = ["count"] ∧
      m.diagnostics.map (fun d => (d.code, d.path)) =
        [("CODEGEN_UNDECLARED_PARAM", some ".text")] ∧
      ∃ names undeclared made, Declared.ofDocument listing.document = .ok names ∧
        m.diagnostics = listing.diagnostics ++ made ∧
        m.IsClosed ⟨listing.document, names, .standard, .standard⟩ undeclared made ∧
        List.Forall₂ (fun p d => ∃ path, d = Note.undeclaredReport p path) undeclared
          (Diagnostic.withCode Note.undeclaredCode made) := by
  have shown : (generate listing {}).toOption.map (fun m => (m.parameters.map (·.name),
      m.state.map (·.name), m.diagnostics.map fun d => (d.code, d.path))) =
        some (["rows", "user_name"], ["count"], [("CODEGEN_UNDECLARED_PARAM", some ".text")]) := by
    decide +kernel
  cases done : generate listing {} with
  | error fault =>
    rw [done] at shown
    cases shown
  | ok m =>
    rw [done] at shown
    obtain ⟨parameters, rest⟩ := Prod.mk.inj (Option.some.inj shown)
    obtain ⟨state, reports⟩ := Prod.mk.inj rest
    obtain ⟨names, undeclared, made, declared, told, closed⟩ := generate_isClosed done
    exact ⟨m, rfl, parameters, state, reports, names, undeclared, made, declared, told, closed,
      closed.reports (standard_quiet _)⟩

end Module

end ViewDoc.Tsx
