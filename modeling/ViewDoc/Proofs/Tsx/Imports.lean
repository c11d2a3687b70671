import Mathlib.Data.List.Pairwise
import ViewDoc.Document.Load
import ViewDoc.Proofs.Component.Adapters
import ViewDoc.Proofs.Tsx.Gathers
import ViewDoc.Validation
/-!
The names that a module binds at its top: those of its import statements, and that of its component.
Imports of one name from different places stay side by side, and no name is changed for the sake of
another. The names differ exactly where the document keeps them apart.
-/

set_option autoImplicit false

namespace ViewDoc.Tsx

namespace ImportStatement

/-- The names that a statement binds, for named imports as they are written. -/
def names : ImportStatement -> List String
  | .named _ bindings => bindings
  | .whole _ name => [name]
  | .default _ name => [name]

/-- The names that the first statement binds that names exports of a module. -/
def namedFrom (source : String) : List ImportStatement -> List String
  | [] => []
  | .named known bindings :: rest => if known = source then bindings else namedFrom source rest
  | _ :: rest => namedFrom source rest

theorem namedFrom_concat {s : ImportStatement}
    (other : ∀ source bindings, s ≠ .named source bindings) (source : String)
    (statements : List ImportStatement) :
    namedFrom source (statements ++ [s]) = namedFrom source statements := by
  induction statements with
  | nil =>
    cases s with
    | named known bindings => exact absurd rfl (other known bindings)
    | _ => rfl
  | cons head rest ih =>
    cases head with
    | named known bindings =>
      rw [List.cons_append, namedFrom, namedFrom, ih]
    | _ => exact ih

theorem mem_namedFrom_addNamed_iff (source binding : String) (statements : List ImportStatement)
    (place x : String) :
    x ∈ namedFrom place (addNamed source binding statements) ↔
      x ∈ namedFrom place statements ∨ place = source ∧ x = binding := by
  induction statements with
  | nil =>
    rw [addNamed, namedFrom]
    by_cases same : source = place
    · simp [same, namedFrom]
    · simp [same, Ne.symm same, namedFrom]
  | cons head rest ih =>
    cases head with
    | named known bindings =>
      rw [addNamed]
      by_cases own : known = source
      · subst own
        rw [if_pos rfl, namedFrom, namedFrom]
        by_cases same : known = place
        · subst same
          simp only [if_true, true_and]
          split
          · rename_i old
            have old : binding ∈ bindings := List.contains_iff_mem.mp old
            exact ⟨.inl, fun h => h.elim id fun h => h ▸ old⟩
          · rw [List.mem_append, List.mem_singleton]
        · simp [same, Ne.symm same]
      · rw [if_neg own, namedFrom, namedFrom]
        by_cases same : known = place
        · subst same
          simp [own]
        · rw [if_neg same, if_neg same, ih]
    | _ => exact ih

/-- A binding that is there already leaves the statements as they are. -/
theorem addNamed_of_mem {source binding : String} {statements : List ImportStatement}
    (old : binding ∈ namedFrom source statements) :
    addNamed source binding statements = statements := by
  induction statements with
  | nil => cases old
  | cons head rest ih =>
    cases head with
    | named known bindings =>
      rw [namedFrom] at old
      rw [addNamed]
      split
      · rename_i own
        rw [if_pos own] at old
        rw [if_pos (List.contains_iff_mem.mpr old)]
      · rename_i other
        rw [if_neg other] at old
        rw [ih old]
    | _ => exact congrArg (_ :: ·) (ih old)

theorem names_addNamed_perm {source binding : String} {statements : List ImportStatement}
    (fresh : binding ∉ namedFrom source statements) :
    ((addNamed source binding statements).flatMap names).Perm
      (statements.flatMap names ++ [binding]) := by
  induction statements with
  | nil => exact .refl _
  | cons head rest ih =>
    rw [List.flatMap_cons, List.append_assoc]
    cases head with
    | named known bindings =>
      rw [namedFrom] at fresh
      rw [addNamed]
      split
      · rename_i own
        rw [if_pos own] at fresh
        rw [if_neg fun old => fresh (List.contains_iff_mem.mp old), List.flatMap_cons, names, names,
          List.append_assoc]
        exact List.perm_append_comm.append_left bindings
      · rename_i other
        rw [if_neg other] at fresh
        rw [List.flatMap_cons]
        exact (ih fresh).append_left _
    | _ =>
      rw [addNamed, List.flatMap_cons]
      · exact (ih fresh).append_left _
      · exact fun _ _ same => nomatch same

/-- Two imports whose bindings are named in one statement. -/
def Merges (i k : ImportSpec × PackageImport) : Prop :=
  i.1.kind = .named ∧ k.1.kind = .named ∧ i.2.source = k.2.source

/-- Two imports bind different names, unless they are merged. -/
def Apart (i k : ImportSpec × PackageImport) : Prop :=
  i.1.binding = k.1.binding -> Merges i k

instance : Std.Symm Apart where
  symm _ _ apart same :=
    have both := apart same.symm
    ⟨both.2.1, both.1, both.2.2.symm⟩

/-- The statements for imports, as they are added one after the other. -/
def ofImports (imports : List (ImportSpec × PackageImport)) : List ImportStatement :=
  imports.foldl add []

theorem ofImports_concat (imports : List (ImportSpec × PackageImport))
    (i : ImportSpec × PackageImport) : ofImports (imports ++ [i]) = add (ofImports imports) i :=
  List.foldl_append

theorem mem_namedFrom_ofImports_iff (imports : List (ImportSpec × PackageImport))
    (source x : String) :
    x ∈ namedFrom source (ofImports imports) ↔
      ∃ i ∈ imports, i.1.kind = .named ∧ i.2.source = source ∧ bindingText i.1 = x := by
  induction imports using List.reverseRecOn with
  | nil => simp [ofImports, namedFrom]
  | append_singleton imports i ih =>
    rw [ofImports_concat, add]
    cases kind : i.1.kind with
    | named =>
      simp only [mem_namedFrom_addNamed_iff, ih, List.mem_append, List.mem_singleton]
      constructor
      · rintro (⟨k, mem, found⟩ | ⟨rfl, rfl⟩)
        · exact ⟨k, .inl mem, found⟩
        · exact ⟨i, .inr rfl, kind, rfl, rfl⟩
      · rintro ⟨k, mem | rfl, named, from_, text⟩
        · exact .inl ⟨k, mem, named, from_, text⟩
        · exact .inr ⟨from_.symm, text.symm⟩
    | _ =>
      simp only [List.mem_append, List.mem_singleton]
      rw [namedFrom_concat (by simp), ih]
      constructor
      · rintro ⟨k, mem, found⟩
        exact ⟨k, .inl mem, found⟩
      · rintro ⟨k, mem | rfl, named, found⟩
        · exact ⟨k, mem, named, found⟩
        · cases kind.symm.trans named

variable {imports : List (ImportSpec × PackageImport)} {i : ImportSpec × PackageImport}

/-- A statement for an import that merges with none before it binds its name besides the others. -/
theorem names_add_cases (kept : ∀ k ∈ imports ++ [i], bindingText k.1 = k.1.binding) :
    (add (ofImports imports) i = ofImports imports ∧
      ∃ k ∈ imports, Merges k i ∧ k.1.binding = i.1.binding) ∨
    (((add (ofImports imports) i).flatMap names).Perm
        ((ofImports imports).flatMap names ++ [i.1.binding]) ∧
      ∀ k ∈ imports, Merges k i -> k.1.binding ≠ i.1.binding) := by
  obtain ⟨before, last⟩ := List.forall_mem_append.mp kept
  have text : bindingText i.1 = i.1.binding := last i List.mem_cons_self
  rw [add]
  cases kind : i.1.kind with
  | named =>
    dsimp only
    rw [text]
    have known := mem_namedFrom_ofImports_iff imports i.2.source i.1.binding
    by_cases old : i.1.binding ∈ namedFrom i.2.source (ofImports imports)
    · obtain ⟨k, mem, named, from_, same⟩ := known.mp old
      rw [before k mem] at same
      exact .inl ⟨addNamed_of_mem old, k, mem, ⟨named, kind, from_⟩, same⟩
    · refine .inr ⟨names_addNamed_perm old, fun k mem both same => old (known.mpr ?_)⟩
      exact ⟨k, mem, both.1, both.2.2, (before k mem).trans same⟩
  | _ =>
    refine .inr ⟨?_, fun k mem both => ?_⟩
    · rw [List.flatMap_append]
      exact .refl _
    · cases kind.symm.trans both.2.1

theorem mem_names_ofImports_iff (kept : ∀ i ∈ imports, bindingText i.1 = i.1.binding) (x : String) :
    x ∈ (ofImports imports).flatMap names ↔ ∃ i ∈ imports, i.1.binding = x := by
  induction imports using List.reverseRecOn with
  | nil => simp [ofImports]
  | append_singleton imports i ih =>
    have ih := ih (List.forall_mem_append.mp kept).1
    have whole : (∃ k ∈ imports ++ [i], k.1.binding = x) ↔
        x ∈ (ofImports imports).flatMap names ∨ x = i.1.binding := by
      simp [ih, or_and_right, exists_or, eq_comm]
    rw [whole, ofImports_concat]
    obtain ⟨same, k, mem, -, bound⟩ | ⟨more, -⟩ := names_add_cases kept
    · rw [same]
      exact ⟨.inl, fun h => h.elim id fun h => ih.mpr ⟨k, mem, bound.trans h.symm⟩⟩
    · rw [more.mem_iff, List.mem_append, List.mem_singleton]

/-- No name is bound twice by the statements for imports exactly if every two imports that bind one
name are merged. -/
theorem nodup_names_ofImports_iff (kept : ∀ i ∈ imports, bindingText i.1 = i.1.binding) :
    ((ofImports imports).flatMap names).Nodup ↔ imports.Pairwise Apart := by
  induction imports using List.reverseRecOn with
  | nil => simp [ofImports]
  | append_singleton imports i ih =>
    have before := (List.forall_mem_append.mp kept).1
    have later : (imports ++ [i]).Pairwise Apart ↔
        ((ofImports imports).flatMap names).Nodup ∧ ∀ k ∈ imports, Apart k i := by
      rw [List.pairwise_append, ih before]
      simp
    rw [later, ofImports_concat]
    obtain ⟨same, k, mem, merged, bound⟩ | ⟨more, other⟩ := names_add_cases kept
    · -- whatever else binds the name is apart from the import with which the last one merges
      rw [same]
      refine ⟨fun distinct => ⟨distinct, fun l mem' bound' => ?_⟩, And.left⟩
      by_cases equal : l = k
      · exact equal ▸ merged
      · have both := ((ih before).mp distinct).forall mem' mem equal (bound'.trans bound.symm)
        exact ⟨both.1, merged.2.1, both.2.2.trans merged.2.2⟩
    · rw [more.nodup_iff, List.nodup_append_comm, List.singleton_append, List.nodup_cons, and_comm,
        mem_names_ofImports_iff before]
      refine and_congr_right fun _ => ?_
      constructor
      · exact fun fresh k mem bound => absurd ⟨k, mem, bound⟩ fresh
      · rintro apart ⟨k, mem, bound⟩
        exact other k mem (apart k mem bound) bound

/-- The module that a statement imports from. -/
def source : ImportStatement -> String
  | .named source _ => source
  | .whole source _ => source
  | .default source _ => source

theorem mem_sources_addNamed_iff (place binding : String) (statements : List ImportStatement)
    (x : String) :
    x ∈ (addNamed place binding statements).map source ↔ x ∈ statements.map source ∨ x = place := by
  induction statements with
  | nil => simp [addNamed, source]
  | cons head rest ih =>
    cases head with
    | named known bindings =>
      rw [addNamed]
      split
      · rename_i own
        rw [List.map_cons, List.map_cons, source, source, own, List.mem_cons]
        exact ⟨.inl, fun mem => mem.elim id .inl⟩
      · rw [List.map_cons, List.map_cons, List.mem_cons, List.mem_cons, ih, or_assoc]
    | _ =>
      rw [addNamed, List.map_cons, List.map_cons, List.mem_cons, List.mem_cons, ih, or_assoc]
      exact fun _ _ same => nomatch same

theorem mem_sources_ofImports_iff (imports : List (ImportSpec × PackageImport)) (x : String) :
    x ∈ (ofImports imports).map source ↔ ∃ i ∈ imports, i.2.source = x := by
  induction imports using List.reverseRecOn with
  | nil => simp [ofImports]
  | append_singleton imports i ih =>
    have added : x ∈ (add (ofImports imports) i).map source ↔
        x ∈ (ofImports imports).map source ∨ x = i.2.source := by
      rw [add]
      cases i.1.kind with
      | named => exact mem_sources_addNamed_iff _ _ _ _
      | _ => simp [source]
    rw [ofImports_concat, added, ih]
    simp [or_and_right, exists_or, eq_comm]

theorem bindingText_of_plain {i : ImportSpec} (plain : i.Plain) : bindingText i = i.binding := by
  cases plain with
  | named source given =>
    rw [bindingText, ImportSpec.binding_eq]
    simp [ImportSpec.named, given, Option.filter]
  | _ => rfl

end ImportStatement

/-- Where an import comes from under the options. -/
abbrev Options.place (options : Options) (source : String) : String :=
  (PackageImport.resolve source options.strategy options.server options.versions).source

/-- The imports of the nodes bind no name that is taken, and one name together only where they are
the same or are named in one statement. -/
structure Blueprint.ImportsApart (b : Blueprint) (place : String -> String) (taken : List String) :
    Prop where
  free : ∀ t, b.Includes t -> ∀ i ∈ b.imports t, i.binding ∉ taken
  apart : ∀ t, b.Includes t -> ∀ u, b.Includes u -> ∀ i ∈ b.imports t, ∀ k ∈ b.imports u,
    i.binding = k.binding ->
      i.identity = k.identity ∨ i.kind = .named ∧ k.kind = .named ∧ place i.source = place k.source

namespace Module

open ImportStatement (ofImports)

variable {source : Normalized} {options : Options} {m : Module}

/-- The names that a module binds at its top besides those of its elements: what it takes from React,
and the name of its component. -/
def ownNames (m : Module) : List String :=
  "React" :: (if m.state.isEmpty then [] else ["useState"]) ++ [m.name]

/-- The names that a module binds at its top: with its import statements, and for its component. -/
def topNames (m : Module) : List String :=
  "React" :: (if m.state.isEmpty then [] else ["useState"]) ++
    (ofImports m.imports).flatMap ImportStatement.names ++ [m.name]

theorem topNames_nodup_iff (m : Module) :
    m.topNames.Nodup ↔ m.ownNames.Nodup ∧
      ((ofImports m.imports).flatMap ImportStatement.names).Nodup ∧
        ∀ x ∈ (ofImports m.imports).flatMap ImportStatement.names, x ∉ m.ownNames := by
  have apart : m.topNames.Perm
      (m.ownNames ++ (ofImports m.imports).flatMap ImportStatement.names) := by
    rw [topNames, ownNames, List.append_assoc, List.append_assoc]
    exact List.perm_append_comm.append_left _
  rw [apart.nodup_iff, List.nodup_append]
  refine and_congr_right fun _ => and_congr_right fun _ => ?_
  exact ⟨fun other x mem own => other x own x mem rfl,
    fun other x own y mem same => other y mem (same ▸ own)⟩

namespace Made

variable {names : Declared} {notes : List Note}

/-- No two imports of a module bind one name, unless they are merged, exactly if no two imports of
its nodes do that are not the same. -/
theorem pairwise_apart_iff (made : Made source options names notes m) :
    m.imports.Pairwise ImportStatement.Apart ↔
      ∀ i ∈ Note.importSpecs notes, ∀ k ∈ Note.importSpecs notes, i.binding = k.binding ->
        i.identity = k.identity ∨
          i.kind = .named ∧ k.kind = .named ∧ options.place i.source = options.place k.source := by
  have once : ((Note.importSpecs notes).map ImportSpec.identity).Nodup := by
    rw [Note.importSpecs_eq_firstBy]
    exact nodup_map_firstBy _ _
  rw [made.imports, List.pairwise_map]
  constructor
  · intro apart i memI k memK same
    by_cases equal : i = k
    · exact .inl (congrArg _ equal)
    · have : Std.Symm fun i k : ImportSpec => ImportStatement.Apart
          (i, PackageImport.resolve i.source options.strategy options.server options.versions)
          (k, PackageImport.resolve k.source options.strategy options.server options.versions) :=
        ⟨fun _ _ => Std.Symm.symm _ _⟩
      exact .inr (apart.forall memI memK equal same)
  · intro apart
    refine once.of_map.pairwise_of_forall_ne fun i memI k memK other same => ?_
    refine (apart i memI k memK same).resolve_left fun equal => ?_
    exact other (List.inj_on_of_nodup_map once memI memK equal)

/-- What keeps the imports of the nodes apart keeps those of the module apart. -/
theorem importsApart_iff (made : Made source options names notes m) (taken : List String) :
    (Blueprint.ofSource source options names).ImportsApart options.place taken ↔
      m.imports.Pairwise ImportStatement.Apart ∧ ∀ i ∈ m.imports, i.1.binding ∉ taken := by
  rw [made.pairwise_apart_iff]
  constructor
  · intro apart
    refine ⟨fun i memI k memK => ?_, fun i mem => ?_⟩
    · obtain ⟨t, includedT, ofI⟩ := made.exists_of_mem_importSpecs memI
      obtain ⟨u, includedU, ofK⟩ := made.exists_of_mem_importSpecs memK
      exact apart.apart t includedT u includedU i ofI k ofK
    · obtain ⟨t, included, asked, -⟩ := made.exists_of_mem_imports mem
      exact apart.free t included i.1 asked
  · rintro ⟨apart, free⟩
    refine ⟨fun t included i mem => ?_, fun t includedT u includedU i memI k memK same => ?_⟩
    · obtain ⟨k, among, equal⟩ := made.exists_mem_importSpecs included mem
      rw [← ImportSpec.binding_eq_of_identity equal]
      refine free (k, .resolve k.source options.strategy options.server options.versions) ?_
      rw [made.imports]
      exact List.mem_map.mpr ⟨k, among, rfl⟩
    · obtain ⟨i', amongI, equalI⟩ := made.exists_mem_importSpecs includedT memI
      obtain ⟨k', amongK, equalK⟩ := made.exists_mem_importSpecs includedU memK
      rw [← ImportSpec.binding_eq_of_identity equalI,
        ← ImportSpec.binding_eq_of_identity equalK] at same
      have both := apart i' amongI k' amongK same
      rw [equalI, equalK] at both
      simp only [ImportSpec.identity, Prod.mk.injEq] at equalI equalK
      rwa [equalI.1, equalI.2.1, equalK.1, equalK.2.1] at both

end Made

/-- The names at the top of a module differ exactly if the component has no name that it needs from
React, and the imports of the nodes that it shows stay apart. -/
theorem generate_topNames_nodup_iff (standard : options.registry = .standard)
    (done : generate source options = .ok m) :
    ∃ names, Declared.ofDocument source.document = .ok names ∧
      m.name = nameOf options.name source.document.metadata ∧ m.state = stateOf names ∧
      (∀ i ∈ m.imports, i.1.Plain ∧ ImportStatement.bindingText i.1 = i.1.binding) ∧
      (m.topNames.Nodup ↔ m.ownNames.Nodup ∧
        (Blueprint.ofSource source options names).ImportsApart options.place m.ownNames) := by
  obtain ⟨names, notes, made⟩ := exists_made done
  have plain (i : ImportSpec × PackageImport) (mem : i ∈ m.imports) : i.1.Plain := by
    obtain ⟨t, -, asked, -⟩ := made.exists_of_mem_imports mem
    change i.1 ∈ (options.registry.resolve options.icons t.value).imports at asked
    rw [standard] at asked
    exact ComponentRegistry.plain_of_standard_resolve _ _ _ asked
  have kept (i : ImportSpec × PackageImport) (mem : i ∈ m.imports) :
      ImportStatement.bindingText i.1 = i.1.binding :=
    ImportStatement.bindingText_of_plain (plain i mem)
  refine ⟨names, made.declared, made.name, made.state, fun i mem => ⟨plain i mem, kept i mem⟩, ?_⟩
  rw [topNames_nodup_iff, ImportStatement.nodup_names_ofImports_iff kept, made.importsApart_iff]
  simp only [ImportStatement.mem_names_ofImports_iff kept, forall_exists_index, and_imp,
    forall_apply_eq_imp_iff₂]

/-- A page with components of three families, one of them twice, and with a state variable. -/
def dashboard : Normalized where
  document := {
    version := "1.2"
    metadata := some { name := some "Dash board" }
    logic := some { state := [("count", { type := "number", initial := .int 0 })] }
    root := .node { id := "root", type := "MdrCard" }
      [.node { id := "name", type := "AntdInput" } [],
        .node { id := "save", type := "AntdButton", text := .str "Save" } [],
        .node { id := "label", type := "RadixLabel" } [],
        .node { id := "size", type := "MuiSlider" } [],
        .node { id := "drop", type := "AntdButton", text := .str "Drop" } []] }
  diagnostics := []

theorem dashboard_topNames_nodup :
    ∃ m, generate dashboard {} = .ok m ∧
      m.topNames =
        ["React", "useState", "MdrCard", "Input", "Button", "Label", "Slider", "Dashboard"] ∧
      ∃ names, Declared.ofDocument dashboard.document = .ok names ∧
        (∀ i ∈ m.imports, i.1.Plain ∧ ImportStatement.bindingText i.1 = i.1.binding) ∧
        (Blueprint.ofSource dashboard {} names).ImportsApart
          (Options.place {}) ["React", "useState", "Dashboard"] := by
  have seen : (generate dashboard {}).toOption.map (fun m => (m.topNames, m.ownNames)) =
      some (["React", "useState", "MdrCard", "Input", "Button", "Label", "Slider", "Dashboard"],
        ["React", "useState", "Dashboard"]) := by decide +kernel
  obtain ⟨m, done, shown⟩ := Fault.exists_of_seen seen
  obtain ⟨top, own⟩ := Prod.mk.inj shown
  obtain ⟨names, declared, -, -, plain, distinct⟩ := generate_topNames_nodup_iff rfl done
  have apart := (distinct.mp (top ▸ by decide)).2
  exact ⟨m, done, top, names, declared, plain, own ▸ apart⟩

/-- A document with buttons from two families. -/
def twinButtons : Value :=
  .object [("version", .str "1.2"),
    ("ui", .object [("root", .object [("id", .str "root"), ("type", .str "div"),
      ("children", .list [
        .object [("id", .str "a"), ("type", .str "AntdButton")],
        .object [("id", .str "b"), ("type", .str "MuiButton")]])])])]

theorem twinButtons_clash :
    (∃ r, Validation.ofValue twinButtons = .ok r ∧ r.issues = [] ∧ r.diagnostics = []) ∧
      ∃ source m, normalize twinButtons = .ok source ∧ generate source {} = .ok m ∧
        m.importLines = ["import React from 'react';", "import \x7b Button \x7d from 'antd';",
          "import Button from '@mui/material/Button';"] ∧
        m.topNames = ["React", "Button", "Button", "MdrComponent"] ∧ ¬ m.topNames.Nodup := by
  refine ⟨⟨_, rfl, rfl, rfl⟩, _, _, rfl, rfl, rfl, rfl, by decide⟩

end Module

end ViewDoc.Tsx
