import ViewDoc.Proofs.Bundle.Files
import ViewDoc.Proofs.Package
import ViewDoc.Proofs.Tsx.Imports
/-!
The dependencies of a project. The table has React, and the packages that the specifiers of the
component name, each once and with one version; it has no others, and none but React where modules
come from a server.
-/

set_option autoImplicit false

namespace ViewDoc

namespace PackageImport

variable (server : String) (versions : List (String × String))

theorem declared_resolve_esmSh (source : String) :
    (resolve source .esmSh server versions).declared = false := by
  rw [resolve]
  split <;> rfl

/-- Packages that are installed are imported as they are written, and are declared. -/
theorem resolve_of_ne_esmSh {strategy : DependencyStrategy} (kept : strategy ≠ .esmSh)
    (source : String) :
    resolve source strategy server versions =
      { source, package := packageName? source, declared := (packageName? source).isSome,
        version := (packageName? source).bind fun package =>
          if package = "" then none else Entries.get? versions package } := by
  rw [resolve]
  cases packageName? source with
  | none => rfl
  | some package =>
    cases strategy with
    | esmSh => exact absurd rfl kept
    | _ => rfl

end PackageImport

namespace Tsx

/-- The version with which a package is declared: the pinned one, if it is not empty. -/
def Options.versionOf (options : Options) (package : String) : String :=
  ((Entries.get? options.versions package).filter (· ≠ "")).getD "latest"

namespace Module

/-- The modules from which a module imports for its elements. -/
def specifiers (m : Module) : List String :=
  (ImportStatement.ofImports m.imports).map ImportStatement.source

/-- What an import declares, with the version. -/
def declares (i : ImportSpec × PackageImport) : Option (String × String) :=
  match i.2.package with
  | some package =>
    if i.2.declared && package ≠ "" then
      some (package, (i.2.version.filter (· ≠ "")).getD "latest")
    else none
  | none => none

theorem dependencies_eq_merge (m : Module) :
    m.dependencies = Entries.merge [] (m.imports.filterMap declares) := by
  rw [dependencies, Entries.merge, List.foldl_filterMap]
  congr 1
  funext acc i
  rw [declares]
  cases i.2.package with
  | none => rfl
  | some package =>
    dsimp only
    split <;> rfl

theorem nodup_dependencies (m : Module) : (Entries.keys m.dependencies).Nodup := by
  rw [dependencies_eq_merge]
  have start : (Entries.keys ([] : List (String × String))).Nodup := List.nodup_nil
  exact Entries.nodup_keys_merge start _

namespace Made

variable {source : Normalized} {options : Options} {m : Module} {names : Declared}
  {notes : List Note} (made : Made source options names notes m)
include made

theorem dependencies_of_esmSh (served : options.strategy = .esmSh) : m.dependencies = [] := by
  have none_declared : m.imports.filterMap declares = [] := by
    refine List.filterMap_eq_nil_iff.mpr fun i mem => ?_
    obtain ⟨t, -, -, resolved⟩ := made.exists_of_mem_imports mem
    rw [served] at resolved
    rw [declares, resolved, PackageImport.declared_resolve_esmSh]
    split <;> rfl
  rw [dependencies_eq_merge, none_declared]
  rfl

variable (kept : options.strategy ≠ .esmSh)
include kept

theorem mem_specifiers_iff (s : String) :
    s ∈ m.specifiers ↔ ∃ t, (Blueprint.ofSource source options names).Includes t ∧
      ∃ i ∈ (Blueprint.ofSource source options names).imports t, i.source = s := by
  have placed (source : String) :
      (PackageImport.resolve source options.strategy options.server options.versions).source =
        source := by rw [PackageImport.resolve_of_ne_esmSh _ _ kept]
  rw [specifiers, ImportStatement.mem_sources_ofImports_iff]
  constructor
  · rintro ⟨i, mem, same⟩
    obtain ⟨t, included, asked, resolved⟩ := made.exists_of_mem_imports mem
    rw [resolved, placed] at same
    exact ⟨t, included, i.1, asked, same⟩
  · rintro ⟨t, included, i, asked, rfl⟩
    obtain ⟨k, mem, same⟩ := made.exists_mem_importSpecs included asked
    rw [made.imports]
    refine ⟨_, List.mem_map_of_mem mem, (placed k.source).trans ?_⟩
    exact congrArg (fun key => key.2.1) same

/-- An import declares the package that its specifier names, with the version for that package. -/
theorem declares_eq {i : ImportSpec × PackageImport} (mem : i ∈ m.imports) :
    i.2.source = i.1.source ∧
      declares i = ((PackageImport.packageName? i.2.source).filter (· ≠ "")).map fun package =>
        (package, options.versionOf package) := by
  obtain ⟨t, -, -, resolved⟩ := made.exists_of_mem_imports mem
  rw [PackageImport.resolve_of_ne_esmSh _ _ kept] at resolved
  rw [declares, resolved]
  refine ⟨rfl, ?_⟩
  dsimp only
  cases PackageImport.packageName? i.1.source with
  | none => rfl
  | some package =>
    by_cases empty : package = ""
    · simp [empty, Option.filter]
    · simp [empty, Option.filter, Options.versionOf]

theorem mem_declared_iff (package : String) :
    package ∈ Entries.keys (m.imports.filterMap declares) ↔
      ∃ s ∈ m.specifiers, s ≠ "" ∧ PackageImport.Names s package := by
  constructor
  · intro mem
    obtain ⟨e, declared, rfl⟩ := List.mem_map.mp mem
    obtain ⟨i, among, found⟩ := List.mem_filterMap.mp declared
    rw [(made.declares_eq kept among).2] at found
    obtain ⟨name, named, rfl⟩ := Option.map_eq_some_iff.mp found
    obtain ⟨named, given⟩ := Option.filter_eq_some_iff.mp named
    have listed : i.2.source ∈ m.specifiers :=
      (ImportStatement.mem_sources_ofImports_iff _ _).mpr ⟨i, among, rfl⟩
    refine ⟨i.2.source, listed, ?_, PackageImport.names_packageName? named⟩
    intro empty
    rw [empty] at named
    cases named
    exact absurd given (by decide)
  · rintro ⟨s, listed, written, names⟩
    obtain ⟨i, among, rfl⟩ := (ImportStatement.mem_sources_ofImports_iff _ _).mp listed
    refine List.mem_map.mpr ⟨(package, options.versionOf package), ?_, rfl⟩
    refine List.mem_filterMap.mpr ⟨i, among, ?_⟩
    rw [(made.declares_eq kept among).2, (PackageImport.packageName?_eq_some_iff _ _).mpr names,
      Option.filter_some, if_pos (by simpa using names.nonempty written), Option.map_some]

/-- A module declares the packages that its specifiers name. -/
theorem get?_dependencies_iff (package version : String) :
    Entries.get? m.dependencies package = some version ↔
      version = options.versionOf package ∧
        ∃ s ∈ m.specifiers, s ≠ "" ∧ PackageImport.Names s package := by
  have decided : ∀ e ∈ m.imports.filterMap declares, e.2 = options.versionOf e.1 := by
    intro e mem
    obtain ⟨i, mem, found⟩ := List.mem_filterMap.mp mem
    rw [(made.declares_eq kept mem).2] at found
    obtain ⟨package, -, rfl⟩ := Option.map_eq_some_iff.mp found
    rfl
  rw [dependencies_eq_merge, Entries.get?_merge_of_eq decided, ← made.mem_declared_iff kept]
  by_cases mem : package ∈ Entries.keys (m.imports.filterMap declares) <;> simp [mem, eq_comm]

end Made

end Module

end Tsx

namespace Project

open Tsx (Options)

/-- The dependencies of every project. -/
def scaffold : List (String × String) :=
  [("react", reactVersion), ("react-dom", reactVersion)]

/-- Of the versions of a package the first counts, and React comes before all others. -/
theorem dependencies_eq_firstBy (m : Tsx.Module) :
    dependencies m =
      firstBy (·.1) (scaffold ++ m.dependencies.mergeSort fun a b => a.1 ≤ b.1) := by
  rw [firstBy, List.foldl_append, dependencies]
  simp only [Entries.has_eq_any]
  rfl

theorem nodup_dependencies (m : Tsx.Module) : (Entries.keys (dependencies m)).Nodup := by
  rw [dependencies_eq_firstBy]
  exact nodup_map_firstBy _ _

theorem get?_dependencies (m : Tsx.Module) (package : String) :
    Entries.get? (dependencies m) package =
      (Entries.get? scaffold package).or (Entries.get? m.dependencies package) := by
  have sorted := Entries.get?_of_perm
    (List.mergeSort_perm m.dependencies fun a b => a.1 ≤ b.1).symm
    m.nodup_dependencies package
  rw [dependencies_eq_firstBy, Entries.get?_eq_find?, find?_firstBy, List.find?_append, sorted,
    Entries.get?_eq_find?, Entries.get?_eq_find?]
  cases scaffold.find? fun e => e.1 == package <;> rfl

/-- A table of dependencies has each package once: React in the version of the scaffold, and besides
it the packages that the specifiers name, in the pinned or the latest version. -/
structure Covers (options : Options) (specifiers : List String) (table : List (String × String)) :
    Prop where
  nodup : (Entries.keys table).Nodup
  react : ∀ package ∈ ["react", "react-dom"], Entries.get? table package = some reactVersion
  covered : options.strategy ≠ .esmSh -> ∀ s ∈ specifiers, s ≠ "" ->
    PackageImport.isBare s = true -> ∃ package, PackageImport.Names s package ∧
      (package ∉ ["react", "react-dom"] ->
        Entries.get? table package = some (options.versionOf package))
  others : ∀ package, package ∉ ["react", "react-dom"] -> ∀ version,
    Entries.get? table package = some version ↔ options.strategy ≠ .esmSh ∧
      version = options.versionOf package ∧
        ∃ s ∈ specifiers, s ≠ "" ∧ PackageImport.Names s package

theorem covers_dependencies {source : Normalized} {options : Options} {m : Tsx.Module}
    {names : Tsx.Declared} {notes : List Tsx.Note}
    (made : Tsx.Module.Made source options names notes m) :
    Covers options m.specifiers (dependencies m) := by
  have others (package : String) (other : package ∉ ["react", "react-dom"]) (version : String) :
      Entries.get? (dependencies m) package = some version ↔ options.strategy ≠ .esmSh ∧
        version = options.versionOf package ∧
          ∃ s ∈ m.specifiers, s ≠ "" ∧ PackageImport.Names s package := by
    have outside : Entries.get? scaffold package = none := Entries.get?_eq_none_iff.mpr other
    rw [get?_dependencies, outside, Option.none_or]
    by_cases served : options.strategy = .esmSh
    · rw [made.dependencies_of_esmSh served]
      exact iff_of_false (fun found => nomatch found) fun both => both.1 served
    · rw [made.get?_dependencies_iff served]
      exact (and_iff_right served).symm
  refine ⟨nodup_dependencies m, fun package mem => ?_, fun kept s mem written bare => ?_, others⟩
  · rw [get?_dependencies]
    simp only [List.mem_cons, List.not_mem_nil, or_false] at mem
    rcases mem with rfl | rfl <;> rfl
  · obtain ⟨package, named⟩ := PackageImport.exists_names bare
    exact ⟨package, named, fun other =>
      (others package other _).mpr ⟨kept, rfl, s, mem, written, named⟩⟩

end Project

namespace Bundle

/-- No stylesheet takes the place of the manifest. -/
theorem content?_manifest {m : Tsx.Module} (once : (m.stylesheets.map (·.path)).Nodup) :
    (ofModule m .project).content? "package.json" =
      some (Json.write .indented (Project.manifest m) ++ "\n") := by
  have mem : ("package.json", Json.write .indented (Project.manifest m) ++ "\n") ∈
      generated m .project := List.mem_cons_self
  refine (content?_generated_iff once mem).mpr fun s _ same => ?_
  have placed : sheetPath s.path .project = "package.json" := same
  rw [← placed] at mem
  have named := (sheetPath_mem_generated_iff m .project s.path _).mp mem
  simp only [beside, List.mem_cons, Prod.mk.injEq, List.not_mem_nil, or_false] at named
  rcases named with ⟨path, -⟩ | ⟨path, -⟩ <;> exact absurd (path ▸ placed) (by decide)

/-- The manifest of a project depends on React, and on exactly the packages that the component
imports from, unless they come from a server. -/
theorem ofDocument_dependencies_covers {source : Normalized} {options : Tsx.Options} {b : Bundle}
    (done : ofDocument source .project options = .ok b) :
    ∃ m names es, Tsx.Module.generate source options = .ok m ∧
      Tsx.Declared.ofDocument source.document = .ok names ∧
      b.content? "package.json" = some (Json.write .indented (.object es) ++ "\n") ∧
      Entries.get? es "dependencies" =
        some (.object ((Project.dependencies m).map fun e => (e.1, .str e.2))) ∧
      (options.strategy ≠ .esmSh -> ∀ s, s ∈ m.specifiers ↔
        ∃ t, (Tsx.Blueprint.ofSource source options names).Includes t ∧
          ∃ i ∈ (Tsx.Blueprint.ofSource source options names).imports t, i.source = s) ∧
      Project.Covers options m.specifiers (Project.dependencies m) := by
  obtain ⟨m, generates, rfl⟩ := ofDocument_eq_ok_iff.mp done
  obtain ⟨names, notes, made⟩ := Tsx.Module.exists_made generates
  exact ⟨m, names, _, generates, made.declared, content?_manifest made.nodup_stylesheets, rfl,
    made.mem_specifiers_iff, Project.covers_dependencies made⟩

open Tsx.Module (dashboard)

/-- A table of versions that pins one of the packages of the page, and React. -/
def pinned : Tsx.Options where
  versions := [("antd", "5.0.0"), ("react", "1")]

theorem dashboard_dependencies :
    ∃ b m, ofDocument dashboard .project pinned = .ok b ∧
      m.specifiers = ["@mdr/ui", "antd", "@radix-ui/react-label", "@mui/material/Slider"] ∧
      Project.Covers pinned m.specifiers (Project.dependencies m) ∧
      Entries.get? (Project.dependencies m) "antd" = some "5.0.0" ∧
      Entries.get? (Project.dependencies m) "@mui/material" = some "latest" := by
  have seen : (Tsx.Module.generate dashboard pinned).toOption.map (·.specifiers) =
      some ["@mdr/ui", "antd", "@radix-ui/react-label", "@mui/material/Slider"] := by decide +kernel
  obtain ⟨m, generates, specifiers⟩ := Fault.exists_of_seen seen
  have done : ofDocument dashboard .project pinned = .ok (ofModule m .project) :=
    ofDocument_eq_ok_iff.mpr ⟨m, generates, rfl⟩
  obtain ⟨m', names, es, generates', -, -, -, -, covers⟩ := ofDocument_dependencies_covers done
  obtain rfl : m = m' := Except.ok.inj (generates.symm.trans generates')
  refine ⟨_, m, done, specifiers, covers, ?_, ?_⟩
  · refine (covers.others "antd" (by decide) _).mpr ⟨by decide, by decide, "antd", ?_, by decide, ?_⟩
    · exact specifiers ▸ by decide
    · exact PackageImport.names_packageName? (by decide)
  · refine (covers.others "@mui/material" (by decide) _).mpr
      ⟨by decide, by decide, "@mui/material/Slider", ?_, by decide, ?_⟩
    · exact specifiers ▸ by decide
    · exact PackageImport.names_packageName? (by decide)

end Bundle

end ViewDoc
