import ViewDoc.Bundle.Export
import ViewDoc.Document.Load
import ViewDoc.Proofs.Tsx.Gathers
import ViewDoc.Proofs.Value.Distinct
import ViewDoc.Validation
/-!
The files of a bundle. Every path is there once, and every stylesheet with its own content. A
stylesheet at the path of a generated file takes its place, so that the generated files are there
exactly if no stylesheet has the name of the component, or of the module that mounts it.
-/

set_option autoImplicit false

namespace ViewDoc.Bundle

/-- The content of the first file at a path. -/
def content? (b : Bundle) (path : String) : Option String :=
  (b.file? path).map (·.content)

/-- The files that are generated, by their paths. -/
def generated (m : Tsx.Module) : BundleKind -> List (String × String)
  | .project =>
    [("package.json", Json.write .indented (Project.manifest m) ++ "\n"),
      ("index.html", Project.page m.name),
      ("tsconfig.json", Json.write .indented Project.typeSettings ++ "\n"),
      ("vite.config.ts", Project.bundlerSettings), ("src/main.tsx", Project.entryModule),
      ("src/App.tsx", m.text)]
  | _ => [(m.name ++ ".tsx", m.text)]

/-- The path in a bundle of a stylesheet. -/
def sheetPath (path : String) : BundleKind -> String
  | .project => "src/" ++ path
  | _ => path

/-- The paths beside the component that generated files have, with their contents. -/
def beside (m : Tsx.Module) : BundleKind -> List (String × String)
  | .project => [("main.tsx", Project.entryModule), ("App.tsx", m.text)]
  | _ => [(m.name ++ ".tsx", m.text)]

variable (m : Tsx.Module) (kind : BundleKind)

theorem filesOf_eq :
    filesOf m kind =
      Entries.merge (generated m kind)
        (m.stylesheets.map fun s => (sheetPath s.path kind, s.content)) := by
  cases kind <;> rfl

theorem entry_mem_generated : (entryPath m kind, m.text) ∈ generated m kind := by
  cases kind <;> simp [entryPath, generated, Project.componentPath]

theorem nodup_keys_generated : (Entries.keys (generated m kind)).Nodup := by
  cases kind with
  | project =>
    simp only [generated, Entries.keys, List.map_cons, List.map_nil]
    decide
  | _ => exact List.nodup_singleton _

theorem sheetPath_injective {path other : String}
    (same : sheetPath path kind = sheetPath other kind) : path = other := by
  cases kind with
  | project => exact (String.append_right_inj _).mp same
  | _ => exact same

/-- A stylesheet has the path of a generated file exactly if that file lies beside the component and
has its name. -/
theorem sheetPath_mem_generated_iff (path content : String) :
    (sheetPath path kind, content) ∈ generated m kind ↔ (path, content) ∈ beside m kind := by
  cases kind with
  | project =>
    have main : "src/" ++ path = "src/main.tsx" ↔ path = "main.tsx" :=
      @String.append_right_inj "src/" path "main.tsx"
    have app : "src/" ++ path = "src/App.tsx" ↔ path = "App.tsx" :=
      @String.append_right_inj "src/" path "App.tsx"
    have outside (other : String) (apart : other.toList.head? ≠ some 's') :
        "src/" ++ path ≠ other := by
      intro same
      rw [← same] at apart
      exact apart (by simp)
    simp only [sheetPath, generated, beside, List.mem_cons, Prod.mk.injEq, main, app,
      outside "package.json" (by decide), outside "index.html" (by decide),
      outside "tsconfig.json" (by decide), outside "vite.config.ts" (by decide), false_and, false_or,
      List.not_mem_nil]
  | _ => exact Iff.rfl

theorem content?_ofModule (path : String) :
    (ofModule m kind).content? path = Entries.get? (filesOf m kind) path := by
  change ((((filesOf m kind).map fun f => BundleFile.ofContent f.1 f.2).find?
    fun f => f.path == path).map (·.content)) = _
  rw [List.find?_map, Option.map_map, Entries.get?_eq_find?]
  rfl

theorem paths_ofModule :
    (ofModule m kind).files.map (·.path) = Entries.keys (filesOf m kind) := by
  rw [ofModule, List.map_map]
  rfl

variable {m kind}

theorem nodup_sheetPaths (once : (m.stylesheets.map (·.path)).Nodup) :
    (Entries.keys (m.stylesheets.map fun s => (sheetPath s.path kind, s.content))).Nodup := by
  have placed := once.map (f := fun path => sheetPath path kind) fun _ _ => sheetPath_injective kind
  rw [List.map_map] at placed
  rw [Entries.keys, List.map_map]
  exact placed

/-- A stylesheet goes before a generated file. -/
theorem content?_eq (once : (m.stylesheets.map (·.path)).Nodup) (path : String) :
    (ofModule m kind).content? path =
      (Entries.get? (m.stylesheets.map fun s => (sheetPath s.path kind, s.content)) path).or
        (Entries.get? (generated m kind) path) := by
  rw [content?_ofModule, filesOf_eq, Entries.get?_merge (nodup_sheetPaths once)]

theorem content?_sheetPath (once : (m.stylesheets.map (·.path)).Nodup) {s : Tsx.Stylesheet}
    (mem : s ∈ m.stylesheets) :
    (ofModule m kind).content? (sheetPath s.path kind) = some s.content := by
  have placed : (sheetPath s.path kind, s.content) ∈
      m.stylesheets.map fun s => (sheetPath s.path kind, s.content) := List.mem_map_of_mem mem
  rw [content?_eq once, Entries.get?_of_mem (nodup_sheetPaths once) placed]
  rfl

/-- A generated file keeps its content exactly if every stylesheet at its path has that content. -/
theorem content?_generated_iff (once : (m.stylesheets.map (·.path)).Nodup) {f : String × String}
    (mem : f ∈ generated m kind) :
    (ofModule m kind).content? f.1 = some f.2 ↔
      ∀ s ∈ m.stylesheets, sheetPath s.path kind = f.1 -> s.content = f.2 := by
  constructor
  · intro kept s listed same
    rw [← same, content?_sheetPath once listed] at kept
    exact Option.some.inj kept
  · intro same
    rw [content?_eq once, Entries.get?_of_mem (nodup_keys_generated m kind) mem]
    cases found : Entries.get? (m.stylesheets.map fun s => (sheetPath s.path kind, s.content)) f.1 with
    | none => rfl
    | some content =>
      obtain ⟨s, listed, placed⟩ := List.mem_map.mp (Entries.mem_of_get? found)
      obtain ⟨path, own⟩ := Prod.mk.inj placed
      rw [Option.some_or, ← own, same s listed path]

theorem ofDocument_eq_ok_iff {source : Normalized} {options : Tsx.Options} {b : Bundle} :
    ofDocument source kind options = .ok b ↔
      ∃ m, Tsx.Module.generate source options = .ok m ∧ b = ofModule m kind := by
  rw [ofDocument]
  cases Tsx.Module.generate source options with
  | error fault =>
    refine iff_of_false (fun done => nomatch done) ?_
    rintro ⟨m, done, -⟩
    cases done
  | ok m =>
    constructor
    · intro done
      exact ⟨m, rfl, (Except.ok.inj done).symm⟩
    · rintro ⟨_, same, rfl⟩
      cases same
      rfl

/-- In a bundle every path is there once, and every stylesheet with its own content; the generated
files are all there exactly if no stylesheet has the name of one beside the component. -/
theorem ofDocument_keeps_iff {source : Normalized} {options : Tsx.Options} {b : Bundle}
    (done : ofDocument source kind options = .ok b) :
    ∃ m, Tsx.Module.generate source options = .ok m ∧ b.kind = kind ∧
      (b.files.map (·.path)).Nodup ∧
      (∀ s ∈ m.stylesheets, b.content? (sheetPath s.path kind) = some s.content) ∧
      ((b.content? b.entry = some m.text ∧ ∀ f ∈ generated m kind, b.content? f.1 = some f.2) ↔
        ∀ s ∈ m.stylesheets, ∀ f ∈ beside m kind, s.path = f.1 -> s.content = f.2) := by
  obtain ⟨m, generates, rfl⟩ := ofDocument_eq_ok_iff.mp done
  obtain ⟨names, notes, made⟩ := Tsx.Module.exists_made generates
  have once := made.nodup_stylesheets
  have files : ((ofModule m kind).files.map (·.path)).Nodup := by
    rw [paths_ofModule, filesOf_eq]
    exact Entries.nodup_keys_merge (nodup_keys_generated m kind) _
  refine ⟨m, generates, rfl, files, fun s mem => content?_sheetPath once mem, ?_⟩
  constructor
  · rintro ⟨-, kept⟩ s mem f named same
    have placed := (sheetPath_mem_generated_iff m kind f.1 f.2).mpr named
    exact (content?_generated_iff once placed).mp (kept _ placed) s mem
      (congrArg (sheetPath · kind) same)
  · intro apart
    have kept (f : String × String) (mem : f ∈ generated m kind) :
        (ofModule m kind).content? f.1 = some f.2 := by
      refine (content?_generated_iff once mem).mpr fun s listed same => ?_
      have named := (sheetPath_mem_generated_iff m kind s.path f.2).mp (same ▸ mem)
      exact apart s listed (s.path, f.2) named rfl
    exact ⟨kept _ (entry_mem_generated m kind), kept⟩

/-- A page with a stylesheet in a directory, and one that has the name of a file outside. -/
def styledPage : Normalized where
  document := {
    version := "1.2"
    root := .node { id := "root", type := "div", text := .str "Hi", props :=
      [("mountedCss", .list
        [.object [("path", .str "./styles/site.css"), ("content", .str "p \x7b\x7d")],
          .object [("path", .str "/index.html"), ("content", .str "b \x7b\x7d")]])] } [] }
  diagnostics := []

theorem styledPage_keeps :
    ∃ b, ofDocument styledPage .project {} = .ok b ∧ (b.files.map (·.path)).Nodup ∧
      b.content? "src/styles/site.css" = some "p \x7b\x7d" ∧
      b.content? "src/index.html" = some "b \x7b\x7d" ∧
      ∃ m, Tsx.Module.generate styledPage {} = .ok m ∧ b.content? b.entry = some m.text ∧
        ∀ f ∈ generated m .project, b.content? f.1 = some f.2 := by
  have seen : (Tsx.Module.generate styledPage {}).toOption.map (·.stylesheets) =
      some [⟨"styles/site.css", "p \x7b\x7d"⟩, ⟨"index.html", "b \x7b\x7d"⟩] := by decide +kernel
  obtain ⟨m, generates, listed⟩ := Fault.exists_of_seen seen
  have done : ofDocument styledPage .project {} = .ok (ofModule m .project) :=
    ofDocument_eq_ok_iff.mpr ⟨m, generates, rfl⟩
  obtain ⟨m', generates', -, once, sheets, kept⟩ := ofDocument_keeps_iff done
  obtain rfl : m = m' := Except.ok.inj (generates.symm.trans generates')
  rw [listed] at sheets kept
  obtain ⟨entry, files⟩ := kept.mpr (by simp [beside])
  exact ⟨_, done, once, sheets _ List.mem_cons_self,
    sheets _ (List.mem_cons_of_mem _ List.mem_cons_self), m, generates, entry, files⟩

/-- A document with a stylesheet that has the name of its component. -/
def styledOver : Value :=
  .object [("version", .str "1.2"),
    ("ui", .object [("root", .object [("id", .str "root"), ("type", .str "div"),
      ("text", .str "Hi"), ("props", .object [("mountedCss", .list
        [.object [("path", .str "MdrComponent.tsx"), ("content", .str "p \x7b\x7d")]])])])])]

theorem styledOver_lost :
    (∃ r, Validation.ofValue styledOver = .ok r ∧ r.issues = [] ∧ r.diagnostics = []) ∧
      ∃ source m b, normalize styledOver = .ok source ∧ Tsx.Module.generate source {} = .ok m ∧
        ofDocument source .component {} = .ok b ∧ b.diagnostics = [] ∧
        b.entry = "MdrComponent.tsx" ∧ b.content? b.entry = some "p \x7b\x7d" ∧
        m.text ≠ "p \x7b\x7d" := by
  refine ⟨⟨_, rfl, rfl, rfl⟩, _, _, _, rfl, rfl, rfl, rfl, rfl, rfl, by decide +kernel⟩

end ViewDoc.Bundle
