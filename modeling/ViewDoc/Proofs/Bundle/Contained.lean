import Mathlib.Data.List.Find
import ViewDoc.Bundle.Write
import ViewDoc.Proofs.Bundle.Files
import ViewDoc.Proofs.Text.Split
import ViewDoc.Proofs.Tsx.Name
import ViewDoc.Proofs.Tsx.Stylesheets
/-!
Where the files of a bundle are written. A path that never steps up leaves the root only if it starts
at the top, and no file of a project does. Of the files around a component the stylesheets may, and
then the bundle is not written into directories that they lie outside of.
-/

set_option autoImplicit false

namespace ViewDoc

namespace Location

variable {path : String}

theorem foldl_follow {parts : List String} (never : ".." ∉ parts) (place : Location) :
    parts.foldl follow place = place ++ parts.filter fun part => part ≠ "" && part ≠ "." := by
  induction parts generalizing place with
  | nil => simp
  | cons part rest ih =>
    obtain ⟨here, later⟩ := not_or.mp (mt List.mem_cons.mpr never)
    rw [List.foldl_cons, ih later, follow]
    by_cases stays : part = "" ∨ part = "."
    · rw [if_pos (by simpa using stays),
        List.filter_cons_of_neg (by simpa [or_iff_not_imp_left] using stays)]
    · obtain ⟨nonempty, moves⟩ := not_or.mp stays
      rw [if_neg (by simp [nonempty, moves]), if_neg (Ne.symm here),
        List.filter_cons_of_pos (by simp [nonempty, moves]), List.append_assoc,
        List.singleton_append]

theorem resolve_eq (never : ".." ∉ Text.split '/' path) (base : Location) :
    resolve base path = start base path ++ names path :=
  foldl_follow never _

/-- Whether a path starts at the top and leads outside a root. -/
def leaves (root : Location) (path : String) : Bool :=
  path.toList.head? == some '/' && !isWithin root (names path)

/-- A path that never steps up leads outside a root only if it starts at the top. -/
theorem isWithin_resolve (never : ".." ∉ Text.split '/' path) (root : Location) :
    isWithin root (resolve root path) = !leaves root path := by
  rw [resolve_eq never, start, leaves]
  split
  · rename_i top
    rw [top, List.nil_append, Bool.true_and, Bool.not_not]
  · rename_i below
    rw [Bool.eq_false_iff.mpr below, isWithin_append]
    rfl

end Location

namespace Bundle

/-- Whether a path leads to a place within a root where a file can be. -/
def isPlaced (root : Location) (path : String) : Bool :=
  !path.toList.contains '\x00' && Location.isWithin root (Location.resolve root path)

theorem isPlaced_of_relative {path : String} (relative : path.toList.head? ≠ some '/')
    (never : ".." ∉ Text.split '/' path) (root : Location) :
    isPlaced root path = !path.toList.contains '\x00' := by
  rw [isPlaced, Location.isWithin_resolve never, Location.leaves, beq_false_of_ne relative]
  exact Bool.and_true _

/-- The storage gives no reports. -/
theorem writeAll_ne_reported (s : Storage) (done : List Location)
    (targets : List (Location × ByteArray)) (e : ReportedError) :
    (writeAll s done targets).outcome ≠ .error (.reported e) := by
  induction targets generalizing s done with
  | nil => exact fun same => nomatch same
  | cons t rest ih =>
    rw [writeAll]
    split
    · exact fun same => nomatch same
    · split
      · exact fun same => nomatch same
      · exact ih _ _

/-- A file is placed, or it has no path at all, or its path leads outside. -/
theorem target_cases (root : Location) (f : BundleFile) :
    (isPlaced root f.path = true ∧ ∃ t, target root f = .ok t) ∨
      (isPlaced root f.path = false ∧ '\x00' ∈ f.path.toList ∧
        target root f = .error (.fault .nullInPath)) ∨
      isPlaced root f.path = false ∧ '\x00' ∉ f.path.toList ∧
        ∃ e, target root f = .error (.reported e) := by
  rw [isPlaced, target]
  cases null : f.path.toList.contains '\x00' with
  | true => exact .inr (.inl ⟨rfl, List.contains_iff_mem.mp null, rfl⟩)
  | false =>
    have plain : '\x00' ∉ f.path.toList := by simpa using null
    cases Location.isWithin root (Location.resolve root f.path) with
    | true => exact .inl ⟨rfl, _, rfl⟩
    | false => exact .inr (.inr ⟨rfl, plain, _, rfl⟩)

/-- The files are refused exactly if the first that is not placed has a path all the same. -/
theorem mapM_target_reported_iff (root : Location) (files : List BundleFile) :
    (∃ e, files.mapM (target root) = .error (.reported e)) ↔
      ∃ path, (files.map (·.path)).find? (fun path => !isPlaced root path) = some path ∧
        '\x00' ∉ path.toList := by
  induction files with
  | nil => simp [pure, Except.pure]
  | cons f rest ih =>
    rw [List.mapM_cons, List.map_cons]
    obtain ⟨placed, t, made⟩ | ⟨misplaced, null, made⟩ | ⟨misplaced, plain, e, made⟩ :=
      target_cases root f
    · rw [List.find?_cons_of_neg (by simp [placed]), ← ih, made]
      cases rest.mapM (target root) with
      | ok targets => simp [bind, Except.bind, pure, Except.pure]
      | error failure => simp [bind, Except.bind]
    · rw [List.find?_cons_of_pos (by simp [misplaced]), made]
      simp [bind, Except.bind, null]
    · rw [List.find?_cons_of_pos (by simp [misplaced]), made]
      simp [bind, Except.bind, plain]

theorem write_reported_iff (b : Bundle) (s : Storage) (base : Location) (directory : String) :
    (∃ e, (b.write s base directory).outcome = .error (.reported e)) ↔
      '\x00' ∉ directory.toList ∧ ∃ path, (b.files.map (·.path)).find?
        (fun path => !isPlaced (Location.resolve base directory) path) = some path ∧
          '\x00' ∉ path.toList := by
  rw [write]
  by_cases null : directory.toList.contains '\x00' = true
  · rw [if_pos null]
    simp [List.contains_iff_mem.mp null]
  · have plain : '\x00' ∉ directory.toList := fun mem => null (List.contains_iff_mem.mpr mem)
    rw [if_neg null, and_iff_right plain, ← mapM_target_reported_iff]
    cases b.files.mapM (target (Location.resolve base directory)) with
    | error failure => simp
    | ok targets => simp [writeAll_ne_reported]

open Tsx (IsName)

/-- A file that is named like a component lies next to it. -/
theorem isPlaced_component {name : String} (isName : IsName name) (root : Location) :
    isPlaced root (name ++ ".tsx") = true := by
  obtain ⟨c, rest, chars, start, tail⟩ := isName
  have whole : (name ++ ".tsx").toList = c :: (rest ++ ".tsx".toList) := by
    rw [String.toList_append, chars, List.cons_append]
  have absent (d : Char) (other : Tsx.isNameChar d = false) (apart : d ∉ ".tsx".toList) :
      d ∉ (name ++ ".tsx").toList := by
    rw [whole, List.mem_cons, List.mem_append, not_or, not_or]
    refine ⟨?_, fun mem => ?_, apart⟩
    · rintro rfl
      exact Bool.false_ne_true (other.symm.trans (Tsx.isNameChar_of_isNameStart start))
    · exact Bool.false_ne_true (other.symm.trans (tail d mem))
  have slashless : '/' ∉ (name ++ ".tsx").toList := absent '/' (by decide) (by decide)
  rw [isPlaced_of_relative]
  · simpa using absent '\x00' (by decide) (by decide)
  · intro top
    exact slashless (List.mem_of_head? top)
  · rw [Text.split_of_not_mem slashless, List.mem_singleton]
    intro same
    rw [← same] at whole
    obtain rfl : '.' = c := (List.cons.inj whole).1
    exact absurd start (by decide)

variable {m : Tsx.Module} {root : Location}

/-- A stylesheet of a project lies below its sources. -/
theorem isPlaced_sources {path : String} (admitted : Tsx.Stylesheet.Admits path) :
    isPlaced root ("src/" ++ path) = !("src/" ++ path).toList.contains '\x00' := by
  have whole : "src/" ++ path = .ofList ("src".toList ++ '/' :: path.toList) := by
    rw [← String.toList_inj, String.toList_ofList, String.toList_append]
    rfl
  refine isPlaced_of_relative ?_ ?_ root
  · rw [String.toList_append]
    exact fun top => absurd (Option.some.inj top) (by decide)
  · rw [whole, Text.split_append_cons, String.ofList_toList, String.ofList_toList, List.mem_append,
      Text.split_of_not_mem (by decide), not_or]
    exact ⟨by decide, admitted.2⟩

theorem isPlaced_generated (isName : IsName m.name) (kind : BundleKind) :
    ∀ path ∈ Entries.keys (generated m kind), isPlaced root path = true := by
  cases kind with
  | project =>
    have fixed (path : String) (relative : path.toList.head? ≠ some '/')
        (never : ".." ∉ Text.split '/' path) (plain : '\x00' ∉ path.toList) :
        isPlaced root path = true := by
      rw [isPlaced_of_relative relative never]
      simpa using plain
    intro path mem
    simp only [generated, Entries.keys, List.map_cons, List.map_nil, List.mem_cons, List.not_mem_nil,
      or_false] at mem
    rcases mem with rfl | rfl | rfl | rfl | rfl | rfl <;>
      exact fixed _ (by decide) (by decide) (by decide)
  | _ => exact List.forall_mem_singleton.mpr (isPlaced_component isName root)

/-- Only stylesheets are not placed, and the first of them stands for the first of all files. -/
theorem find?_misplaced (isName : IsName m.name) (once : (m.stylesheets.map (·.path)).Nodup)
    (kind : BundleKind) :
    ((ofModule m kind).files.map (·.path)).find? (fun path => !isPlaced root path) =
      (m.stylesheets.map fun s => sheetPath s.path kind).find? fun path => !isPlaced root path := by
  have placed : ∀ path ∈ Entries.keys (generated m kind), isPlaced root path = true :=
    isPlaced_generated isName kind
  have front : (Entries.keys (generated m kind)).find? (fun path => !isPlaced root path) = none :=
    List.find?_eq_none.mpr fun path mem => by simp [placed path mem]
  have sheets : Entries.keys (m.stylesheets.map fun s => (sheetPath s.path kind, s.content)) =
      m.stylesheets.map fun s => sheetPath s.path kind := by
    rw [Entries.keys, List.map_map]
    rfl
  rw [paths_ofModule, filesOf_eq, Entries.keys_merge (nodup_sheetPaths once), List.find?_append,
    front, Option.none_or, List.find?_filter, sheets]
  refine List.find?_congr fun path _ => ?_
  by_cases own : path ∈ Entries.keys (generated m kind)
  · simp [placed path own]
  · simp [own]

theorem isName_nameOf (requested : Option String) (metadata : Option Metadata) :
    IsName (Tsx.Module.nameOf requested metadata) := by
  rw [Tsx.Module.nameOf]
  split
  · exact Tsx.isName_identifier _
  · dsimp only
    split
    · exact ⟨'M', "drComponent".toList, by decide, by decide, List.all_eq_true.mp (by decide)⟩
    · exact Tsx.isName_identifier _

/-- The first stylesheet that has no place in a root, as its path holds a null character or leads
outside. -/
def unplaced? (m : Tsx.Module) (root : Location) : Option Tsx.Stylesheet :=
  m.stylesheets.find? fun s => s.path.toList.contains '\x00' || Location.leaves root s.path

/-- A bundle is refused exactly if it is no project, and the first of its stylesheets that has no
place in the root leads outside. -/
theorem write_ofModule_reported_iff (isName : IsName m.name)
    (admitted : ∀ s ∈ m.stylesheets, Tsx.Stylesheet.Admits s.path)
    (once : (m.stylesheets.map (·.path)).Nodup) (kind : BundleKind) (s : Storage) (base : Location)
    (directory : String) :
    (∃ e, ((ofModule m kind).write s base directory).outcome = .error (.reported e)) ↔
      kind ≠ .project ∧ '\x00' ∉ directory.toList ∧
        ∃ sheet, unplaced? m (Location.resolve base directory) = some sheet ∧
          '\x00' ∉ sheet.path.toList := by
  rw [write_reported_iff, find?_misplaced isName once, List.find?_map]
  have beside (kind : BundleKind) (same : ∀ path, sheetPath path kind = path) :
      m.stylesheets.find? ((fun path => !isPlaced (Location.resolve base directory) path) ∘
        fun s => sheetPath s.path kind) = unplaced? m (Location.resolve base directory) := by
    refine List.find?_congr fun s mem => ?_
    rw [Function.comp_apply, same, isPlaced, Location.isWithin_resolve (admitted s mem).2,
      ← Bool.not_or, Bool.not_not]
  cases kind with
  | project =>
    refine ⟨?_, fun ⟨other, _⟩ => absurd rfl other⟩
    rintro ⟨-, path, found, clean⟩
    obtain ⟨s, first, rfl⟩ := Option.map_eq_some_iff.mp found
    have outside := List.find?_some first
    rw [Function.comp_apply, sheetPath,
      isPlaced_sources (admitted s (List.mem_of_find?_eq_some first)), Bool.not_not] at outside
    exact absurd (List.contains_iff_mem.mp outside) clean
  | _ =>
    rw [beside _ fun _ => rfl]
    refine Iff.trans (and_congr_right fun _ => ⟨?_, ?_⟩) (and_iff_right (by decide)).symm
    · rintro ⟨path, found, clean⟩
      obtain ⟨s, first, rfl⟩ := Option.map_eq_some_iff.mp found
      exact ⟨s, first, clean⟩
    · rintro ⟨s, first, clean⟩
      exact ⟨s.path, Option.map_eq_some_iff.mpr ⟨s, first, rfl⟩, clean⟩

/-- The stylesheets of a document have the admitted ones of the paths that it lists, which start with
a slash only if the slash is hidden; a bundle is refused for no other reason. -/
theorem ofDocument_contained {source : Normalized} {kind : BundleKind} {options : Tsx.Options}
    {b : Bundle} (done : ofDocument source kind options = .ok b) :
    ∃ m names, Tsx.Module.generate source options = .ok m ∧
      Tsx.Declared.ofDocument source.document = .ok names ∧
      (∀ path, path ∈ m.stylesheets.map (·.path) ↔ Tsx.Stylesheet.Admits path ∧
        ∃ t, (Tsx.Blueprint.ofSource source options names).Includes t ∧ ∃ written content,
          (Tsx.Blueprint.ofSource source options names).Lists t written content ∧
          path = Tsx.Stylesheet.relativePath written) ∧
      (∀ written, (Tsx.Stylesheet.relativePath written).toList.head? = some '/' ↔
        Tsx.Stylesheet.HidesSlash written) ∧
      ∀ s base directory, (∃ e, (b.write s base directory).outcome = .error (.reported e)) ↔
        kind ≠ .project ∧ '\x00' ∉ directory.toList ∧
          ∃ sheet, unplaced? m (Location.resolve base directory) = some sheet ∧
            '\x00' ∉ sheet.path.toList := by
  obtain ⟨m, generates, rfl⟩ := ofDocument_eq_ok_iff.mp done
  obtain ⟨names, notes, made⟩ := Tsx.Module.exists_made generates
  have paths := made.mem_stylesheet_paths_iff
  refine ⟨m, names, generates, made.declared, paths, Tsx.Stylesheet.head?_relativePath_iff, ?_⟩
  have isName : IsName m.name := made.name ▸ isName_nameOf _ _
  exact write_ofModule_reported_iff isName
    (fun s mem => ((paths s.path).mp (List.mem_map_of_mem mem)).1) made.nodup_stylesheets kind

theorem styledPage_contained :
    ∃ b, ofDocument styledPage .component {} = .ok b ∧
      b.files.map (·.path) = ["MdrComponent.tsx", "styles/site.css", "index.html"] ∧
      ∀ s base directory e, (b.write s base directory).outcome ≠ .error (.reported e) := by
  have seen : (Tsx.Module.generate styledPage {}).toOption.map
      (fun m => (m.stylesheets.map (·.path), (ofModule m .component).files.map (·.path))) =
        some (["styles/site.css", "index.html"],
          ["MdrComponent.tsx", "styles/site.css", "index.html"]) := by decide +kernel
  obtain ⟨m, generates, shown⟩ := Fault.exists_of_seen seen
  obtain ⟨sheets, files⟩ := Prod.mk.inj shown
  have done : ofDocument styledPage .component {} = .ok (ofModule m .component) :=
    ofDocument_eq_ok_iff.mpr ⟨m, generates, rfl⟩
  obtain ⟨m', names, generates', -, -, -, refused⟩ := ofDocument_contained done
  obtain rfl : m = m' := Except.ok.inj (generates.symm.trans generates')
  refine ⟨_, done, files, fun s base directory e same => ?_⟩
  obtain ⟨-, -, sheet, first, -⟩ := (refused s base directory).mp ⟨e, same⟩
  have listed : sheet.path ∈ m.stylesheets.map (·.path) :=
    List.mem_map_of_mem (List.mem_of_find?_eq_some first)
  have outside := List.find?_some first
  rw [sheets] at listed
  simp only [List.mem_cons, List.not_mem_nil, or_false] at listed
  rcases listed with path | path <;> simp [path, Location.leaves] at outside

/-- A document with a stylesheet at a path that leads out of every directory but few. -/
def rootedSheet : Value :=
  .object [("version", .str "1.2"),
    ("ui", .object [("root", .object [("id", .str "root"), ("type", .str "div"),
      ("text", .str "Hi"), ("props", .object [("mountedCss", .list
        [.object [("path", .str ".//etc/site.css"), ("content", .str "p \x7b\x7d")]])])])])]

theorem rootedSheet_refused :
    (∃ r, Validation.ofValue rootedSheet = .ok r ∧ r.issues = [] ∧ r.diagnostics = []) ∧
      ∃ source m b e, normalize rootedSheet = .ok source ∧
        Tsx.Module.generate source {} = .ok m ∧ m.diagnostics = [] ∧
        m.stylesheets = [⟨"/etc/site.css", "p \x7b\x7d"⟩] ∧
        ofDocument source .component {} = .ok b ∧
        (b.write {} [] "out").outcome = .error (.reported e) ∧
        e.message = "Bundle file escapes the output directory: /etc/site.css" := by
  refine ⟨⟨_, rfl, rfl, rfl⟩, _, _, _, _, rfl, rfl, rfl, rfl, rfl, rfl, by decide⟩

end Bundle

end ViewDoc
