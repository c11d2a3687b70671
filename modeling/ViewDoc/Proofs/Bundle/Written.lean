import ViewDoc.Proofs.Bundle.Contained
import ViewDoc.Proofs.Storage.Frame
/-!
What writing a bundle leaves in a storage. All paths are checked before the first file is written, so
that nothing changes if one of them leads outside. The main statement says which path is told then,
and that otherwise nothing outside of the directory changes, and the last file at a place counts.
-/

set_option autoImplicit false

namespace ViewDoc

namespace Storage

/-- What lies outside of a root is as it was. Only directories above the root may have been made. -/
structure SameOutside (root : Location) (s t : Storage) : Prop where
  files : ∀ place, ¬ root <+: place -> t.file? place = s.file? place
  directories : ∀ place, ¬ root <+: place -> ¬ place <+: root ->
    t.isDirectory place = s.isDirectory place
  above : ∀ place, s.isDirectory place = true -> t.isDirectory place = true

theorem DiffersOnlyAt.sameOutside {root : Location} {places : List Location} {s t : Storage}
    (differs : DiffersOnlyAt places s t) (within : ∀ p ∈ places, root <+: p) :
    SameOutside root s t where
  files place outside := differs.files place fun mem => outside (within place mem)
  directories place outside apart := by
    rw [Bool.eq_iff_iff]
    refine ⟨fun there => (differs.made place there).elim id ?_, differs.kept place⟩
    rintro ⟨p, mem, above⟩
    -- Two places on the way to a third one lie on one way.
    have one_way := List.prefix_or_prefix_of_prefix (within p mem)
      (above.trans (List.dropLast_prefix p))
    exact (one_way.elim outside apart).elim
  above := differs.kept

end Storage

namespace Bundle

open Storage (DiffersOnlyAt SameOutside)

/-- The path of a file leads outside of a root. -/
def Escapes (root : Location) (f : BundleFile) : Prop :=
  ¬ root <+: Location.resolve root f.path

instance (root : Location) (f : BundleFile) : Decidable (Escapes root f) :=
  inferInstanceAs (Decidable (¬ _))

/-- The place of a file and what is written there. -/
def located (root : Location) (f : BundleFile) : Location × ByteArray :=
  (Location.resolve root f.path, f.content.toUTF8)

/-- What is told of a file whose path leads outside. -/
def escapeReport (f : BundleFile) : ReportedError where
  kind := .writing
  message := "Bundle file escapes the output directory: " ++ f.path
  context := some { source := some "export", path := some f.path }

/-- Why a file that has no place is refused. -/
def refusal (f : BundleFile) : Failure :=
  if f.path.toList.contains '\x00' then .fault .nullInPath else .reported (escapeReport f)

theorem isPlaced_iff (root : Location) (f : BundleFile) :
    isPlaced root f.path = true ↔ '\x00' ∉ f.path.toList ∧ ¬ Escapes root f := by
  rw [isPlaced, Bool.and_eq_true, Bool.not_eq_true', Location.isWithin, List.isPrefixOf_iff_prefix,
    Escapes, not_not]
  simp

theorem target_eq (root : Location) (f : BundleFile) :
    target root f = if isPlaced root f.path then .ok (located root f) else .error (refusal f) := by
  rw [target, isPlaced, refusal]
  cases f.path.toList.contains '\x00' <;>
    cases Location.isWithin root (Location.resolve root f.path) <;> rfl

/-- A check of all items refuses the first that does not pass. -/
theorem mapM_checked {α β ε : Type} (passes : α -> Bool) (made : α -> β) (refused : α -> ε)
    (l : List α) :
    (l.mapM fun a => if passes a then Except.ok (made a) else .error (refused a)) =
      match l.find? fun a => !passes a with
      | some a => .error (refused a)
      | none => .ok (l.map made) := by
  induction l with
  | nil => rfl
  | cons a rest ih =>
    rw [List.mapM_cons, ih]
    cases holds : passes a with
    | false => simp [holds, bind, Except.bind]
    | true =>
      simp only [holds, List.find?_cons, Bool.not_true]
      cases rest.find? fun a => !passes a <;> rfl

/-- The bundle is refused before anything is written, or its files are written to their places. -/
theorem write_eq (b : Bundle) (s : Storage) (base : Location) (directory : String) :
    b.write s base directory =
      if '\x00' ∈ directory.toList then ⟨s, .error (.fault .nullInPath)⟩
      else
        match b.files.find? fun f => !isPlaced (Location.resolve base directory) f.path with
        | some f => ⟨s, .error (refusal f)⟩
        | none => writeAll s [] (b.files.map (located (Location.resolve base directory))) := by
  rw [write, funext (target_eq _), mapM_checked]
  by_cases null : '\x00' ∈ directory.toList
  · rw [if_pos null, if_pos (List.contains_iff_mem.mpr null)]
  · rw [if_neg null, if_neg (mt List.contains_iff_mem.mp null)]
    cases b.files.find? fun f => !isPlaced (Location.resolve base directory) f.path <;> rfl

theorem write_cases (b : Bundle) (s : Storage) (base : Location) (directory : String) :
    (∃ failure, b.write s base directory = ⟨s, .error failure⟩) ∨
      b.write s base directory =
        writeAll s [] (b.files.map (located (Location.resolve base directory))) := by
  rw [write_eq]
  split
  · exact .inl ⟨_, rfl⟩
  · split
    · exact .inl ⟨_, rfl⟩
    · exact .inr rfl

section

variable (s : Storage) (done : List Location) (place : Location) (content : ByteArray)
  (rest targets : List (Location × ByteArray))

/-- A step of writing is refused by the storage, or it writes one file before the others. -/
theorem writeAll_cons_cases :
    ((writeAll s done ((place, content) :: rest)).outcome.toOption = none ∧
      DiffersOnlyAt [place] s (writeAll s done ((place, content) :: rest)).storage) ∨
    ∃ u, DiffersOnlyAt [place] s u ∧ u.file? place = some content ∧
      writeAll s done ((place, content) :: rest) = writeAll u (done ++ [place]) rest := by
  rw [writeAll]
  split
  · exact .inl ⟨rfl, .refl _ s⟩
  · rename_i t made
    have first := DiffersOnlyAt.of_makeDirectory made
    split
    · exact .inl ⟨rfl, first⟩
    · rename_i u written
      exact .inr ⟨u, first.trans (.of_writeFile written), Storage.file?_of_writeFile written, rfl⟩

/-- Whether all files are written or not, nothing differs but at their places. -/
theorem differsOnlyAt_writeAll :
    DiffersOnlyAt (targets.map (·.1)) s (writeAll s done targets).storage := by
  induction targets generalizing s done with
  | nil => exact .refl _ s
  | cons t rest ih =>
    obtain ⟨place, content⟩ := t
    have own : [place] ⊆ place :: rest.map (·.1) :=
      List.cons_subset_cons place (List.nil_subset _)
    obtain ⟨-, differs⟩ | ⟨u, first, -, same⟩ := writeAll_cons_cases s done place content rest
    · exact differs.mono own
    · rw [same]
      exact (first.mono own).trans ((ih u (done ++ [place])).mono (List.subset_cons_self _ _))

variable {s done targets} {places : List Location}

theorem places_of_writeAll (written : (writeAll s done targets).outcome = .ok places) :
    places = done ++ targets.map (·.1) := by
  induction targets generalizing s done with
  | nil =>
    cases written
    exact (List.append_nil _).symm
  | cons t rest ih =>
    obtain ⟨place, content⟩ := t
    obtain ⟨stopped, -⟩ | ⟨u, -, -, same⟩ := writeAll_cons_cases s done place content rest
    · rw [written] at stopped
      cases stopped
    · rw [same] at written
      rw [ih written, List.append_assoc]
      rfl

/-- What is written last at a place is there in the end. -/
theorem file?_writeAll {before after : List (Location × ByteArray)}
    (written : (writeAll s done (before ++ (place, content) :: after)).outcome = .ok places)
    (last : ∀ t ∈ after, t.1 ≠ place) :
    (writeAll s done (before ++ (place, content) :: after)).storage.file? place = some content := by
  induction before generalizing s done with
  | nil =>
    rw [List.nil_append] at written ⊢
    obtain ⟨stopped, -⟩ | ⟨u, -, there, same⟩ := writeAll_cons_cases s done place content after
    · rw [written] at stopped
      cases stopped
    · rw [same, (differsOnlyAt_writeAll u (done ++ [place]) after).files place, there]
      intro mem
      obtain ⟨t, among, own⟩ := List.mem_map.mp mem
      exact last t among own
  | cons t rest ih =>
    obtain ⟨first, text⟩ := t
    rw [List.cons_append] at written ⊢
    obtain ⟨stopped, -⟩ | ⟨u, -, -, same⟩ :=
      writeAll_cons_cases s done first text (rest ++ (place, content) :: after)
    · rw [written] at stopped
      cases stopped
    · rw [same] at written ⊢
      exact ih written

end

/-- A file is the first whose path leads outside, and no path up to it holds a null character. -/
def FirstToEscape (root : Location) (files : List BundleFile) (f : BundleFile) : Prop :=
  ∃ before after, files = before ++ f :: after ∧ Escapes root f ∧
    (∀ g ∈ before, ¬ Escapes root g) ∧ ∀ g ∈ before ++ [f], '\x00' ∉ g.path.toList

/-- At every place the last file counts. -/
def LastCounts (root : Location) (files : List BundleFile) (s : Storage) : Prop :=
  ∀ before f after, files = before ++ f :: after ->
    (∀ g ∈ after, Location.resolve root g.path ≠ Location.resolve root f.path) ->
    s.file? (Location.resolve root f.path) = some f.content.toUTF8

theorem refusal_eq_reported_iff (f : BundleFile) (e : ReportedError) :
    refusal f = .reported e ↔ '\x00' ∉ f.path.toList ∧ e = escapeReport f := by
  rw [refusal]
  split
  · rename_i null
    simp [List.contains_iff_mem.mp null]
  · rename_i plain
    rw [and_iff_right (mt List.contains_iff_mem.mpr plain), Failure.reported.injEq, eq_comm]

theorem find?_refused_iff (root : Location) (files : List BundleFile) (f : BundleFile) :
    (files.find? (fun f => !isPlaced root f.path) = some f ∧ '\x00' ∉ f.path.toList) ↔
      FirstToEscape root files f := by
  simp only [List.find?_eq_some_iff_append, FirstToEscape, Bool.not_not, Bool.not_eq_true',
    Bool.eq_false_iff, ne_eq, isPlaced_iff, not_and, not_not, List.forall_mem_append,
    List.forall_mem_singleton]
  constructor
  · rintro ⟨⟨unplaced, before, after, whole, placed⟩, plain⟩
    exact ⟨before, after, whole, unplaced plain, fun g mem => (placed g mem).2,
      fun g mem => (placed g mem).1, plain⟩
  · rintro ⟨before, after, whole, escapes, inside, plain, own⟩
    exact ⟨⟨fun _ => escapes, before, after, whole, fun g mem => ⟨plain g mem, inside g mem⟩⟩, own⟩

theorem write_eq_reported_iff (b : Bundle) (s : Storage) (base : Location) (directory : String)
    (e : ReportedError) :
    (b.write s base directory).outcome = .error (.reported e) ↔
      '\x00' ∉ directory.toList ∧
        ∃ f, FirstToEscape (Location.resolve base directory) b.files f ∧ e = escapeReport f := by
  simp only [← find?_refused_iff, write_eq]
  split
  · rename_i null
    simp [null]
  · rename_i plain
    rw [and_iff_right plain]
    split
    · rename_i f found
      simp [found, refusal_eq_reported_iff]
    · rename_i nothing
      simp [nothing, writeAll_ne_reported]

theorem write_of_escapes {b : Bundle} {base : Location} {directory : String}
    (escapes : ∃ f ∈ b.files, Escapes (Location.resolve base directory) f) (s : Storage) :
    ∃ failure, b.write s base directory = ⟨s, .error failure⟩ := by
  obtain ⟨f, mem, escapes⟩ := escapes
  rw [write_eq]
  split
  · exact ⟨_, rfl⟩
  · split
    · exact ⟨_, rfl⟩
    · rename_i nothing
      have placed := List.find?_eq_none.mp nothing f mem
      rw [Bool.not_eq_true, Bool.not_eq_false'] at placed
      exact absurd escapes ((isPlaced_iff _ f).mp placed).2

/-- The places of files. -/
def placesOf (root : Location) (files : List BundleFile) : List Location :=
  files.map fun f => Location.resolve root f.path

theorem map_located (root : Location) (files : List BundleFile) :
    (files.map (located root)).map (·.1) = placesOf root files :=
  List.map_map

theorem differsOnlyAt_write (b : Bundle) (s : Storage) (base : Location) (directory : String) :
    DiffersOnlyAt (placesOf (Location.resolve base directory) b.files) s
      (b.write s base directory).storage := by
  obtain ⟨failure, same⟩ | same := write_cases b s base directory
  · rw [same]
    exact .refl _ s
  · rw [same, ← map_located]
    exact differsOnlyAt_writeAll s [] _

/-- When all files are written, the last one at every place is there. -/
theorem lastCounts_write {b : Bundle} {s : Storage} {base : Location} {directory : String}
    {places : List Location} (written : (b.write s base directory).outcome = .ok places) :
    places = placesOf (Location.resolve base directory) b.files ∧
      LastCounts (Location.resolve base directory) b.files (b.write s base directory).storage := by
  obtain ⟨failure, same⟩ | same := write_cases b s base directory
  · rw [same] at written
    cases written
  · rw [same] at written ⊢
    refine ⟨(places_of_writeAll written).trans (map_located _ _), ?_⟩
    intro before f after whole last
    rw [whole, List.map_append, List.map_cons] at written ⊢
    refine file?_writeAll _ _ written fun t mem => ?_
    obtain ⟨g, among, rfl⟩ := List.mem_map.mp mem
    exact last g among

/-- Files of which two lie at one place, though they are spelled differently. -/
def twice : Bundle where
  kind := .component
  entry := "A.tsx"
  files := [{ path := "A.tsx", content := "old" }, { path := "site//site.css", content := "p" },
    { path := "./site/../A.tsx", content := "new" }]

/-- A file whose path leads outside after one whose path holds a null character. -/
def nullBefore : Bundle where
  kind := .component
  entry := "A.tsx"
  files := [{ path := "A\x00.tsx", content := "" }, { path := "../evil.txt", content := "" }]

end Bundle

end ViewDoc
