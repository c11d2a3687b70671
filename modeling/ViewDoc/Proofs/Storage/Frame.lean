import Mathlib.Data.List.Infix
import ViewDoc.Storage.Basic
/-!
What making directories and writing files leaves as it is. The main statement is that a written file
is there with its content, and that nothing else differs but for the directories on the way to it.
-/

set_option autoImplicit false

namespace ViewDoc.Storage

variable {s t u : Storage} {place other : Location} {content : ByteArray}

theorem lookup_setFile_self (place : Location) (content : ByteArray)
    (files : List (Location × ByteArray)) :
    (setFile place content files).lookup place = some content := by
  induction files with
  | nil => simp [setFile]
  | cons f rest ih =>
    rw [setFile]
    split
    · exact List.lookup_cons_self
    · rename_i differs
      rw [List.lookup_cons, beq_false_of_ne (Ne.symm differs)]
      exact ih

theorem lookup_setFile_of_ne (differs : other ≠ place) (content : ByteArray)
    (files : List (Location × ByteArray)) :
    (setFile place content files).lookup other = files.lookup other := by
  induction files with
  | nil => simp [setFile, List.lookup_cons, beq_false_of_ne differs]
  | cons f rest ih =>
    rw [setFile]
    split
    · rename_i same
      rw [List.lookup_cons, List.lookup_cons, same, beq_false_of_ne differs]
    · rw [List.lookup_cons, List.lookup_cons, ih]

/-- A file that is set is there among the others. -/
theorem exists_mem_setFile_iff (p : Location -> Prop) (place : Location) (content : ByteArray)
    (files : List (Location × ByteArray)) :
    (∃ f ∈ setFile place content files, p f.1) ↔ p place ∨ ∃ f ∈ files, p f.1 := by
  induction files with
  | nil => simp [setFile]
  | cons f rest ih =>
    rw [setFile]
    split
    · rename_i same
      simp [← same]
    · simp only [List.mem_cons, exists_eq_or_imp, ih]
      exact or_left_comm

theorem isDirectory_iff (s : Storage) (place : Location) :
    s.isDirectory place = true ↔ place = [] ∨ (∃ d ∈ s.directories, place <+: d) ∨
      ∃ f ∈ s.files, place <+: f.1 ∧ f.1 ≠ place := by
  simp [isDirectory, List.isPrefixOf_iff_prefix, or_assoc]

/-- What lies on the way to a directory is a directory. -/
theorem isDirectory_of_prefix (above : place <+: other) (there : s.isDirectory other = true) :
    s.isDirectory place = true := by
  rw [isDirectory_iff] at there ⊢
  rcases there with rfl | ⟨d, mem, below⟩ | ⟨f, mem, below, differs⟩
  · exact .inl (List.prefix_nil.mp above)
  · exact .inr (.inl ⟨d, mem, above.trans below⟩)
  · refine .inr (.inr ⟨f, mem, above.trans below, fun same => differs ?_⟩)
    exact (below.eq_of_length_le (same ▸ above.length_le)).symm

/-- A directory that is made is added, unless it is there. -/
theorem makeDirectory_cases (made : s.makeDirectory place = .ok t) :
    s.isDirectory place = true ∧ t = s ∨ t = { s with directories := s.directories ++ [place] } := by
  rw [makeDirectory] at made
  repeat' split at made
  all_goals cases made
  · exact .inl ⟨‹_›, rfl⟩
  · exact .inr rfl

/-- A file is written where no directory is, into a directory that is there. -/
theorem writeFile_cases (written : s.writeFile place content = .ok t) :
    s.isDirectory place.dropLast = true ∧ s.isDirectory place = false ∧
      t = { s with files := setFile place content s.files } := by
  rw [writeFile] at written
  repeat' split at written
  all_goals cases written
  simp_all

theorem files_of_makeDirectory (made : s.makeDirectory place = .ok t) : t.files = s.files := by
  rcases makeDirectory_cases made with ⟨-, rfl⟩ | rfl <;> rfl

/-- Making a directory makes those on the way to it, and no other. -/
theorem isDirectory_of_makeDirectory (made : s.makeDirectory place = .ok t) (other : Location) :
    t.isDirectory other = true ↔ s.isDirectory other = true ∨ other <+: place := by
  rcases makeDirectory_cases made with ⟨there, rfl⟩ | rfl
  · exact ⟨.inl, fun either => either.elim id fun above => isDirectory_of_prefix above there⟩
  · simp only [isDirectory_iff, List.mem_append, List.mem_singleton, or_and_right, exists_or,
      exists_eq_left]
    grind

/-- What lies on the way to a place, and is not the place, lies on the way to its directory. -/
theorem prefix_dropLast (above : other <+: place) (differs : place ≠ other) :
    other <+: place.dropLast := by
  rcases List.eq_nil_or_concat place with rfl | ⟨front, name, rfl⟩
  · exact absurd (List.prefix_nil.mp above).symm differs
  · rw [List.concat_eq_append] at above differs ⊢
    rw [List.dropLast_concat]
    exact (List.prefix_concat_iff.mp above).resolve_left (Ne.symm differs)

/-- Writing a file makes no directory. -/
theorem isDirectory_of_writeFile (written : s.writeFile place content = .ok t) (other : Location) :
    t.isDirectory other = s.isDirectory other := by
  obtain ⟨there, -, rfl⟩ := writeFile_cases written
  have files := exists_mem_setFile_iff (fun p => other <+: p ∧ p ≠ other) place content s.files
  rw [Bool.eq_iff_iff]
  constructor
  · intro directory
    rw [isDirectory_iff, files] at directory
    rcases directory with top | made | ⟨above, differs⟩ | below
    · exact (isDirectory_iff s other).mpr (.inl top)
    · exact (isDirectory_iff s other).mpr (.inr (.inl made))
    · exact isDirectory_of_prefix (prefix_dropLast above differs) there
    · exact (isDirectory_iff s other).mpr (.inr (.inr below))
  · rw [isDirectory_iff, isDirectory_iff, files]
    exact Or.imp_right (Or.imp_right .inr)

/-- Storage differs from what it was only by files at some places and by directories on the way to
them. -/
structure DiffersOnlyAt (places : List Location) (s t : Storage) : Prop where
  files : ∀ place, place ∉ places -> t.file? place = s.file? place
  kept : ∀ place, s.isDirectory place = true -> t.isDirectory place = true
  made : ∀ place, t.isDirectory place = true ->
    s.isDirectory place = true ∨ ∃ p ∈ places, place <+: p.dropLast

namespace DiffersOnlyAt

variable {places more : List Location}

theorem refl (places : List Location) (s : Storage) : DiffersOnlyAt places s s :=
  ⟨fun _ _ => rfl, fun _ => id, fun _ => .inl⟩

theorem trans (first : DiffersOnlyAt places s t) (next : DiffersOnlyAt places t u) :
    DiffersOnlyAt places s u where
  files place other := (next.files place other).trans (first.files place other)
  kept place there := next.kept place (first.kept place there)
  made place there := (next.made place there).elim (first.made place) .inr

theorem mono (differs : DiffersOnlyAt places s t) (among : places ⊆ more) :
    DiffersOnlyAt more s t where
  files place other := differs.files place fun mem => other (among mem)
  kept := differs.kept
  made place there := (differs.made place there).imp_right fun ⟨p, mem, above⟩ =>
    ⟨p, among mem, above⟩

/-- A directory is made for a file at a place. -/
theorem of_makeDirectory (made : s.makeDirectory place.dropLast = .ok t) :
    DiffersOnlyAt [place] s t where
  files _ _ := by rw [file?, file?, files_of_makeDirectory made]
  kept other there := (isDirectory_of_makeDirectory made other).mpr (.inl there)
  made other there := ((isDirectory_of_makeDirectory made other).mp there).imp_right fun above =>
    ⟨place, List.mem_singleton_self place, above⟩

theorem of_writeFile (written : s.writeFile place content = .ok t) :
    DiffersOnlyAt [place] s t where
  files other differs := by
    obtain ⟨-, -, rfl⟩ := writeFile_cases written
    exact lookup_setFile_of_ne (mt List.mem_singleton.mpr differs) content s.files
  kept other there := (isDirectory_of_writeFile written other).trans there
  made other there := .inl ((isDirectory_of_writeFile written other).symm.trans there)

end DiffersOnlyAt

/-- A file that is written is there. -/
theorem file?_of_writeFile (written : s.writeFile place content = .ok t) :
    t.file? place = some content := by
  obtain ⟨-, -, rfl⟩ := writeFile_cases written
  exact lookup_setFile_self place content s.files

end ViewDoc.Storage
