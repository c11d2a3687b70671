import ViewDoc.Bundle.Basic
import ViewDoc.Failure
/-!
Writing bundles into a directory. Nothing is written unless every file lies within the directory; a
fault of the storage while writing leaves what was written before it.
-/

set_option autoImplicit false

namespace ViewDoc.Bundle

/-- What writing leaves behind, and the places of the files or the reason why it stopped. -/
structure Written where
  storage : Storage
  outcome : Except Failure (List Location)

private def escape (path : String) : Failure :=
  .reported ⟨.writing, "Bundle file escapes the output directory: " ++ path,
    some { source := some "export", path := some path }⟩

/-- The place of a file, which must lie within the root. -/
def target (root : Location) (f : BundleFile) : Except Failure (Location × ByteArray) :=
  let place := Location.resolve root f.path
  if f.path.toList.contains '\x00' then .error (.fault .nullInPath)
  else if Location.isWithin root place then .ok (place, f.content.toUTF8)
  else .error (escape f.path)

/-- Writes contents to their places, one after the other. -/
def writeAll (s : Storage) (done : List Location) : List (Location × ByteArray) -> Written
  | [] => ⟨s, .ok done⟩
  | (place, content) :: rest =>
    match s.makeDirectory place.dropLast with
    | .error f => ⟨s, .error (.storage f)⟩
    | .ok t =>
      match t.writeFile place content with
      | .error f => ⟨t, .error (.storage f)⟩
      | .ok u => writeAll u (done ++ [place]) rest

/-- Writes a bundle into a directory, which is found from a base. -/
def write (b : Bundle) (s : Storage) (base : Location) (directory : String) : Written :=
  if directory.toList.contains '\x00' then ⟨s, .error (.fault .nullInPath)⟩
  else
    match b.files.mapM (target (Location.resolve base directory)) with
    | .error f => ⟨s, .error f⟩
    | .ok targets => writeAll s [] targets

end ViewDoc.Bundle
