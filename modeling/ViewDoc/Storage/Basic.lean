import ViewDoc.Text.Split
/-!
Places in a file system, and storage with files and directories at places. Paths are resolved by their
text alone, as if there were no links and every directory were there. A directory is there when it was
made, and also when something lies below it.
-/

set_option autoImplicit false

namespace ViewDoc

/-- A place: the names that lead to it from the top. -/
abbrev Location := List String

namespace Location

/-- Follows one part of a path. -/
def follow (place : Location) (part : String) : Location :=
  if part = "" || part = "." then place
  else if part = ".." then place.dropLast
  else place ++ [part]

/-- The place where a path starts. One that starts at the top leaves the base. -/
def start (base : Location) (path : String) : Location :=
  if path.toList.head? == some '/' then [] else base

/-- The place that a path leads to from a base. -/
def resolve (base : Location) (path : String) : Location :=
  (Text.split '/' path).foldl follow (start base path)

/-- Whether a place is a root or lies below it. -/
def isWithin (root place : Location) : Bool :=
  root.isPrefixOf place

/-- A place as it is written from the top. -/
def text (place : Location) : String :=
  "/" ++ "/".intercalate place

/-- A place as it is written from a base, if it lies within it. -/
def written? (base place : Location) : Option String :=
  if isWithin base place then some ("/".intercalate (place.drop base.length)) else none

/-- The names in a path that name something. -/
def names (path : String) : List String :=
  (Text.split '/' path).filter fun part => part ≠ "" && part ≠ "."

/-- The last name in a path. -/
def lastName (path : String) : String :=
  ((names path).getLast?).getD ""

/-- The start of a path that leaves the base. Exactly two slashes are kept. -/
def top (path : String) : String :=
  match (path.toList.takeWhile (· == '/')).length with
  | 0 => ""
  | 2 => "//"
  | _ => "/"

/-- A path in its shortest spelling that keeps every step. -/
def spelling (path : String) : String :=
  let text := top path ++ "/".intercalate (names path)
  if text = "" then "." else text

/-- The ending of the last name of a path, from its last point on. A point at either end of the name
starts no ending. -/
def ending (path : String) : String :=
  let name := (lastName path).toList
  let tail := (name.reverse.takeWhile (· ≠ '.')).reverse
  if tail.isEmpty || name.length ≤ tail.length + 1 then "" else .ofList ('.' :: tail)

theorem isWithin_append (root rest : Location) : isWithin root (root ++ rest) = true := by
  simp [isWithin]

end Location

/-- The content of a file system. -/
structure Storage where
  files : List (Location × ByteArray) := []
  directories : List Location := []

/-- Why storage refuses an operation. -/
inductive StorageFault where
  | missing
  | notDirectory
  | isDirectory
  /-- A file stands where a directory is to be made. -/
  | occupied
  | tooLong
  deriving DecidableEq, Repr

namespace Storage

/-- The longest name of a file, in bytes. -/
def nameLimit : Nat := 255

/-- The longest path, in bytes. -/
def pathLimit : Nat := 4095

/-- The content of the file at a place. -/
def file? (s : Storage) (place : Location) : Option ByteArray :=
  s.files.lookup place

/-- Whether there is a file at a place. -/
def isFile (s : Storage) (place : Location) : Bool :=
  (s.file? place).isSome

/-- Whether there is a directory at a place. -/
def isDirectory (s : Storage) (place : Location) : Bool :=
  place.isEmpty || s.directories.any (place.isPrefixOf ·) ||
    s.files.any fun f => place.isPrefixOf f.1 && f.1 != place

/-- Whether there is anything at a place. -/
def isPresent (s : Storage) (place : Location) : Bool :=
  s.isFile place || s.isDirectory place

/-- The places on the way to a place, with the place itself. -/
def way (place : Location) : List Location :=
  (List.range (place.length + 1)).map place.take

/-- Reads a file. -/
def read (s : Storage) (place : Location) : Except StorageFault ByteArray :=
  match s.file? place with
  | some content => .ok content
  | none => .error (if s.isDirectory place then .isDirectory else .missing)

/-- Takes one step of a path from a place, which must be a directory. -/
def step (s : Storage) (place : Location) (name : String) : Except StorageFault Location :=
  if s.isFile place then .error .notDirectory
  else if !s.isDirectory place then .error .missing
  else if nameLimit < name.utf8ByteSize then .error .tooLong
  else .ok (Location.follow place name)

/-- The place that a path leads to from a base, through directories that are there. There need not be
anything at the place itself. -/
def locate (s : Storage) (base : Location) (path : String) : Except StorageFault Location :=
  let shown := Location.spelling path
  if pathLimit < shown.utf8ByteSize then .error .tooLong
  else (Location.names shown).foldlM s.step (Location.start base shown)

/-- Reads the file that a path leads to. -/
def readPath (s : Storage) (base : Location) (path : String) : Except StorageFault ByteArray := do
  s.read (← s.locate base path)

/-- Whether a place and every name on the way are short enough. -/
def fits (place : Location) : Bool :=
  (Location.text place).utf8ByteSize ≤ pathLimit &&
    place.all fun name => name.utf8ByteSize ≤ nameLimit

/-- Makes a directory, with those above it. One that is there stays as it is. -/
def makeDirectory (s : Storage) (place : Location) : Except StorageFault Storage :=
  if !fits place then .error .tooLong
  else if s.isFile place then .error .occupied
  else if (way place).any s.isFile then .error .notDirectory
  else .ok (if s.isDirectory place then s else { s with directories := s.directories ++ [place] })

/-- Makes the directories that a path goes through from a place, name by name, and that at its end. -/
def makeAlong (s : Storage) (place : Location) : List String -> Except StorageFault Storage
  | [] => .ok s
  | [name] => s.makeDirectory (Location.follow place name)
  | name :: rest => do
    let next := Location.follow place name
    if s.isFile next then .error .notDirectory else makeAlong (← s.makeDirectory next) next rest

/-- Makes the directory that a path leads to from a base, and those on the way. -/
def makePath (s : Storage) (base : Location) (path : String) : Except StorageFault Storage :=
  if pathLimit < (Location.spelling path).utf8ByteSize then .error .tooLong
  else s.makeAlong (Location.start base path) (Location.names path)

/-- The list with the content of the file at a place. -/
def setFile (place : Location) (content : ByteArray) :
    List (Location × ByteArray) -> List (Location × ByteArray)
  | [] => [(place, content)]
  | f :: rest => if f.1 = place then (place, content) :: rest else f :: setFile place content rest

/-- Writes a file in a directory that is there. -/
def writeFile (s : Storage) (place : Location) (content : ByteArray) :
    Except StorageFault Storage :=
  if s.isDirectory place then .error .isDirectory
  else if !s.isDirectory place.dropLast then .error .missing
  else if !fits place then .error .tooLong
  else .ok { s with files := setFile place content s.files }

/-- The files that are not in an earlier storage, or have another content there. -/
def filesSince (s before : Storage) : List (Location × ByteArray) :=
  s.files.filter fun f => (before.file? f.1).map ByteArray.toList != some f.2.toList

/-- The directories that are not in an earlier storage. -/
def directoriesSince (s before : Storage) : List Location :=
  s.directories.filter fun d => !before.isDirectory d

end Storage

end ViewDoc
