/-!
# Files and directories

The part of a disk that a program started in some directory can see. A path is a row of names
with slashes between them, of which empty ones say nothing. It is followed name by name, each of
which must be looked up in a directory; a single dot stays there and two dots go up.
-/

namespace Coordination

/-- What can be at a place. -/
inductive DiskEntry where
  | file (content : ByteArray)
  | directory

/-- Why a path cannot be used. -/
inductive DiskError where
  | notFound
  | notDirectory
  | isDirectory
  | nameTooLong
  | zeroInName
deriving DecidableEq, Repr

def DiskError.message : DiskError → String
  | notFound => "No such file or directory (os error 2)"
  | notDirectory => "Not a directory (os error 20)"
  | isDirectory => "Is a directory (os error 21)"
  | nameTooLong => "File name too long (os error 36)"
  | zeroInName => "file name contained an unexpected NUL byte"

/-- The most bytes that a name may have. -/
def nameLimit : Nat := 255

/-- The number of bytes that a path must stay below. -/
def pathLimit : Nat := 4096

/-- A path that can be followed. -/
structure DiskPath where
  /-- Whether it starts at the root, and not in the working directory. -/
  fromRoot : Bool
  names : List String
  /-- Whether it says that it is a directory's. -/
  ofDirectory : Bool

def DiskPath.ofText (text : String) : Except DiskError DiskPath :=
  if text.toList.contains '\x00' then .error .zeroInName
  else if pathLimit ≤ text.utf8ByteSize then .error .nameTooLong
  else .ok {
    fromRoot := text.startsWith "/"
    names := (text.splitOn "/").filter (· ≠ "")
    ofDirectory := (text.splitOn "/").getLastD "" = "" }

/-- A place on the disk: the names on the way to it from the root. -/
abbrev DiskPlace := List String

structure Disk where
  workingDirectory : DiskPlace := ["tmp", "work"]
  entries : List (DiskPlace × DiskEntry) := []

namespace Disk

/-- The null device, which is read as an empty file. -/
def nullDevice : DiskPlace := ["dev", "null"]

/-- What is at a place. Whatever something is below of is a directory. -/
def entry? (d : Disk) (place : DiskPlace) : Option DiskEntry :=
  match d.entries.lookup place with
  | some e => some e
  | none =>
    if place == nullDevice then some (.file .empty)
    else if (d.workingDirectory :: nullDevice :: d.entries.map (·.1)).any place.isPrefixOf then
      some .directory
    else none

/-- Looks up a name in what should be a directory. Something need not be there. -/
def follow (d : Disk) (place : DiskPlace) (name : String) : Except DiskError DiskPlace :=
  match d.entry? place with
  | none => .error .notFound
  | some (.file _) => .error .notDirectory
  | some .directory =>
    if name = "." then .ok place
    else if name = ".." then .ok place.dropLast
    else if nameLimit < name.utf8ByteSize then .error .nameTooLong
    else .ok (place ++ [name])

/-- Where a path starts. -/
def origin (d : Disk) (path : DiskPath) : DiskPlace :=
  if path.fromRoot then [] else d.workingDirectory

/-- The place that names lead to. -/
def walk (d : Disk) (place : DiskPlace) (names : List String) : Except DiskError DiskPlace :=
  names.foldlM d.follow place

/-- What is at a path, if something is. -/
def at? (d : Disk) (path : String) : Option DiskEntry :=
  match DiskPath.ofText path with
  | .error _ => none
  | .ok path =>
    match d.walk (d.origin path) path.names with
    | .error _ => none
    | .ok place =>
      match d.entry? place with
      | some (.file content) => if path.ofDirectory then none else some (.file content)
      | found => found

/-- The bytes of the file at a path. -/
def file? (d : Disk) (path : String) : Option ByteArray :=
  match d.at? path with
  | some (.file content) => some content
  | _ => none

/-- Puts a file at a place, instead of what is there. -/
def put (d : Disk) (place : DiskPlace) (content : ByteArray) : Disk :=
  { d with entries := (place, .file content) :: d.entries.filter (·.1 ≠ place) }

/-- The place where a file of a path can be written. -/
def target (d : Disk) (path : DiskPath) : Except DiskError DiskPlace := do
  let last := path.names.getLastD "."
  let parent ← d.walk (d.origin path) path.names.dropLast
  let _ ← d.follow parent "."
  if last = "." ∨ last = ".." then throw .isDirectory
  if path.ofDirectory then throw .isDirectory
  let place ← d.follow parent last
  match d.entry? place with
  | some .directory => throw .isDirectory
  | _ => return place

/-- Puts a file at a path, in place of the one that is there. -/
def write (d : Disk) (path : String) (content : ByteArray) : Except DiskError Disk :=
  ((DiskPath.ofText path).bind d.target).map fun place => d.put place content

/-- A disk with files and directories in the working directory. -/
def ofFiles (files : List (String × DiskEntry)) : Disk :=
  let d : Disk := {}
  { d with entries := files.map fun (path, e) =>
      (d.workingDirectory ++ (path.splitOn "/").filter (· ≠ ""), e) }

/-- The places that names lead through, if nothing stands in the way. -/
def passed (place : DiskPlace) : List String → List DiskPlace
  | [] => [place]
  | name :: names =>
    place :: passed (if name = "." then place else if name = ".." then place.dropLast
      else place ++ [name]) names

/-- A disk on which nothing stands in the way of a path, with what is said to be at its end. -/
def along (path : DiskPath) (found : Option DiskEntry) : Disk :=
  let d : Disk := {}
  let places := passed (d.origin path) path.names
  { d with entries :=
      found.toList.map (places.getLastD [], ·) ++ places.dropLast.map (·, .directory) }

/-- The files in the working directory that are on the second disk and were not so on the first,
each with its path. -/
def changes (before after : Disk) : List (String × ByteArray) :=
  after.entries.filterMap fun (place, e) =>
    let path := "/".intercalate (place.drop before.workingDirectory.length)
    if !before.workingDirectory.isPrefixOf place then none
    else
      match e, before.entries.lookup place with
      | .file new, some (.file old) => if new.data == old.data then none else some (path, new)
      | .file new, _ => some (path, new)
      | .directory, _ => none

end Disk

end Coordination
