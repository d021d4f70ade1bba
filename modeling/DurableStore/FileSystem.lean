import DurableStore.Fault
import DurableStore.FileSystem.Content

/-!
A file system as a value.

A path is followed name by name from the root: an empty name or a single dot stays where it is, two
dots lead back, and any other name leads into a directory that has to be there.  So many paths
can lead to one location, and it is locations that name directories and files.  A file's bytes are
kept under its number, so a file that is open stays readable after its name is gone.  Operations
take effect in the order in which they are made.
-/

namespace DurableStore

/-- The number under which a file's bytes are kept. -/
abbrev FileId := Nat

/-- Where a file or a directory stands: the names of the directories around it, outermost first,
and its own name.  The root has no name. -/
abbrev Location := List String

/-- What stands at a location. -/
inductive Entry where
  | directory
  | file (id : FileId)
  deriving DecidableEq, Inhabited, Repr

/-- How many bytes of a file a machine can hold in memory at once. -/
structure Memory where
  bytes : Nat
  /-- No machine can hold half of the largest file. -/
  modest : 2 * bytes ≤ 9223372036854775807
  deriving DecidableEq

instance : Inhabited Memory := ⟨⟨17179869184, by decide⟩⟩

/-- The files and directories that have a name, and the bytes of every file there ever was. -/
structure FileSystem where
  entries : List (Location × Entry)
  contents : Array Content
  /-- The memory of the machine that reads the files. -/
  memory : Memory := default
  deriving DecidableEq, Inhabited

namespace FileSystem

/-- Nothing but the root. -/
def empty : FileSystem :=
  { entries := [([], .directory)], contents := #[] }

/-! ## Following paths -/

/-- What stands at a location. -/
def find? (disk : FileSystem) (location : Location) : Option Entry :=
  disk.entries.lookup location

/-- How many bytes a name may have. -/
def longestName : Nat := 255

/-- How many bytes a path may have. -/
def longestPath : Nat := 4095

/-- Why a path is not followed at all. -/
def refusal? (path : Path) : Option IoKind :=
  if path.names.any (·.toList.contains '\x00') then some .invalidInput
  else if longestPath < path.text.utf8ByteSize then some .invalidFilename
  else none

/-- Follows one name from a location, where a directory has to be.  What the name stands for need
not be there. -/
def follow (disk : FileSystem) (location : Location) (name : String) : Except IoKind Location :=
  match disk.find? location with
  | none => .error .notFound
  | some (.file _) => .error .notADirectory
  | some .directory =>
    if Path.staysPut name then .ok location
    else if name = ".." then .ok location.dropLast
    else if longestName < name.utf8ByteSize then .error .invalidFilename
    else .ok (location ++ [name])

/-- Follows names one after another from the root. -/
def walk (disk : FileSystem) (names : List String) : Except IoKind Location :=
  names.foldlM disk.follow []

/-- Where a path leads, be there anything or not. -/
def locate (disk : FileSystem) (path : Path) : Except IoKind Location :=
  match refusal? path with
  | some kind => .error kind
  | none => disk.walk path.names

/-- What stands at a path, or why nothing does. -/
def resolve (disk : FileSystem) (path : Path) : Except IoKind Entry :=
  match disk.locate path with
  | .error kind => .error kind
  | .ok location =>
    match disk.find? location with
    | some entry => .ok entry
    | none => .error .notFound

/-- Whether anything stands at a path. -/
def exists? (disk : FileSystem) (path : Path) : Bool :=
  (disk.resolve path).isOk

/-- Whether a path names a directory. -/
def isDirectory (disk : FileSystem) (path : Path) : Bool :=
  match disk.resolve path with
  | .ok .directory => true
  | .ok (.file _) | .error _ => false

/-! ## Contents -/

/-- What is kept of a file. -/
def stored (disk : FileSystem) (id : FileId) : Content :=
  disk.contents.getD id .empty

/-- The bytes of a file. -/
def content (disk : FileSystem) (id : FileId) : Bytes :=
  (disk.stored id).toBytes

/-- How long a file is. -/
def length (disk : FileSystem) (id : FileId) : Nat :=
  (disk.stored id).length

/-- How long the file at a path is. -/
def lengthAt? (disk : FileSystem) (path : Path) : Option Nat :=
  match disk.resolve path with
  | .ok (.file id) => some (disk.length id)
  | .ok .directory | .error _ => none

/-- With `change` made to a file. -/
def edit (disk : FileSystem) (id : FileId) (change : Content → Content) : FileSystem :=
  { disk with contents := disk.contents.setIfInBounds id (change (disk.stored id)) }

/-! ## Creating and removing -/

/-- The directory in which something new called `path` would stand, and its name there.  Slashes at
the end of the path do not count. -/
def birthplace (disk : FileSystem) (path : Path) : Except IoKind (Location × String) :=
  match refusal? path, path.names.reverse.dropWhile (·.isEmpty) with
  | some kind, _ => .error kind
  | none, [] => .error .alreadyExists
  | none, name :: before =>
    -- The dot makes sure that the names before the last lead to a directory.
    (disk.walk (before.reverse ++ ["."])).map (·, name)

/-- The location of `name` in a directory, if nothing stands there. -/
def vacancy (disk : FileSystem) (directory : Location) (name : String) :
    Except IoKind Location := do
  let location ← disk.follow directory name
  if (disk.find? location).isSome then throw .alreadyExists
  return location

/-- Creates an empty file where nothing stands yet. -/
def create (disk : FileSystem) (path : Path) : Except IoKind (FileId × FileSystem) := do
  let (directory, name) ← disk.birthplace path
  -- A slash at the end asks for a directory, which is not what is created here.
  if path.endsWithSlash then throw .isADirectory
  let location ← disk.vacancy directory name
  let id := disk.contents.size
  return (id,
    { disk with
      entries := (location, .file id) :: disk.entries
      contents := disk.contents.push .empty })

/-- Creates a directory where nothing stands yet. -/
def makeDirectory (disk : FileSystem) (path : Path) : Except IoKind FileSystem := do
  let (directory, name) ← disk.birthplace path
  let location ← disk.vacancy directory name
  return { disk with entries := (location, .directory) :: disk.entries }

/-- Creates a directory unless it is there. -/
def ensureDirectory (disk : FileSystem) (path : Path) : Except IoKind Unit × FileSystem :=
  match disk.makeDirectory path with
  | .ok disk => (.ok (), disk)
  | .error kind => (if disk.isDirectory path then .ok () else .error kind, disk)

/-- Creates a directory and all that are missing on the way to it.  Those that could be created
stay, also if it cannot. -/
def makeDirectories (disk : FileSystem) (path : Path) : Except IoKind Unit × FileSystem :=
  match disk.ensureDirectory path, _ : path.parent? with
  | (.error .notFound, disk), some parent =>
    -- Something on the way is missing; it may still be missing when the parent is there.
    match disk.makeDirectories parent with
    | (.ok (), disk) => disk.ensureDirectory path
    | (.error kind, disk) => (.error kind, disk)
  | outcome, _ => outcome
  termination_by path.names.length
  decreasing_by exact Path.length_parent? ‹_›

/-- Removes the name of a file. -/
def remove (disk : FileSystem) (path : Path) : Except IoKind FileSystem := do
  let location ← disk.locate path
  match disk.find? location with
  | some (.file _) => return { disk with entries := disk.entries.filter (·.1 ≠ location) }
  | some .directory => throw .isADirectory
  | none => throw .notFound

/-- The names directly inside a directory. -/
def children (disk : FileSystem) (directory : Path) : List String :=
  match disk.locate directory with
  | .error _ => []
  | .ok around => disk.entries.filterMap fun (location, _) =>
    if location.dropLast = around then location.getLast? else none

/-! ## What a change of one file leaves alone -/

@[simp] theorem length_content (disk : FileSystem) (id : FileId) :
    (disk.content id).length = disk.length id :=
  Content.length_toBytes _

theorem content_edit {disk : FileSystem} {id : FileId} (h : id < disk.contents.size)
    (change : Content → Content) :
    (disk.edit id change).content id = (change (disk.stored id)).toBytes := by
  simp [content, stored, edit, Array.getD_eq_getD_getElem?, h]

theorem content_edit_of_ne {disk : FileSystem} {id other : FileId} (h : other ≠ id)
    (change : Content → Content) : (disk.edit id change).content other = disk.content other := by
  simp [content, stored, edit, Array.getD_eq_getD_getElem?, h.symm]

@[simp] theorem find?_edit (disk : FileSystem) (id : FileId) (change : Content → Content)
    (location : Location) : (disk.edit id change).find? location = disk.find? location := rfl

@[simp] theorem locate_edit (disk : FileSystem) (id : FileId) (change : Content → Content)
    (path : Path) : (disk.edit id change).locate path = disk.locate path := rfl

@[simp] theorem resolve_edit (disk : FileSystem) (id : FileId) (change : Content → Content)
    (path : Path) : (disk.edit id change).resolve path = disk.resolve path := rfl

end FileSystem

end DurableStore
