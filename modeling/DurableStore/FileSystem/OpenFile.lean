import DurableStore.FileSystem

/-!
Open files.

A handle keeps the path it was opened with, so every fault names the file, and the number of the
file, so it goes on working when the path is given to something else.  A directory can be opened
for reading, but its bytes cannot be read.  A read or a write that would end beyond the largest
offset is refused as a whole, and so is reading a whole file that is larger than memory.

Forcing what was written to disk is the one thing that is assumed to succeed (`OpenFile.sync`).
-/

namespace DurableStore

/-- How a file is opened. -/
inductive AccessMode where
  /-- It must be there and is not written. -/
  | read
  /-- It is read and written. -/
  | readWrite
  /-- It is read and written, and every write is forced to disk. -/
  | readWriteSync
  deriving DecidableEq, Inhabited, Repr

namespace AccessMode

/-- The mode that a short name stands for. -/
def parse? : String → Option AccessMode
  | "r" => some .read
  | "rw" => some .readWrite
  | "rws" | "rwd" => some .readWriteSync
  | _ => none

/-- Whether the file may be written. -/
def isWritable : AccessMode → Bool
  | .read => false
  | .readWrite | .readWriteSync => true

end AccessMode

/-- An open file or directory. -/
structure OpenFile where
  path : Path
  mode : AccessMode
  target : Entry
  deriving DecidableEq, Inhabited, Repr

namespace OpenFile

/-- The largest offset and length that the system accepts, also as the end of what is read or
written. -/
def largestOffset : Nat := 9223372036854775807

theorem memory_modest (disk : FileSystem) : 2 * disk.memory.bytes ≤ largestOffset :=
  disk.memory.modest

/-- The length that the system reports for a directory. -/
def directoryLength : Nat := 4096

/-- Opens a file.  One that is not there is created if it may be written and need not exist. -/
def openAt (disk : FileSystem) (path : Path) (mode : AccessMode) (mustExist : Bool) :
    Except Fault OpenFile × FileSystem :=
  let failed (kind : IoKind) : Fault :=
    if kind = .notFound then .notFound path else .ioAt path kind "Failed to open file"
  match disk.resolve path with
  | .ok (.file id) => (.ok ⟨path, mode, .file id⟩, disk)
  | .ok .directory =>
    if mode.isWritable then (.error (failed .isADirectory), disk)
    else (.ok ⟨path, mode, .directory⟩, disk)
  | .error kind =>
    if mustExist then (.error (.notFound path), disk)
    else if mode.isWritable then
      match disk.create path with
      | .ok (id, disk) => (.ok ⟨path, mode, .file id⟩, disk)
      | .error kind => (.error (failed kind), disk)
    else (.error (failed kind), disk)

/-- How long the file is. -/
def length (file : OpenFile) (disk : FileSystem) : Nat :=
  match file.target with
  | .file id => disk.length id
  | .directory => directoryLength

/-- What the whole file holds. -/
def load (file : OpenFile) (disk : FileSystem) : Except Fault Content :=
  let failed (kind : IoKind) : Fault := .ioAt file.path kind "Failed to read file"
  match file.target with
  | .directory => .error (failed .isADirectory)
  | .file id =>
    if disk.length id > disk.memory.bytes then .error (failed .outOfMemory)
    else .ok (disk.stored id)

/-- All bytes of the file. -/
def readAll (file : OpenFile) (disk : FileSystem) : Except Fault Bytes :=
  (file.load disk).map Content.toBytes

/-- Exactly `count` bytes from `offset` on. -/
def readAt (file : OpenFile) (disk : FileSystem) (offset count : Nat) : Except Fault Bytes :=
  let failed (kind : IoKind) : Fault := .ioAt file.path kind s!"Failed to read at offset {offset}"
  if offset + count > largestOffset then .error (failed .invalidInput)
  else if count = 0 then .ok []
  else
    match file.target with
    | .directory => .error (failed .isADirectory)
    | .file id =>
      match (disk.stored id).slice? offset (offset + count) with
      | some bytes => .ok bytes
      | none => .error (failed .unexpectedEof)

/-- Why a file that was opened for reading is not written. -/
def readOnlyFault (file : OpenFile) : Fault :=
  .readOnly s!"{file.path.text} was opened read-only"

/-- Forces to disk what was written.  This is an assumption about the system: that it does so
whenever it is asked, and that what a handle shows does not depend on it. -/
def sync (_ : OpenFile) : Except Fault Unit :=
  .ok ()

@[simp] theorem sync_eq (file : OpenFile) : file.sync = .ok () := rfl

/-- Forces a write to disk if the file was opened for that. -/
def syncIfRequired (file : OpenFile) : Except Fault Unit :=
  if file.mode = .readWriteSync then file.sync else .ok ()

@[simp] theorem syncIfRequired_eq (file : OpenFile) : file.syncIfRequired = .ok () := by
  unfold syncIfRequired
  split <;> rfl

/-- The file that may be written through the handle. -/
def writable? (file : OpenFile) : Option FileId :=
  match file.target with
  | .file id => if file.mode.isWritable then some id else none
  | .directory => none

/-- Writes `bytes` from `offset` on. -/
def writeAt (file : OpenFile) (disk : FileSystem) (offset : Nat) (bytes : Bytes) :
    Except Fault Unit × FileSystem :=
  match file.writable? with
  | none => (.error file.readOnlyFault, disk)
  | some id =>
    if offset + bytes.length > largestOffset then
      (.error (.ioAt file.path .invalidInput s!"Failed to write at offset {offset}"), disk)
    else if bytes.isEmpty then (file.syncIfRequired, disk)
    else (file.syncIfRequired, disk.edit id (·.overwrite offset bytes))

/-- Writes `bytes` behind the last byte; the offset they start at. -/
def append (file : OpenFile) (disk : FileSystem) (bytes : Bytes) :
    Except Fault Nat × FileSystem :=
  match file.writable? with
  | none => (.error file.readOnlyFault, disk)
  | some id =>
    let offset := disk.length id
    if offset + bytes.length > largestOffset then
      (.error (.ioAt file.path .invalidInput "Append failed"), disk)
    else (file.syncIfRequired.map fun () => offset, disk.edit id (·.append bytes))

/-- Cuts the file off or fills it up with zeros. -/
def setLength (file : OpenFile) (disk : FileSystem) (length : Nat) :
    Except Fault Unit × FileSystem :=
  match file.writable? with
  | none => (.error file.readOnlyFault, disk)
  | some id =>
    if length > largestOffset then
      (.error (.ioAt file.path .invalidInput s!"Failed to set length {length}"), disk)
    else (.ok (), disk.edit id (·.resize length))

end OpenFile

end DurableStore
