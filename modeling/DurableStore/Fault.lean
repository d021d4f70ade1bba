import DurableStore.Identity
import DurableStore.Path
import DurableStore.Text.Hexadecimal

/-!
What can go wrong, and how it is told.

A `Fault` names the cause with everything needed to diagnose it; its wording is in
`Fault.message` alone.
-/

namespace DurableStore

/-- The kinds of failure that the system's file operations report. -/
inductive IoKind where
  | notFound
  | permissionDenied
  | alreadyExists
  | notADirectory
  | isADirectory
  | invalidFilename
  | unexpectedEof
  | invalidInput
  | invalidData
  | timedOut
  | outOfMemory
  | other
  deriving DecidableEq, Inhabited, Repr

/-- The words for a kind of failure. -/
def IoKind.text : IoKind → String
  | .notFound => "entity not found"
  | .permissionDenied => "permission denied"
  | .alreadyExists => "entity already exists"
  | .notADirectory => "not a directory"
  | .isADirectory => "is a directory"
  | .invalidFilename => "invalid filename"
  | .unexpectedEof => "unexpected end of file"
  | .invalidInput => "invalid input parameter"
  | .invalidData => "invalid data"
  | .timedOut => "timed out"
  | .outOfMemory => "out of memory"
  | .other => "other error"

/-- A range of a file whose stored checksum is not the computed one. -/
structure Mismatch where
  /-- The file the bytes came from. -/
  path : Path
  /-- Where the verified range starts in the file. -/
  start : Nat
  /-- Where it ends, exclusive. -/
  stop : Nat
  /-- The stored checksum. -/
  expected : UInt32
  /-- The computed checksum. -/
  actual : UInt32
  deriving DecidableEq, Inhabited, Repr

/-- Why an operation on a store failed. -/
inductive Fault where
  /-- A file that had to be there is not. -/
  | notFound (path : Path)
  /-- A file operation failed. -/
  | io (path : Option Path) (kind : IoKind) (detail : String)
  /-- Writes are refused at the moment. -/
  | readOnly (reason : String)
  /-- No disk space could be reclaimed. -/
  | diskFull (path : Option Path) (requested : Nat)
  /-- Verification failed and the policy did not accept it. -/
  | corruption (mismatch : Mismatch)
  /-- The simulated power went away, while writing `path` if that is known. -/
  | powerLoss (path : Option Path)
  /-- Another session has locked everyone else out. -/
  | exclusiveModeActive (holder : SessionId)
  /-- The session was disconnected. -/
  | connectionClosed (session : SessionId)
  /-- A block was begun and not completed. -/
  | tornBlock (path : Path) (offset expected available : Nat)
  /-- A payload is longer than the limit. -/
  | oversizedBlock (length limit : Nat)
  /-- The name or the value of an option is unknown. -/
  | invalidSetting (name value : String)
  /-- Every id of a space has been handed out. -/
  | idsExhausted (space : IdSpace)
  /-- The database has been closed. -/
  | databaseClosed
  /-- A byte range does not lie inside its buffer. -/
  | invalidRange (start stop length : Nat)
  deriving DecidableEq, Inhabited, Repr

namespace Fault

/-- A file operation on `path` failed while doing `what`, and what the system said. -/
def ioDoing (path : Path) (kind : IoKind) (what said : String) : Fault :=
  .io (some path) kind s!"{what}: {said}"

/-- A file operation on `path` failed while doing `what`. -/
def ioAt (path : Path) (kind : IoKind) (what : String) : Fault :=
  ioDoing path kind what kind.text

/-- `introduction` and the path, or nothing if there is no path. -/
def location (introduction : String) : Option Path → String
  | some path => introduction ++ path.text
  | none => ""

/-- What is told to the user. -/
def message : Fault → String
  | .notFound path => s!"File not found: {path.text}"
  | .io path kind detail => "I/O error" ++ location " in " path ++ s!": {detail} ({kind.text})"
  | .readOnly reason => s!"Writing is not allowed: {reason}"
  | .diskFull path requested =>
    "Disk full" ++ location " in " path ++ s!": could not free {requested} bytes"
  | .corruption found =>
    s!"Checksum mismatch in {found.path.text} for bytes {found.start}..{found.stop}: " ++
      s!"expected 0x{Text.Hexadecimal.word found.expected}, " ++
      s!"got 0x{Text.Hexadecimal.word found.actual}"
  | .powerLoss path => "Simulated power loss" ++ location " while writing " path
  | .exclusiveModeActive holder => s!"Database is in exclusive mode (held by session {holder.text})"
  | .connectionClosed session => s!"Connection closed for session {session.text}"
  | .tornBlock path offset expected available =>
    s!"Torn block in {path.text} at offset {offset}: expected {expected} bytes, " ++
      s!"only {available} available"
  | .oversizedBlock length limit =>
    s!"Block too large: {length} bytes exceeds limit of {limit} bytes"
  | .invalidSetting name value => s!"Invalid setting {name} = {value}"
  | .idsExhausted space => s!"ObjectId namespace exhausted ({space.text})"
  | .databaseClosed => "Database is closed"
  | .invalidRange start stop length => s!"Invalid range {start}..{stop} for {length} bytes"

/-- Whether the fault comes from the simulated power. -/
def isPowerLoss : Fault → Bool
  | .powerLoss _ => true
  | _ => false

end Fault

end DurableStore
