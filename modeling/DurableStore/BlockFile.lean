import DurableStore.Block.Sparse
import DurableStore.FileSystem.OpenFile
import DurableStore.PowerSwitch

/-!
Files of blocks that only grow at their end.

An append asks the power before it writes the header and again before it writes the payload, so
a loss of power can leave a header without its payload, and so can a file that has no room for
both.  The open file remembers where such a torn block starts and cuts it off before the next
append; opening the file again and recovering it cuts it off too.  If the file was opened for that,
a block is forced to disk before its append returns.  A scan gives what `scan` gives for the bytes
of the file (`scan_eq`).
-/

namespace DurableStore

/-- An open block file. -/
structure BlockFile where
  file : OpenFile
  /-- The longest payload. -/
  limit : Nat
  /-- Every block is forced to disk before its append returns. -/
  syncWrites : Bool := false
  /-- Where a block starts whose append did not complete. -/
  tornTail : Option Nat := none
  deriving DecidableEq, Inhabited, Repr

namespace BlockFile

/-- Where the file is. -/
def path (blocks : BlockFile) : Path :=
  blocks.file.path

/-- How long the file is. -/
def length (blocks : BlockFile) (disk : FileSystem) : Nat :=
  blocks.file.length disk

/-- Opens a block file for reading and writing, and creates it if it is missing. -/
def openAt (disk : FileSystem) (path : Path) (limit : Nat) (syncWrites : Bool) :
    Except Fault BlockFile × FileSystem :=
  let (file, disk) := OpenFile.openAt disk path .readWrite false
  (file.map fun file => { file, limit, syncWrites }, disk)

/-- Opens a block file that is there, for reading. -/
def openExisting (disk : FileSystem) (path : Path) (limit : Nat) : Except Fault BlockFile :=
  (OpenFile.openAt disk path .read true).1.map fun file => { file, limit }

/-- Cuts a torn tail off. -/
def cutTornTail (blocks : BlockFile) (disk : FileSystem) : Except Fault Unit × FileSystem :=
  match blocks.tornTail with
  | some offset => blocks.file.setLength disk offset
  | none => (.ok (), disk)

/-- Forces what was appended to disk if the file was opened for that. -/
def force (blocks : BlockFile) : Except Fault Unit :=
  if blocks.syncWrites then blocks.file.sync else .ok ()

@[simp] theorem force_eq (blocks : BlockFile) : blocks.force = .ok () := by
  unfold force
  split <;> rfl

/-- What an append leaves behind. -/
structure Appended where
  /-- Where the block starts, or why it was not written. -/
  result : Except Fault Nat
  blocks : BlockFile
  power : PowerSwitch
  disk : FileSystem

/-- The first write of an append, which is of the header and needs the power to be on.  From then on
the block is torn. -/
def appendHeader (blocks : BlockFile) (payload : Bytes) (power : PowerSwitch)
    (disk : FileSystem) : Appended :=
  match stamp blocks.limit payload with
  | .error fault => { result := .error fault, blocks, power, disk }
  | .ok block =>
    let (isOn, power) := power.check
    if !isOn then { result := .error (.powerLoss (some blocks.path)), blocks, power, disk }
    else
      match blocks.cutTornTail disk with
      | (.error fault, disk) => { result := .error fault, blocks, power, disk }
      | (.ok (), disk) =>
        let torn := { blocks with tornTail := some (blocks.length disk) }
        let (result, disk) := blocks.file.append disk (block.take headerLength)
        { result, blocks := torn, power, disk }

/-- The second write of an append, which is of the payload and needs the power to be on again.  The
block that starts at `offset` is whole then. -/
def appendPayload (blocks : BlockFile) (offset : Nat) (payload : Bytes) (power : PowerSwitch)
    (disk : FileSystem) : Appended :=
  let (isOn, power) := power.check
  if !isOn then { result := .error (.powerLoss (some blocks.path)), blocks, power, disk }
  else
    match blocks.file.append disk payload with
    | (.error fault, disk) => { result := .error fault, blocks, power, disk }
    | (.ok _, disk) =>
      { result := blocks.force.map fun () => offset
        blocks := { blocks with tornTail := none }
        power
        disk }

/-- Appends a block in two writes. -/
def append (blocks : BlockFile) (payload : Bytes) (power : PowerSwitch) (disk : FileSystem) :
    Appended :=
  let begun := blocks.appendHeader payload power disk
  match begun.result with
  | .error _ => begun
  | .ok offset => begun.blocks.appendPayload offset payload begun.power begun.disk

/-- Without a header there is no block. -/
theorem append_of_error {blocks : BlockFile} {payload : Bytes} {power : PowerSwitch}
    {disk : FileSystem} {fault : Fault}
    (begun : (blocks.appendHeader payload power disk).result = .error fault) :
    blocks.append payload power disk = blocks.appendHeader payload power disk := by
  unfold append
  simp only [begun]

theorem append_of_ok {blocks : BlockFile} {payload : Bytes} {power : PowerSwitch}
    {disk : FileSystem} {offset : Nat}
    (begun : (blocks.appendHeader payload power disk).result = .ok offset) :
    blocks.append payload power disk =
      (blocks.appendHeader payload power disk).blocks.appendPayload offset payload
        (blocks.appendHeader payload power disk).power
        (blocks.appendHeader payload power disk).disk := by
  unfold append
  simp only [begun]

/-- Scans the file.  The mismatches that the policy was asked about go in and come out. -/
def scan (blocks : BlockFile) (policy : Policy) (asked : List Mismatch) (disk : FileSystem) :
    Except Fault Recovery × List Mismatch :=
  match blocks.file.load disk with
  | .error fault => (.error fault, asked)
  | .ok content => scanContent blocks.limit policy blocks.path content asked

theorem scan_eq (blocks : BlockFile) (policy : Policy) (asked : List Mismatch)
    (disk : FileSystem) :
    blocks.scan policy asked disk =
      match blocks.file.readAll disk with
      | .error fault => (.error fault, asked)
      | .ok bytes => DurableStore.scan blocks.limit policy blocks.path bytes asked := by
  unfold scan OpenFile.readAll
  cases blocks.file.load disk with
  | error fault => rfl
  | ok content => exact scanContent_eq ..

/-- What a recovery leaves behind. -/
structure Recovered where
  result : Except Fault Recovery
  asked : List Mismatch
  blocks : BlockFile
  disk : FileSystem

/-- Scans the file and cuts a torn block off its end. -/
def recover (blocks : BlockFile) (policy : Policy) (asked : List Mismatch) (disk : FileSystem) :
    Recovered :=
  let (result, asked) := blocks.scan policy asked disk
  match result with
  | .error fault => { result := .error fault, asked, blocks, disk }
  | .ok recovery =>
    let whole := { blocks with tornTail := none }
    match recovery.tornAt with
    | none => { result := .ok recovery, asked, blocks := whole, disk }
    | some offset =>
      match blocks.file.setLength disk offset with
      | (.error fault, disk) => { result := .error fault, asked, blocks, disk }
      | (.ok (), disk) =>
        match blocks.file.sync with
        | .error fault => { result := .error fault, asked, blocks, disk }
        | .ok () => { result := .ok recovery, asked, blocks := whole, disk }

/-- Scans the file and refuses one that ends in a torn block. -/
def checkComplete (blocks : BlockFile) (policy : Policy) (asked : List Mismatch)
    (disk : FileSystem) : Except Fault Recovery × List Mismatch :=
  let (result, asked) := blocks.scan policy asked disk
  match result with
  | .error fault => (.error fault, asked)
  | .ok recovery =>
    match recovery.tornAt with
    | none => (.ok recovery, asked)
    | some offset =>
      let available := blocks.length disk - offset
      (.error (.tornBlock blocks.path offset headerLength available), asked)

/-- Removes every block. -/
def clear (blocks : BlockFile) (disk : FileSystem) : Except Fault Unit × BlockFile × FileSystem :=
  match blocks.file.setLength disk 0 with
  | (.error fault, disk) => (.error fault, blocks, disk)
  | (.ok (), disk) => (.ok (), { blocks with tornTail := none }, disk)

end BlockFile

end DurableStore
