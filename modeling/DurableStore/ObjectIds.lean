import Std.Data.TreeMap
import Std.Data.TreeSet
import DurableStore.Fault

/-!
Handing out object ids.

Within its space an id is fresh, live or free: fresh ids lie at or above `nextFresh`, live ones
are referenced at least once, and free ones were released and may be handed out again.  Fresh ids
are reserved in chunks; the marks up to which they are reserved are what is written to disk, so
that a later start begins above every id that may have been handed out.
-/

namespace DurableStore

/-- How many fresh ids one reservation covers. -/
def reservationChunk : Int := 1024

/-- The first id of an empty space. -/
def firstId : Int32 := 1

/-- How many bytes a written reservation has. -/
def reservationLength : Nat := 8

/-- The ids of one space. -/
structure IdLedger where
  /-- No id from here on was ever handed out. -/
  nextFresh : Int32
  /-- Fresh ids below this mark are covered by a reservation. -/
  reservedUntil : Int32
  /-- Fresh ids below this mark are covered by a reservation on disk. -/
  persistedUntil : Int32
  /-- How often each live id is referenced. -/
  live : Std.TreeMap ObjectId Int32
  /-- The released ids, last released first. -/
  free : List ObjectId
  /-- The same ids, to tell quickly whether one is among them. -/
  freeSet : Std.TreeSet ObjectId

namespace IdLedger

/-- A space whose ids below `mark` were all handed out. -/
def ofMark (mark : Int32) : IdLedger :=
  let mark := if mark < firstId then firstId else mark
  { nextFresh := mark, reservedUntil := mark, persistedUntil := mark,
    live := {}, free := [], freeSet := {} }

/-- The id handed out, and whether it lies above the mark on disk. -/
structure Allocation where
  id : ObjectId
  advanced : Bool
  deriving DecidableEq, Repr

/-- Hands out the lowest id that was never handed out, unless all were. -/
def allocateFresh (ledger : IdLedger) : Option Allocation × IdLedger :=
  let id := ledger.nextFresh
  if id = Int32.maxValue then (none, ledger)
  else
    let nextFresh := id + 1
    let advanced := decide (ledger.persistedUntil < nextFresh)
    let reservedUntil :=
      if advanced ∧ ledger.reservedUntil < nextFresh then
        Int32.ofIntClamp (nextFresh.toInt + reservationChunk)
      else ledger.reservedUntil
    (some ⟨id, advanced⟩,
      { ledger with nextFresh, reservedUntil, live := ledger.live.insert id 1 })

/-- Hands out an id; one that was released before if there is one and none has to be fresh. -/
def allocate (ledger : IdLedger) (needFresh : Bool) : Option Allocation × IdLedger :=
  match needFresh, ledger.free with
  | false, id :: free =>
    (some ⟨id, false⟩,
      { ledger with free, freeSet := ledger.freeSet.erase id, live := ledger.live.insert id 1 })
  | _, _ => ledger.allocateFresh

/-- Whether `id` is referenced. -/
def isLive (ledger : IdLedger) (id : ObjectId) : Bool :=
  ledger.live.contains id

/-- Forgets an id without making it free. -/
def discard (ledger : IdLedger) (id : ObjectId) : IdLedger :=
  { ledger with live := ledger.live.erase id }

/-- Adds a reference to a live id; whether it was live. -/
def retain (ledger : IdLedger) (id : ObjectId) : Bool × IdLedger :=
  match ledger.live[id]? with
  | some references =>
    let more := Int32.ofIntClamp (references.toInt + 1)
    (true, { ledger with live := ledger.live.insert id more })
  | none => (false, ledger)

/-- Drops a reference to a live id, which is free when the last one went; whether it was live. -/
def release (ledger : IdLedger) (id : ObjectId) : Bool × IdLedger :=
  match ledger.live[id]? with
  | some references =>
    if 1 < references then
      (true, { ledger with live := ledger.live.insert id (references - 1) })
    else
      let ledger := { ledger with live := ledger.live.erase id }
      if ledger.freeSet.contains id then (true, ledger)
      else (true, { ledger with free := id :: ledger.free, freeSet := ledger.freeSet.insert id })
  | none => (false, ledger)

/-- Takes note that the reservation is on disk. -/
def markPersisted (ledger : IdLedger) : IdLedger :=
  { ledger with persistedUntil := ledger.reservedUntil }

end IdLedger

/-- The ids of both spaces of a database. -/
structure ObjectIds where
  dataFile : IdLedger
  separateFiles : IdLedger

namespace ObjectIds

/-- Ids that go on above the marks of both spaces. -/
def ofMarks (dataFile separateFiles : Int32) : ObjectIds :=
  { dataFile := .ofMark dataFile, separateFiles := .ofMark separateFiles }

/-- The ids of a new database. -/
def new : ObjectIds :=
  ofMarks firstId firstId

/-- The ids of one space. -/
def ledger (ids : ObjectIds) : IdSpace → IdLedger
  | .dataFile => ids.dataFile
  | .separateFiles => ids.separateFiles

/-- With the ids of one space replaced. -/
def withLedger (ids : ObjectIds) (space : IdSpace) (ledger : IdLedger) : ObjectIds :=
  match space with
  | .dataFile => { ids with dataFile := ledger }
  | .separateFiles => { ids with separateFiles := ledger }

/-- The bytes of a reservation: the mark of each space, lowest byte first. -/
def reservation (ids : ObjectIds) : Bytes :=
  Bytes.ofInt32 ids.dataFile.reservedUntil ++ Bytes.ofInt32 ids.separateFiles.reservedUntil

/-- Ids that go on above a reservation, unless its bytes are malformed. -/
def ofReservation? : Bytes → Option ObjectIds
  | [a0, a1, a2, a3, b0, b1, b2, b3] =>
    some (ofMarks (Bytes.int32 a0 a1 a2 a3) (Bytes.int32 b0 b1 b2 b3))
  | _ => none

/-- Hands out an id of a space. -/
def allocate (ids : ObjectIds) (needFresh : Bool) (space : IdSpace) :
    Except Fault IdLedger.Allocation × ObjectIds :=
  let (allocation, ledger) := (ids.ledger space).allocate needFresh
  match allocation with
  | some allocation => (.ok allocation, ids.withLedger space ledger)
  | none => (.error (.idsExhausted space), ids)

/-- Forgets an id whose reservation did not reach the disk. -/
def discard (ids : ObjectIds) (id : ObjectId) (space : IdSpace) : ObjectIds :=
  ids.withLedger space ((ids.ledger space).discard id)

/-- Adds a reference to a live id; whether it was live. -/
def retain (ids : ObjectIds) (id : ObjectId) (space : IdSpace) : Bool × ObjectIds :=
  let (live, ledger) := (ids.ledger space).retain id
  (live, ids.withLedger space ledger)

/-- Drops a reference to a live id; whether it was live. -/
def release (ids : ObjectIds) (id : ObjectId) (space : IdSpace) : Bool × ObjectIds :=
  let (live, ledger) := (ids.ledger space).release id
  (live, ids.withLedger space ledger)

/-- Whether `id` is referenced. -/
def isLive (ids : ObjectIds) (id : ObjectId) (space : IdSpace) : Bool :=
  (ids.ledger space).isLive id

/-- How many ids of a space are referenced. -/
def liveCount (ids : ObjectIds) (space : IdSpace) : Nat :=
  (ids.ledger space).live.size

/-- Takes note that the reservation is on disk. -/
def markPersisted (ids : ObjectIds) : ObjectIds :=
  { dataFile := ids.dataFile.markPersisted, separateFiles := ids.separateFiles.markPersisted }

@[simp] theorem length_reservation (ids : ObjectIds) :
    ids.reservation.length = reservationLength := by
  simp [reservation, reservationLength]

end ObjectIds

end DurableStore
