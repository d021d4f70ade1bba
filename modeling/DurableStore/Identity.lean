/-!
The numbers that name sessions and large objects.

A session id belongs to one open database and is never given out twice by it.  An object id
belongs to one of the two id spaces and outlives the process.
-/

namespace DurableStore

/-- The number of one connection to an open database. -/
structure SessionId where
  /-- Its number, the first connection's is 1. -/
  number : UInt64
  deriving DecidableEq, Inhabited, Repr

/-- How a session is named in messages. -/
def SessionId.text (session : SessionId) : String :=
  s!"#{session.number.toNat}"

/-- The number of one large object. -/
abbrev ObjectId := Int32

/-- How a large object is named in messages. -/
def ObjectId.text (object : ObjectId) : String :=
  toString object.toInt

/-- The two separate spaces that object ids are drawn from. -/
inductive IdSpace where
  /-- Objects kept inside the main data file. -/
  | dataFile
  /-- Objects kept in files of their own. -/
  | separateFiles
  deriving DecidableEq, Inhabited, Repr

/-- How an id space is named in messages. -/
def IdSpace.text : IdSpace → String
  | .dataFile => "data file"
  | .separateFiles => "separate files"

end DurableStore
