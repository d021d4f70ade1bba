import DurableStore.Database
import DurableStore.Text.Quoted

/-!
How an open storage and an open database show themselves to people who look into them.
-/

namespace DurableStore

/-- A path between double quotes. -/
def Path.description (path : Path) : String :=
  Text.quoted path.text

/-- A write state, with the reason if writes are suspended. -/
def WriteState.description : WriteState → String
  | .writable => "Writable"
  | .readOnly => "ReadOnly"
  | .suspended reason => "Suspended(" ++ Text.quoted reason ++ ")"

/-- Who holds a database exclusively. -/
def ExclusiveLock.description (lock : ExclusiveLock) : String :=
  match lock.holder with
  | none => "Normal"
  | some holder => s!"ExclusiveHeld(SessionId({holder.number.toNat}))"

/-- A name and its fields, in braces. -/
def describeFields (name : String) (fields : List (String × String)) : String :=
  name ++ " \x7b " ++ ", ".intercalate (fields.map fun (field, value) => field ++ ": " ++ value) ++
    " \x7d"

/-- Where a storage is and what it permits. -/
def Storage.description (storage : Storage) : String :=
  describeFields "StorageHandle"
    [("path", storage.path.description), ("write_state", storage.writeState.description),
     ("closed", toString storage.closed)]

/-- Where a database is and what state it is in. -/
def Database.description (database : Database) : String :=
  describeFields "Database"
    [("path", database.storage.path.description),
     ("generation", toString database.generation.toNat),
     ("exclusive", database.lock.description), ("closed", toString database.closed)]

end DurableStore
