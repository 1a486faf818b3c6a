import Coffer.Store.AttributeColumn
import Coffer.Store.Basic

/-!
# Store/Database — a store in tables

A **database** has a table of the versions that were set up in it and a table of objects; either may
be missing.  An object is a row whose owner, attributes and payload are bytes.  `migrate` brings
the tables to the current version.
-/

namespace Coffer

/-- A row of the table of objects. -/
structure Row where
  /-- The container, first half of the row's key. -/
  container : ContainerId
  /-- The object, second half of the row's key. -/
  object : ObjectId
  /-- The bytes of the owner. -/
  owner : Bytes
  /-- The attributes as a column. -/
  attributes : Bytes
  /-- The payload. -/
  payload : Bytes
deriving DecidableEq

/-- The key of a row. -/
def Row.address (row : Row) : Address := ⟨row.container, row.object⟩

/-- **A database**. -/
structure Database where
  /-- The table of versions, each at most once. -/
  versions : Option (List Int)
  /-- The table of objects, each address at most once. -/
  objects : Option (List Row)
deriving DecidableEq

namespace Database

/-- The database without tables. -/
def blank : Database := ⟨none, none⟩

/-! ## Versions -/

/-- The version that the tables are brought to. -/
def currentVersion : Nat := 1

/-- How many versions can be told apart: `2 ^ 32`. -/
def versionLimit : Int := 0x100000000

/-- The failure of tables that are newer than what is supported. -/
def newerVersion (version : Int) : StoreError :=
  .migration ("database schema version " ++ toString version ++ " is newer than supported version "
    ++ toString currentVersion)

/-- The largest version in a table, zero if it is empty. -/
def largestVersion : List Int → Int
  | [] => 0
  | first :: rest => rest.foldl max first

/-- **Brings the tables to the current version.**  A table of versions is made if there is none.
Tables that are current stay as they are, and newer ones are refused.  Otherwise the table of
objects is made and the version noted, or neither if there is such a table already. -/
def migrate (database : Database) : Except StoreError Unit × Database :=
  let versions := database.versions.getD []
  let database := { database with versions := some versions }
  let found := largestVersion versions
  if found < 0 ∨ versionLimit ≤ found then (.error (.database "version out of range"), database)
  else if (currentVersion : Int) < found then (.error (newerVersion found), database)
  else if found = currentVersion then (.ok (), database)
  else match database.objects with
    | some _ => (.error (.database "table objects already exists"), database)
    | none => (.ok (), ⟨some (versions ++ [(currentVersion : Int)]), some []⟩)

/-- Notes a version, unless it is noted already. -/
def insertVersion (version : Int) (database : Database) : Database :=
  { database with versions := database.versions.map fun versions =>
      if version ∈ versions then versions else versions ++ [version] }

/-- Forgets all versions. -/
def deleteVersions (database : Database) : Database :=
  { database with versions := database.versions.map fun _ => [] }

/-- The versions in ascending order. -/
def sortedVersions (database : Database) : List Int :=
  (database.versions.getD []).mergeSort fun a b => decide (a ≤ b)

/-! ## Objects -/

/-- The failure of a call that needs the table of objects when there is none. -/
def noTable : StoreError := .database "no such table: objects"

/-- Drops the table of objects. -/
def dropObjects (database : Database) : Except StoreError Unit × Database :=
  match database.objects with
  | none => (.error noTable, database)
  | some _ => (.ok (), { database with objects := none })

/-- Stores a row as it is, in place of one with the same key. -/
def replaceRow (row : Row) (database : Database) : Except StoreError Unit × Database :=
  match database.objects with
  | none => (.error noTable, database)
  | some rows =>
    (.ok (), { database with
      objects := some (row :: rows.filter fun other => other.address != row.address) })

/-- The row with an address. -/
def findRow? (rows : List Row) (address : Address) : Option Row :=
  rows.find? fun row => row.address == address

/-- The rows after a row has been added, unless there is one with its key already. -/
def insertNew (rows : List Row) (row : Row) : List Row :=
  match findRow? rows row.address with
  | some _ => rows
  | none => row :: rows

/-- The row for a content. -/
def rowOf (content : Content) : Row where
  container := content.container
  object := content.objectId
  owner := content.owner.bytes
  attributes := AttributeColumn.write content.attributes
  payload := content.payload

/-- The header that a row holds. -/
def headerOf (row : Row) : Except StoreError Header :=
  match Identifier.ofBytes? .owner row.owner with
  | none => .error (.invalidData "owner_id must be 32 bytes")
  | some owner =>
    match AttributeColumn.read? row.attributes with
    | none => .error (.serialization "not a list of attributes")
    | some attributes => .ok ⟨owner, attributes, row.payload.length⟩

/-- Stores a content as a row. -/
def put (content : Content) : StateM Database (Except StoreError ObjectId) := do
  let database ← MonadState.get
  match database.objects with
  | none => return .error noTable
  | some rows =>
    set { database with objects := some (insertNew rows (rowOf content)) }
    return .ok content.objectId

/-- The row with an address, if there is a table and the row is in it. -/
def row (database : Database) (address : Address) : Except StoreError Row :=
  match database.objects with
  | none => .error noTable
  | some rows =>
    match findRow? rows address with
    | none => .error (.notFound address)
    | some row => .ok row

/-- The payload of the object at an address. -/
def get (address : Address) : StateM Database (Except StoreError Bytes) := do
  return ((← MonadState.get).row address).map Row.payload

/-- The header of the object at an address. -/
def head (address : Address) : StateM Database (Except StoreError Header) := do
  return ((← MonadState.get).row address).bind headerOf

instance : ObjectStore Database := ⟨put, get, head⟩

end Database

end Coffer
