import JavaIndex.Cache
import JavaIndex.Outline

/-!
# The tables of an index

Three tables: records by path, owners by type name, and the number of uses of each
package. A record enters them by a sequence of single writes, each of which
touches one entry; so what several records leave behind can be studied for every
order in which their writes happen. A type that several files declare belongs to
the file with the least path.

Records are told apart by their numbers and not by what they say: a file that is
entered again gets a new record, and taking out the old one leaves alone what
belongs to any other.

## Main definitions

* `Record` — an outline with the number under which it is held
* `Tables` — the three tables
* `Write`, `Record.writes`, `Tables.apply` — single writes, those that enter a record,
  and what one of them does
* `Tables.insert`, `Tables.withdraw` — enter a record, and take one out again
* `Tables.addPackage`, `Tables.removePackage` — count a use of a package more or less
-/

namespace JavaIndex

/-- An outline as an index holds it, under a number that no other record has. -/
structure Record extends Outline where
  number : Nat
  deriving DecidableEq, Repr

/-- The tables of an index. -/
structure Tables where
  /-- The record of each file, whatever the spelling of its path. -/
  records : Cache Path.Key Record
  /-- The record that answers for each declared type name. -/
  owners : Cache String Record
  /-- How often each package is in use; unused packages have no entry. -/
  packages : Cache String Nat

/-- What two spellings of a record's path share. -/
def Record.key (record : Record) : Path.Key :=
  record.path.components

/-- A single write. -/
inductive Write where
  /-- The record is filed under its path. -/
  | file (record : Record)
  /-- The record claims a type name. -/
  | claim (name : String) (record : Record)
  /-- One more use of a package. -/
  | count (package : String)
  deriving DecidableEq, Repr

/-- The records in the order of their paths. -/
def sortRecords (records : List Record) : List Record :=
  records.mergeSort fun left right => left.path.compare right.path != .gt

/-- The writes that enter a record, in order. -/
def Record.writes (record : Record) : List Write :=
  .file record :: record.declaredTypes.map (fun type => .claim type.name record) ++
    [.count record.packageName]

namespace Tables

/-- The tables without entries. -/
def empty : Tables := ⟨Cache.empty, Cache.empty, Cache.empty⟩

/-- Whether the current owner of a name keeps it against another record. A record of
the same path is always replaced. -/
def keepsName (current claimant : Record) : Bool :=
  if current.key = claimant.key then false else current.path.before claimant.path

/-- How often a package is in use. -/
def usage (tables : Tables) (package : String) : Nat :=
  (tables.packages.get? package).getD 0

/-- One more use of a package. -/
def addPackage (tables : Tables) (package : String) : Tables :=
  { tables with packages := tables.packages.insert package (tables.usage package + 1) }

/-- One use of a package less; the last one takes the entry with it. -/
def removePackage (tables : Tables) (package : String) : Tables :=
  match tables.packages.get? package with
  | none => tables
  | some count =>
    if count - 1 = 0 then { tables with packages := tables.packages.erase package }
    else { tables with packages := tables.packages.insert package (count - 1) }

/-- What a single write does. -/
def apply (tables : Tables) : Write → Tables
  | .file record => { tables with records := tables.records.insert record.key record }
  | .claim name record =>
    { tables with owners := (tables.owners.putUnless name record keepsName).2 }
  | .count package => tables.addPackage package

/-- The tables with a record entered. -/
def insert (tables : Tables) (record : Record) : Tables :=
  record.writes.foldl apply tables

/-- Takes a name from its owner if that is the very record given. -/
def release (record : Record) (tables : Tables) (name : String) : Tables :=
  if (tables.owners.get? name).any fun current => current.number == record.number then
    { tables with owners := tables.owners.erase name }
  else tables

/-- The tables with a record taken out. Names that others have claimed stay theirs. -/
def withdraw (tables : Tables) (record : Record) : Tables :=
  let unfiled := { tables with records := tables.records.erase record.key }
  let released := (record.declaredTypes.map QualifiedType.name).foldl (release record) unfiled
  released.removePackage record.packageName

/-- Whether a type name is declared by a file of the index. -/
def knows (tables : Tables) (name : String) : Bool :=
  tables.owners.contains name

/-- All records, ordered by path. -/
def sortedRecords (tables : Tables) : List Record :=
  sortRecords tables.records.values

end Tables

end JavaIndex
