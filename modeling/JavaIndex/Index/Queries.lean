import JavaIndex.Index.Basic

/-!
# Asking an index

Records by path and by type, references resolved in the context of a file, and
the counts of files, types and packages.

## Main definitions

* `Index.byPath?`, `Index.byType?` — the record of a path, and the one that answers for a type
* `Index.resolveIn?` — what a reference in an indexed file stands for
* `Index.allTypes`, `Index.allRecords`, `Index.packageCounts` — everything in order
* `Index.addPackage`, `Index.removePackage` — package uses counted by hand
* `Index.calls` — the calls of the post-processor
-/

namespace JavaIndex.Index

/-- The record of a path, in any spelling. -/
def byPath? (index : Index) (path : Path) : Option Record :=
  index.tables.records.get? path.components

/-- The record that answers for a type; a binary name is cut back to the outer type. -/
def byType? (index : Index) (type : QualifiedType) : Option Record :=
  index.tables.owners.get? type.outer.name

/-- Whether a name is that of a declared type, taken as it is. -/
def containsType (index : Index) (name : String) : Bool :=
  index.tables.knows name

/-- Every declared type. -/
def allTypes (index : Index) : TypeSet :=
  TypeSet.ofList (index.tables.owners.keys.map fun name => ⟨name, .projectReference⟩)

/-- Every record, ordered by path. -/
def allRecords (index : Index) : List Record :=
  index.tables.sortedRecords

/-- The number of files. -/
def fileCount (index : Index) : Nat :=
  index.tables.records.size

/-- The types a record uses; none before it is resolved. -/
def usedTypes (index : Index) (record : Record) : TypeSet :=
  (index.usedBy? record).getD []

/-- Whether the references of a record are resolved. -/
def isResolved (index : Index) (record : Record) : Bool :=
  (index.usedBy? record).isSome

/-- What a reference stands for in the context of an indexed file. -/
def resolveIn? (index : Index) (path : Path) (reference : TypeReference) : Option QualifiedType :=
  (index.byPath? path).map fun record => resolve reference record.context index.known

/-! ### Packages -/

/-- How often a package is in use. -/
def packageUsage (index : Index) (package : String) : Nat :=
  index.tables.usage package

/-- The packages in use, ordered by name, and how often. -/
def packageCounts (index : Index) : List (String × Nat) :=
  (index.tables.packages.entries.filter fun entry => 0 < entry.2).mergeSort fun left right =>
    Text.compare left.1 right.1 != .gt

/-- The names of the packages in use, in order. -/
def packageNames (index : Index) : List String :=
  index.packageCounts.map Prod.fst

/-- Counts one more use of a package. -/
def addPackage (index : Index) (package : String) : Index :=
  { index with tables := index.tables.addPackage package }

/-- Counts one use of a package less. -/
def removePackage (index : Index) (package : String) : Index :=
  { index with tables := index.tables.removePackage package }

/-! ### Reports -/

/-- The call that an event is, if it is one. -/
def callOf? : Event → Option Call
  | .called _ call => some call
  | _ => none

/-- The calls of the post-processor in the journal, the earliest first. -/
def calls (index : Index) : List Call :=
  (index.journal.filterMap callOf?).reverse

/-- The index in one line. -/
def describe (index : Index) : String :=
  "ProjectIndex \x7b config: " ++ index.config.describe ++
    ", threads: " ++ toString index.workers ++
    ", files: " ++ toString index.tables.records.size ++
    ", types: " ++ toString index.tables.owners.size ++
    ", packages: " ++ toString index.tables.packages.size ++ " \x7d"

end JavaIndex.Index
