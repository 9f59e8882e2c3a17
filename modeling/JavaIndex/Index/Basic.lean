import JavaIndex.Discovery
import JavaIndex.Index.Tables
import JavaIndex.Outline.Build

/-!
# The index

An index over the Java sources of a project. It is built from a folder in two
phases, first all records and then, against the complete tables, the types that
each record uses; or file by file, each one resolved against the index of that
moment. A file that cannot be read, parsed or resolved is reported and leaves the
others alone.

Each operation returns its result together with the index afterwards, whether it
succeeds or fails.

## Main definitions

* `Index` — configuration, tables, used types and what happened so far
* `Index.create` — an index without files
* `Index.build` — the index of all sources below a folder, with statistics
* `Index.registerFile`, `Index.registerSource` — the index with one file entered
-/

namespace JavaIndex

/-- One call of the post-processor. -/
structure Call where
  path : Path
  /-- Whether the used types were known at the time. -/
  resolved : Bool
  /-- How many types the file uses. -/
  usedCount : Nat
  deriving DecidableEq, Repr

/-- What happens to records. -/
inductive Event where
  | inserted (record : Record)
  /-- The used types were computed; `first` if none were known before. -/
  | resolved (record : Record) (first : Bool)
  | called (record : Record) (call : Call)
  deriving DecidableEq, Repr

/-- An index over Java sources. -/
structure Index where
  config : Config
  /-- The number of workers, at least one. -/
  workers : Nat
  tables : Tables
  /-- A cell for each record made so far, in the place of its number: the types that the
  record uses, once they are known. -/
  cells : Array (Option TypeSet)
  /-- What happened so far, the latest first. -/
  journal : List Event

/-- What a build reports. -/
structure Stats where
  filesIndexed : Nat
  filesSkipped : Nat
  typesRegistered : Nat
  referencesResolved : Nat
  /-- Failures to build a record in path order, then failures to resolve one. -/
  errors : List FileError
  deriving DecidableEq, Repr

namespace Index

/-- An index without files on a machine with so many cores. -/
def create (config : Config) (cores : Nat) : Except Error Index :=
  (config.workers cores).map fun workers =>
    { config, workers, tables := Tables.empty, cells := #[], journal := [] }

/-- The names that references may refer to. -/
def known (index : Index) : KnownTypes :=
  some index.tables.knows

/-! ### Resolving -/

/-- The types a record is known to use. -/
def usedBy? (index : Index) (record : Record) : Option TypeSet :=
  index.cells[record.number]?.join

/-- The index with the used types of a record noted, unless some were before. -/
def noteUsed (index : Index) (record : Record) (types : TypeSet) : Index :=
  match index.usedBy? record with
  | none =>
    { index with
      cells := index.cells.setIfInBounds record.number (some types)
      journal := .resolved record true :: index.journal }
  | some _ => { index with journal := .resolved record false :: index.journal }

/-- Tells the post-processor about a record; the panic it ends in, if it does. -/
def callPostProcessor (index : Index) (record : Record) : Option Payload × Index :=
  match index.config.postProcessor with
  | none => (none, index)
  | some process =>
    let types := (index.usedBy? record).getD []
    let call : Call := ⟨record.path, (index.usedBy? record).isSome, types.length⟩
    (process record.toOutline types,
      { index with journal := .called record call :: index.journal })

/-- Resolves the references of a record and has it post-processed. -/
def settle (index : Index) (record : Record) : Option Payload × Index :=
  (index.noteUsed record (record.resolveWith index.known)).callPostProcessor record

/-! ### One file at a time -/

/-- A new record with the given outline. -/
def nextRecord (index : Index) (outline : Outline) : Record :=
  { outline with number := index.cells.size }

/-- The index with a new record entered beside those of other paths. -/
def addRecord (index : Index) (record : Record) : Index :=
  { index with
    tables := index.tables.insert record
    cells := index.cells.push none
    journal := .inserted record :: index.journal }

/-- The index without the record of a path. -/
def makeRoom (index : Index) (key : Path.Key) : Index :=
  match index.tables.records.get? key with
  | none => index
  | some previous => { index with tables := index.tables.withdraw previous }

/-- The index with a new record entered in place of the one under the same path. -/
def enter (index : Index) (record : Record) : Index :=
  (index.makeRoom record.key).addRecord record

/-- Why a path cannot be registered, if it cannot. -/
def refusal? (index : Index) (path : Path) : Option Error :=
  if !path.isSourceFile then
    some (.invalidArgument ("not a Java source file: " ++ path.text))
  else
    (skipReason? index.config.exclusions path).map fun reason =>
      let reason := match reason with
        | .markerFile => "MarkerFile"
        | .excluded text => "Excluded(" ++ Text.quoted text ++ ")"
      .invalidArgument (path.text ++ " is filtered out (" ++ reason ++ ")")

/-- Registers a path whose outline is built as given. An outline that could be built is
always entered, even if the post-processor panics. -/
def register (index : Index) (path : Path) (build : Except (Failure Error) Outline) :
    Except (Failure Error) Record × Index :=
  match index.refusal? path with
  | some error => (.error (.error error), index)
  | none =>
    match build with
    | .error failure => (.error failure, index)
    | .ok outline =>
      -- From here on nothing can fail; a panic of the post-processor is only reported.
      let record := index.nextRecord outline
      (.ok record, ((index.enter record).settle record).2)

/-- Registers a file as it stands in the tree of files. -/
def registerFile (index : Index) (tree : FileTree) (path : Path) :
    Except (Failure Error) Record × Index :=
  index.register path (Outline.ofFile index.config.parser tree path)

/-- Registers a path with the given source. -/
def registerSource (index : Index) (path : Path) (source : String) :
    Except (Failure Error) Record × Index :=
  index.register path (Outline.ofSource index.config.parser path source)

/-! ### All files of a folder -/

/-- The index without any files. -/
def reset (index : Index) : Index :=
  { index with tables := Tables.empty }

/-- First phase: the outlines of the given files are built and entered; the failures
in order. -/
def enterFiles (index : Index) (tree : FileTree) : List Path → List FileError × Index
  | [] => ([], index)
  | path :: rest =>
    match Outline.ofFile index.config.parser tree path with
    | .error failure =>
      let (errors, index) := index.enterFiles tree rest
      (FileError.ofFailure path failure :: errors, index)
    | .ok outline => (index.addRecord (index.nextRecord outline)).enterFiles tree rest

/-- Second phase: the given records are resolved; the number of references in those
that were not stopped by a panic, and the panics in order. -/
def settleAll (index : Index) : List Record → (Nat × List FileError) × Index
  | [] => ((0, []), index)
  | record :: rest =>
    match index.settle record with
    | (none, index) =>
      let ((count, errors), index) := index.settleAll rest
      ((record.references.length + count, errors), index)
    | (some payload, index) =>
      let ((count, errors), index) := index.settleAll rest
      ((count, FileError.ofPanic record.path payload :: errors), index)

/-- Builds the index of all sources below a folder, whatever it held before. -/
def build (index : Index) (tree : FileTree) (root : Path) : Except Error Stats × Index :=
  match tree.folderAt? root with
  | none =>
    (.error (.invalidArgument ("index root is not a directory: " ++ root.text)), index)
  | some entries =>
    let found := discover index.config.exclusions root entries
    let (entryErrors, index) := index.reset.enterFiles tree found.files
    let ((references, panics), index) := index.settleAll index.tables.sortedRecords
    (.ok
      { filesIndexed := found.files.length - entryErrors.length
        filesSkipped := found.skipped
        typesRegistered := index.tables.owners.size
        referencesResolved := references
        errors := entryErrors ++ panics },
      index)

end Index

end JavaIndex
