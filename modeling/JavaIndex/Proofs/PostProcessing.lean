import JavaIndex.Proofs.Failures
import Mathlib.Algebra.GroupWithZero.Nat

/-!
# The post-processor only watches

The post-processor is told about each record once the types that the record uses are
noted, and a panic that it ends in is caught. So what it does cannot be seen in the index:
two indexes whose configurations differ in the post-processor alone go through the same
tables and note the same types, whatever operations they perform. All they may report
differently of a build is what the post-processors did themselves.

The argument follows the operations from the inside out. Two indexes agree (`Index.Agrees`)
if they agree on everything that an operation looks at, the post-processor apart, and each
part of an operation keeps them in agreement.

## Main definitions

* `Index.Agrees` — two indexes agree on all but the post-processor
* `Index.panicOn?` — the panic that the post-processor ends in on a record
* `Index.fileStats`, `Index.withPanics` — what a build reports of the files, and statistics with
  what the post-processor adds to them

## Main results

* `Index.settleAll_fst` — what the second phase reports
* `Index.buildStats_eq` — what a build reports, with the part of the post-processor apart
* `Index.Agrees.perform`, `Index.Agrees.run` — operations keep two indexes in agreement
* `Index.run_postProcessor` — two runs with different post-processors
-/

namespace JavaIndex.Index

variable {index left right left' right' : Index} {record : Record} {tree : FileTree}
  {root path : Path} {files : List Path}

/-! ### What the second phase reports -/

/-- The panic that the post-processor ends in when it is told about a record and the types
that the record uses, if it does. -/
def panicOn? (index : Index) (record : Record) : Option Payload :=
  index.config.postProcessor.bind fun process =>
    process record.toOutline (record.resolveWith index.known)

/-- The number of references in those of the records that the post-processor does not panic
on. -/
def referencesOf (index : Index) (records : List Record) : Nat :=
  ((records.filter fun record => (index.panicOn? record).isNone).map fun record =>
    record.references.length).sum

/-- The reports of the panics that the post-processor ends in on some records, in order. -/
def panicsOn (index : Index) (records : List Record) : List FileError :=
  records.filterMap fun record => (index.panicOn? record).map (FileError.ofPanic record.path)

/-- Statistics with what the post-processor adds to them. -/
def withPanics (index : Index) (stats : Stats) : Stats :=
  { stats with
    referencesResolved := index.referencesOf index.allRecords
    errors := stats.errors ++ index.panicsOn index.allRecords }

theorem panicOn?_congr (config : left.config = right.config)
    (tables : left.tables = right.tables) : left.panicOn? = right.panicOn? := by
  funext record
  rw [panicOn?, panicOn?, known, known, config, tables]

theorem callPostProcessor_fst (index : Index) (record : Record) :
    (index.callPostProcessor record).1 = index.config.postProcessor.bind fun process =>
      process record.toOutline (index.usedTypes record) := by
  unfold callPostProcessor
  cases index.config.postProcessor <;> rfl

/-- A record that is not resolved yet is shown to the post-processor with the types that are
noted for it. -/
theorem settle_fst (fresh : index.cells[record.number]? = some none) :
    (index.settle record).1 = index.panicOn? record := by
  have noted : (index.noteUsed record (record.resolveWith index.known)).usedTypes record =
      record.resolveWith index.known := by
    rw [Index.usedTypes, usedBy?, noteUsed_cells, if_pos ⟨rfl, fresh⟩]
    rfl
  rw [settle, callPostProcessor_fst, noted, noteUsed_config, panicOn?]

theorem settleAll_fst_cons (index : Index) (record : Record) (rest : List Record) :
    (index.settleAll (record :: rest)).1 =
      match (index.settle record).1, ((index.settle record).2.settleAll rest).1 with
      | none, (count, errors) => (record.references.length + count, errors)
      | some payload, (count, errors) =>
        (count, FileError.ofPanic record.path payload :: errors) := by
  rw [settleAll]
  split <;> rename_i settled <;> rw [settled]

/-- The second phase reports what the post-processor does on the records, one after the
other. -/
theorem settleAll_fst {records : List Record} (index : Index)
    (distinct : (records.map Record.number).Nodup)
    (fresh : ∀ record ∈ records, index.cells[record.number]? = some none) :
    (index.settleAll records).1 = (index.referencesOf records, index.panicsOn records) := by
  induction records generalizing index with
  | nil => rfl
  | cons first rest ih =>
    obtain ⟨notLater, distinct⟩ := List.nodup_cons.mp distinct
    obtain ⟨firstFresh, restFresh⟩ := List.forall_mem_cons.mp fresh
    have later := ih (index.settle first).2 distinct fun other member => by
      have differs : other.number ≠ first.number :=
        fun same => notLater (same ▸ List.mem_map_of_mem member)
      rw [settle_cells, if_neg (fun both => differs both.1)]
      exact restFresh other member
    have samePanics : (index.settle first).2.panicOn? = index.panicOn? :=
      panicOn?_congr (settle_config index first) (settle_tables index first)
    rw [settleAll_fst_cons, later, settle_fst firstFresh, referencesOf, referencesOf, panicsOn,
      panicsOn, samePanics, List.filter_cons, List.filterMap_cons]
    cases index.panicOn? first with
    | none => rfl
    | some payload => rfl

/-- What a build reports of the files found, before the post-processor adds anything. -/
def fileStats (index : Index) (tree : FileTree) (found : Discovery) : Stats where
  filesIndexed := (outlinesOf index.config.parser tree found.files).length
  filesSkipped := found.skipped
  typesRegistered := (index.afterPhases tree found.files).tables.owners.size
  referencesResolved := 0
  errors := failuresOf index.config.parser tree found.files

/-- What a build reports: what there is to say of the files, and what the post-processor
adds. -/
theorem buildStats_eq (index : Index) (tree : FileTree) {found : Discovery}
    (distinct : (found.files.map Path.components).Nodup) :
    index.buildStats tree found =
      (index.afterPhases tree found.files).withPanics (index.fileStats tree found) := by
  obtain ⟨numbers, fresh⟩ := fresh_sortedRecords index tree distinct
  have report := settleAll_fst _ numbers fresh
  have sameTables : (index.afterPhases tree found.files).tables =
      (index.reset.enterFiles tree found.files).2.tables := settleAll_tables _ _
  have samePanics : (index.afterPhases tree found.files).panicOn? =
      (index.reset.enterFiles tree found.files).2.panicOn? :=
    panicOn?_congr (settleAll_config _ _) sameTables
  simp only [buildStats, report, withPanics, fileStats, referencesOf, panicsOn, allRecords,
    samePanics, sameTables]

/-! ### Two indexes in agreement -/

/-- Two indexes agree on everything that operations look at, the post-processor apart. -/
structure Agrees (left right : Index) : Prop where
  exclusions : left.config.exclusions = right.config.exclusions
  parser : left.config.parser = right.config.parser
  tables : left.tables = right.tables
  cells : left.cells = right.cells

namespace Agrees

theorem change (agrees : left.Agrees right) (leftConfig : left'.config = left.config)
    (rightConfig : right'.config = right.config) (tables : left'.tables = right'.tables)
    (cells : left'.cells = right'.cells) : left'.Agrees right' := by
  constructor
  case exclusions => rw [leftConfig, rightConfig, agrees.exclusions]
  case parser => rw [leftConfig, rightConfig, agrees.parser]
  case tables => exact tables
  case cells => exact cells

theorem known (agrees : left.Agrees right) : left.known = right.known := by
  rw [Index.known, Index.known, agrees.tables]

theorem usedBy? (agrees : left.Agrees right) : left.usedBy? = right.usedBy? := by
  funext record
  rw [Index.usedBy?, Index.usedBy?, agrees.cells]

theorem nextRecord (agrees : left.Agrees right) (outline : Outline) :
    left.nextRecord outline = right.nextRecord outline := by
  rw [Index.nextRecord, Index.nextRecord, agrees.cells]

theorem refusal? (agrees : left.Agrees right) (path : Path) :
    left.refusal? path = right.refusal? path := by
  rw [Index.refusal?, Index.refusal?, agrees.exclusions]

/-! #### Resolving -/

theorem noteUsed (agrees : left.Agrees right) (record : Record) (types : TypeSet) :
    (left.noteUsed record types).Agrees (right.noteUsed record types) := by
  unfold Index.noteUsed
  rw [agrees.usedBy?]
  cases right.usedBy? record with
  | none =>
    refine agrees.change rfl rfl agrees.tables ?_
    exact congrArg (Array.setIfInBounds · record.number (some types)) agrees.cells
  | some known => exact agrees.change rfl rfl agrees.tables agrees.cells

/-- Whatever two post-processors do, they leave the indexes in agreement. -/
theorem callPostProcessor (agrees : left.Agrees right) (record : Record) :
    (left.callPostProcessor record).2.Agrees (right.callPostProcessor record).2 := by
  apply agrees.change (callPostProcessor_config left record) (callPostProcessor_config right record)
  · rw [callPostProcessor_tables, callPostProcessor_tables, agrees.tables]
  · rw [callPostProcessor_cells, callPostProcessor_cells, agrees.cells]

theorem settle (agrees : left.Agrees right) (record : Record) :
    (left.settle record).2.Agrees (right.settle record).2 := by
  rw [Index.settle, Index.settle, agrees.known]
  exact (agrees.noteUsed record _).callPostProcessor record

theorem settleAll (agrees : left.Agrees right) (records : List Record) :
    (left.settleAll records).2.Agrees (right.settleAll records).2 := by
  induction records generalizing left right with
  | nil => exact agrees
  | cons record rest ih =>
    rw [settleAll_cons, settleAll_cons]
    exact ih (agrees.settle record)

/-! #### Entering records -/

theorem addRecord (agrees : left.Agrees right) (record : Record) :
    (left.addRecord record).Agrees (right.addRecord record) := by
  refine agrees.change rfl rfl ?_ ?_
  · exact congrArg (Tables.insert · record) agrees.tables
  · exact congrArg (Array.push · none) agrees.cells

theorem makeRoom (agrees : left.Agrees right) (key : Path.Key) :
    (left.makeRoom key).Agrees (right.makeRoom key) := by
  unfold Index.makeRoom
  rw [agrees.tables]
  cases right.tables.records.get? key with
  | none => exact agrees
  | some previous => exact agrees.change rfl rfl rfl agrees.cells

theorem enter (agrees : left.Agrees right) (record : Record) :
    (left.enter record).Agrees (right.enter record) :=
  (agrees.makeRoom record.key).addRecord record

theorem addOutlines (agrees : left.Agrees right) (outlines : List Outline) :
    (left.addOutlines outlines).Agrees (right.addOutlines outlines) := by
  induction outlines generalizing left right with
  | nil => exact agrees
  | cons outline rest ih =>
    have next : (left.addRecord (left.nextRecord outline)).Agrees
        (right.addRecord (right.nextRecord outline)) := by
      rw [agrees.nextRecord]
      exact agrees.addRecord _
    exact ih next

/-! #### Operations -/

/-- A registration has the same result in both. -/
theorem register (agrees : left.Agrees right) (path : Path)
    (build : Except (Failure Error) Outline) :
    (left.register path build).1 = (right.register path build).1 ∧
      (left.register path build).2.Agrees (right.register path build).2 := by
  unfold Index.register
  rw [agrees.refusal?]
  cases right.refusal? path with
  | some error => exact ⟨rfl, agrees⟩
  | none =>
    cases build with
    | error failure => exact ⟨rfl, agrees⟩
    | ok outline =>
      -- A panic of the post-processor does not show in the result.
      change Except.ok (left.nextRecord outline) = Except.ok (right.nextRecord outline) ∧
        ((left.enter (left.nextRecord outline)).settle (left.nextRecord outline)).2.Agrees
          ((right.enter (right.nextRecord outline)).settle (right.nextRecord outline)).2
      rw [agrees.nextRecord]
      exact ⟨rfl, (agrees.enter _).settle _⟩

theorem registerFile (agrees : left.Agrees right) (tree : FileTree) (path : Path) :
    (left.registerFile tree path).1 = (right.registerFile tree path).1 ∧
      (left.registerFile tree path).2.Agrees (right.registerFile tree path).2 := by
  rw [Index.registerFile, Index.registerFile, agrees.parser]
  exact agrees.register path _

theorem registerSource (agrees : left.Agrees right) (path : Path) (source : String) :
    (left.registerSource path source).1 = (right.registerSource path source).1 ∧
      (left.registerSource path source).2.Agrees (right.registerSource path source).2 := by
  rw [Index.registerSource, Index.registerSource, agrees.parser]
  exact agrees.register path _

theorem afterPhases (agrees : left.Agrees right) (tree : FileTree) (files : List Path) :
    (left.afterPhases tree files).Agrees (right.afterPhases tree files) := by
  have reset : left.reset.Agrees right.reset := agrees.change rfl rfl rfl agrees.cells
  have entered : (left.reset.enterFiles tree files).2.Agrees
      (right.reset.enterFiles tree files).2 := by
    rw [enterFiles_snd, enterFiles_snd, reset.parser]
    exact reset.addOutlines _
  rw [Index.afterPhases, Index.afterPhases, entered.tables]
  exact entered.settleAll _

theorem fileStats (agrees : left.Agrees right) (tree : FileTree) (found : Discovery) :
    left.fileStats tree found = right.fileStats tree found := by
  rw [Index.fileStats, Index.fileStats, agrees.parser, (agrees.afterPhases tree found.files).tables]

/-- A build fails alike in both, or it succeeds in both, with statistics that differ only in
what the post-processors add to them. -/
theorem build (agrees : left.Agrees right) (tree : FileTree) (root : Path) :
    (∃ error, left.build tree root = (.error error, left) ∧
        right.build tree root = (.error error, right)) ∨
      ∃ common left' right', left.build tree root = (.ok (left'.withPanics common), left') ∧
        right.build tree root = (.ok (right'.withPanics common), right') ∧
        left'.Agrees right' := by
  cases folder : tree.folderAt? root with
  | none =>
    simp only [Index.build, folder]
    exact .inl ⟨_, rfl, rfl⟩
  | some entries =>
    have distinct := nodup_discover_files right.config.exclusions root
      (FileTree.wellNamed_folderAt? folder)
    refine .inr ⟨right.fileStats tree (discover right.config.exclusions root entries), _, _, ?_, ?_,
      agrees.afterPhases tree (discover right.config.exclusions root entries).files⟩
    · rw [build_of_folder left folder, agrees.exclusions, buildStats_eq left tree distinct,
        agrees.fileStats]
    · rw [build_of_folder right folder, buildStats_eq right tree distinct]

theorem perform (agrees : left.Agrees right) (operation : Operation) :
    (left.perform operation).Agrees (right.perform operation) := by
  cases operation with
  | build tree root =>
    rw [Index.perform, Index.perform]
    rcases agrees.build tree root with
      ⟨error, failed, failed'⟩ | ⟨common, left', right', built, built', after⟩
    · rw [failed, failed']
      exact agrees
    · rw [built, built']
      exact after
  | registerFile tree path => exact (agrees.registerFile tree path).2
  | registerSource path source => exact (agrees.registerSource path source).2
  | addPackage package =>
    exact agrees.change rfl rfl (congrArg (Tables.addPackage · package) agrees.tables) agrees.cells
  | removePackage package =>
    exact agrees.change rfl rfl (congrArg (Tables.removePackage · package) agrees.tables)
      agrees.cells

theorem run (agrees : left.Agrees right) (operations : List Operation) :
    (left.run operations).Agrees (right.run operations) := by
  induction operations generalizing left right with
  | nil => exact agrees
  | cons operation rest ih => exact ih (agrees.perform operation)

end Agrees

/-- The post-processor has no say in whether an index can be made. -/
theorem create_postProcessor {config : Config} {cores : Nat} {start : Index}
    (created : create config cores = .ok start) (post : Option PostProcessor) :
    ∃ other, create { config with postProcessor := post } cores = .ok other ∧
      start.Agrees other := by
  obtain ⟨workers, counted, rfl⟩ := create_eq_ok.mp created
  exact ⟨_, create_eq_ok.mpr ⟨workers, counted, rfl⟩, rfl, rfl, rfl, rfl⟩

/-- Two indexes are made with configurations that differ in the post-processor alone, and
perform the same operations. After each of them they hold the same records, owners and
counts, and the same types are noted for each record. Registrations have the same results;
builds fail alike, and the statistics of one that succeeds differ only in what the
post-processors add to them: the references of the records that they do not panic on, and a
report of each panic. -/
theorem run_postProcessor {config : Config} {cores : Nat} {start : Index}
    (created : create config cores = .ok start) (post : Option PostProcessor) :
    ∃ other, create { config with postProcessor := post } cores = .ok other ∧
      ∀ operations,
        let left := start.run operations
        let right := other.run operations
        left.tables = right.tables ∧
        (∀ record, left.usedTypes record = right.usedTypes record ∧
          left.isResolved record = right.isResolved record) ∧
        (∀ tree path, (left.registerFile tree path).1 = (right.registerFile tree path).1) ∧
        (∀ path source,
          (left.registerSource path source).1 = (right.registerSource path source).1) ∧
        ∀ tree root,
          (∃ error, (left.build tree root).1 = .error error ∧
            (right.build tree root).1 = .error error) ∨
          ∃ common left' right', left.build tree root = (.ok (left'.withPanics common), left') ∧
            right.build tree root = (.ok (right'.withPanics common), right') := by
  obtain ⟨other, made, agrees⟩ := create_postProcessor created post
  refine ⟨other, made, fun operations => ?_⟩
  have after := agrees.run operations
  refine ⟨after.tables, fun record => ?_, fun tree path => (after.registerFile tree path).1,
    fun path source => (after.registerSource path source).1, fun tree root => ?_⟩
  · rw [Index.usedTypes, Index.usedTypes, isResolved, isResolved, after.usedBy?]
    exact ⟨rfl, rfl⟩
  · rcases after.build tree root with
      ⟨error, failed, failed'⟩ | ⟨common, left', right', built, built', -⟩
    · exact .inl ⟨error, congrArg Prod.fst failed, congrArg Prod.fst failed'⟩
    · exact .inr ⟨common, left', right', built, built'⟩

/-- The post-processor of one index panics on a file, the other index has none. The builds
report the panic and the references left out in one of them, and nothing else. -/
theorem run_postProcessor_panicking :
    let sources : List Entry := [.file "A.java" "class A \x7b B b; \x7d".toUTF8]
    let tree : FileTree := ⟨⟨"/"⟩, [.folder "src" sources], by decide⟩
    let config : Config := { postProcessor := some fun outline _ =>
      if outline.primary.name = "A" then some (.text "post failed") else none }
    let start : Index := ⟨config, 1, Tables.empty, #[], []⟩
    let operations : List Operation := [.registerSource ⟨"T.java"⟩ "class T \x7b A a; \x7d"]
    ∃ other, create { config with postProcessor := none } 1 = .ok other ∧
      (start.run operations).tables = (other.run operations).tables ∧
      ∃ common left' right',
        (start.run operations).build tree ⟨"src"⟩ = (.ok (left'.withPanics common), left') ∧
        (other.run operations).build tree ⟨"src"⟩ = (.ok (right'.withPanics common), right') ∧
        (left'.withPanics common).errors = [⟨⟨"src/A.java"⟩, .taskPanicked, "post failed"⟩] ∧
        (right'.withPanics common).errors = [] ∧
        (left'.withPanics common).referencesResolved = 0 ∧
        (right'.withPanics common).referencesResolved = 1 := by
  intro sources tree config start operations
  have created : create config 1 = .ok start := rfl
  obtain ⟨other, made, runs⟩ := run_postProcessor created none
  obtain ⟨sameTables, -, -, -, builds⟩ := runs operations
  obtain rfl : ⟨{ config with postProcessor := none }, 1, Tables.empty, #[], []⟩ = other :=
    Except.ok.inj made
  have reports : (((start.run operations).build tree ⟨"src"⟩).1.toOption.map fun stats =>
        (stats.errors, stats.referencesResolved)) =
          some ([⟨⟨"src/A.java"⟩, .taskPanicked, "post failed"⟩], 0) ∧
      (((Index.mk { config with postProcessor := none } 1 Tables.empty #[] []).run
        operations).build tree ⟨"src"⟩).1.toOption.map (fun stats =>
          (stats.errors, stats.referencesResolved)) = some ([], 1) := by
    decide +kernel
  obtain ⟨report, report'⟩ := reports
  refine ⟨_, made, sameTables, ?_⟩
  rcases builds tree ⟨"src"⟩ with ⟨error, failed, -⟩ | ⟨common, left', right', built, built'⟩
  · rw [failed] at report
    cases report
  · rw [built] at report
    rw [built'] at report'
    obtain ⟨errors, references⟩ := Prod.mk.inj (Option.some.inj report)
    obtain ⟨errors', references'⟩ := Prod.mk.inj (Option.some.inj report')
    exact ⟨common, left', right', built, built', errors, errors', references, references'⟩

end JavaIndex.Index
