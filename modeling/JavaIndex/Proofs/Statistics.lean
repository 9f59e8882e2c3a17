import JavaIndex.Proofs.Isolation
import JavaIndex.Proofs.PostProcessing

/-!
# What a build reports

The statistics of a build account for every Java source in the folders that are entered: it
is indexed, or it failed and is reported, or it was left out. On the way a source passes four
stages, the walk, the filter, the making of its outline and the post-processor, and each of
them keeps the count: what does not go on to the next stage is counted where it stays behind.

The reports come in the order of the paths, first those of files that were not indexed and
then those of indexed files on which the post-processor panicked.

## Main definitions

* `IsSourceBelow` — a path is that of a Java source in a folder that is entered
* `Stats.Accounts` — statistics account for what was found and for what was built

## Main results

* `Index.perm_allRecords` — a build files the records of its first phase and no others
* `Index.build_accounts` — the statistics of a build account for what it found and built
-/

namespace JavaIndex

variable {folder root path : Path} {entries : List Entry}

/-! ### Sources that are found -/

/-- The path is that of a Java source in the folder or in one of those below it that are
entered. -/
def IsSourceBelow (folder : Path) (entries : List Entry) (path : Path) : Prop :=
  path.isSourceFile = true ∧
    ∃ name bytes steps, LiesBelow name bytes path folder entries steps

theorem mem_sources (named : Entry.wellNamedList entries = true) :
    path ∈ (filesBelow folder entries).filter Path.isSourceFile ↔
      IsSourceBelow folder entries path := by
  rw [List.mem_filter, mem_filesBelow named, and_comm]
  rfl

theorem nodup_sources (folder : Path) (named : Entry.wellNamedList entries = true) :
    ((filesBelow folder entries).filter Path.isSourceFile).Nodup :=
  (nodup_filesBelow folder named).of_map.filter _

/-- Every file gives an outline or a report. -/
theorem length_outlinesOf_add (parser : Parser) (tree : FileTree) (files : List Path) :
    (outlinesOf parser tree files).length + (failuresOf parser tree files).length =
      files.length := by
  have fewer : (failuresOf parser tree files).length ≤ files.length := List.length_filterMap_le _ _
  rw [← length_outlinesOf]
  omega

/-- Statistics account for the sources below a folder and for the index that was built from
them. What there is to report of files that were not indexed, and of those that were, is
given apart. -/
structure Stats.Accounts (stats : Stats) (root : Path) (entries : List Entry)
    (failures panics : List FileError) (built : Index) : Prop where
  filesIndexed : stats.filesIndexed = built.fileCount
  /-- There are as many sources as were indexed, reported as failed, and left out. -/
  sources : ∃ sources : List Path, sources.Nodup ∧
    (∀ path, path ∈ sources ↔ IsSourceBelow root entries path) ∧
    stats.filesIndexed + failures.length + stats.filesSkipped = sources.length
  typesRegistered : stats.typesRegistered = built.tables.owners.keys.length
  /-- The references of the records that the post-processor does not panic on are counted. -/
  referencesResolved : stats.referencesResolved = built.referencesOf built.allRecords
  errors : stats.errors = failures ++ panics
  failures_increasing : failures.Pairwise fun left right => left.path < right.path
  failures_missing : ∀ error ∈ failures, built.byPath? error.path = none
  panics_increasing : panics.Pairwise fun left right => left.path < right.path
  panics_indexed : ∀ error ∈ panics, ∃ record payload,
    built.byPath? error.path = some record ∧ built.panicOn? record = some payload ∧
      error = .ofPanic record.path payload

/-! ### Reports in the order of the paths -/

theorem FileError.path_of_ofResult? {α : Type} {result : Except (Failure Error) α}
    {error : FileError} (reported : ofResult? path result = some error) : error.path = path := by
  cases result with
  | error failure =>
    cases reported
    exact path_ofFailure path failure
  | ok value => cases reported

theorem failuresOf_increasing (parser : Parser) (tree : FileTree) {files : List Path}
    (increasing : files.Pairwise (· < ·)) :
    (failuresOf parser tree files).Pairwise fun left right => left.path < right.path := by
  rw [failuresOf, List.pairwise_filterMap]
  refine increasing.imp fun below error reported error' reported' => ?_
  rwa [FileError.path_of_ofResult? reported, FileError.path_of_ofResult? reported']

theorem Tables.sortedRecords_increasing {tables : Tables}
    (filed : ∀ key record, tables.records.get? key = some record → record.key = key) :
    tables.sortedRecords.Pairwise fun left right => left.path < right.path := by
  have reordered : tables.sortedRecords.Perm tables.records.values := List.mergeSort_perm _ _
  -- A record is filed under its own path, so the paths differ as the keys of the table do.
  have keys : tables.records.values.map Record.key = tables.records.keys := by
    rw [Cache.values, List.map_map]
    exact List.map_congr_left fun entry member => filed _ _ (Cache.mem_entries.mp member)
  have distinct : (tables.sortedRecords.map Record.key).Nodup := by
    rw [(reordered.map Record.key).nodup_iff, keys]
    exact tables.records.distinct
  have paths : tables.sortedRecords.map (fun record => record.path) =
      sortPaths (tables.records.values.map fun record => record.path) :=
    List.map_mergeSort fun _ _ _ _ => rfl
  have sorted := pairwise_sortPaths (tables.records.values.map fun record => record.path)
  rw [← paths, List.pairwise_map] at sorted
  rw [List.Nodup, List.pairwise_map] at distinct
  exact (sorted.and distinct).imp fun both =>
    Path.lt_of_le_of_components_ne both.1 both.2

namespace Index

variable {index built : Index} {tree : FileTree} {files : List Path} {stats : Stats}
  {error : FileError}

theorem panicsOn_increasing {records : List Record} (index : Index)
    (increasing : records.Pairwise fun left right => left.path < right.path) :
    (index.panicsOn records).Pairwise fun left right => left.path < right.path := by
  rw [panicsOn, List.pairwise_filterMap]
  refine increasing.imp fun below error reported error' reported' => ?_
  obtain ⟨payload, -, rfl⟩ := Option.map_eq_some_iff.mp reported
  obtain ⟨payload', -, rfl⟩ := Option.map_eq_some_iff.mp reported'
  exact below

/-! ### Records that are filed -/

theorem length_allRecords (index : Index) : index.allRecords.length = index.fileCount := by
  have reordered : index.allRecords.Perm index.tables.records.values := List.mergeSort_perm _ _
  rw [reordered.length_eq, Cache.values, List.length_map]
  rfl

theorem allRecords_increasing (index : Index) (tree : FileTree)
    (distinct : (files.map Path.components).Nodup) :
    (index.afterPhases tree files).allRecords.Pairwise fun left right =>
      left.path < right.path :=
  Tables.sortedRecords_increasing (Sound.afterPhases index tree distinct).filed

/-- A build files the records of its first phase and no others. -/
theorem perm_allRecords (index : Index) (tree : FileTree)
    (distinct : (files.map Path.components).Nodup) :
    (index.afterPhases tree files).allRecords.Perm (index.newRecords tree files) := by
  -- Neither list repeats a record, so it is enough that they have the same ones.
  have nodup : (index.afterPhases tree files).allRecords.Nodup := by
    refine (allRecords_increasing index tree distinct).imp ?_
    rintro record _ below rfl
    exact lt_irrefl record.path below
  rw [List.perm_ext_iff_of_nodup nodup (nodup_newRecords_keys index tree distinct).of_map]
  intro record
  rw [allRecords, Tables.mem_sortedRecords, (tabulates_afterPhases index tree distinct).holds_iff]

theorem fileCount_afterPhases (index : Index) (tree : FileTree)
    (distinct : (files.map Path.components).Nodup) :
    (index.afterPhases tree files).fileCount =
      (outlinesOf index.config.parser tree files).length := by
  rw [← length_allRecords, (perm_allRecords index tree distinct).length_eq,
    ← List.length_map (f := Record.toOutline), toOutline_newRecords]

/-- A file that is reported by the first phase has no record. -/
theorem byPath?_of_failed (distinct : (files.map Path.components).Nodup)
    (reported : error ∈ failuresOf index.config.parser tree files) :
    (index.afterPhases tree files).byPath? error.path = none := by
  obtain ⟨path, member, failed⟩ := List.mem_filterMap.mp reported
  have exactly := builtFrom_afterPhases index tree distinct
  rw [FileError.path_of_ofResult? failed, byPath?, ← Option.map_eq_none_iff (f := Record.toOutline),
    Option.eq_none_iff_forall_ne_some]
  intro outline found
  obtain ⟨other, member', sameKey, outlined⟩ := (exactly.records _ _).mp found
  obtain rfl : other = path := List.inj_on_of_nodup_map distinct member' member sameKey
  rw [outlined] at failed
  cases failed

/-- A file that is reported by the second phase has a record, and that is the one which the
post-processor panicked on. -/
theorem byPath?_of_panicked (sound : built.Sound)
    (reported : error ∈ built.panicsOn built.allRecords) :
    ∃ record payload, built.byPath? error.path = some record ∧
      built.panicOn? record = some payload ∧ error = .ofPanic record.path payload := by
  obtain ⟨record, member, panicked⟩ := List.mem_filterMap.mp reported
  obtain ⟨payload, raised, rfl⟩ := Option.map_eq_some_iff.mp panicked
  exact ⟨record, payload, sound.holds_iff.mp (Tables.mem_sortedRecords.mp member), raised, rfl⟩

/-! ### Statistics of a build -/

theorem accounts_buildStats (index : Index) (tree : FileTree) (root : Path)
    (named : Entry.wellNamedList entries = true) :
    let found := discover index.config.exclusions root entries
    let after := index.afterPhases tree found.files
    (index.buildStats tree found).Accounts root entries
      (failuresOf index.config.parser tree found.files) (after.panicsOn after.allRecords)
      after := by
  intro found after
  have distinct := nodup_discover_files index.config.exclusions root named
  have report : index.buildStats tree found = after.withPanics (index.fileStats tree found) :=
    buildStats_eq index tree distinct
  rw [report]
  constructor
  case filesIndexed => exact (fileCount_afterPhases index tree distinct).symm
  case sources =>
    refine ⟨_, nodup_sources root named, fun path => mem_sources named, ?_⟩
    -- What was found is indexed or has failed, and the rest of the sources was left out.
    rw [← length_discover index.config.exclusions,
      ← length_outlinesOf_add index.config.parser tree]
    rfl
  case typesRegistered => exact (List.length_map Prod.fst).symm
  case referencesResolved => rfl
  case errors => rfl
  case failures_increasing =>
    exact failuresOf_increasing _ tree (discover_files_increasing _ root named)
  case failures_missing => exact fun error => byPath?_of_failed distinct
  case panics_increasing =>
    exact panicsOn_increasing _ (allRecords_increasing index tree distinct)
  case panics_indexed =>
    exact fun error => byPath?_of_panicked (Sound.afterPhases index tree distinct)

/-- The statistics of a build account for every source in the folders that are entered and for
all that was built. -/
theorem build_accounts (result : index.build tree root = (.ok stats, built)) :
    ∃ entries, tree.folderAt? root = some entries ∧
      let entered := index.reset.enterFiles tree
        (discover index.config.exclusions root entries).files
      let settled := entered.2.settleAll entered.2.tables.sortedRecords
      stats.Accounts root entries entered.1 settled.1.2 built := by
  obtain ⟨entries, folder, rfl, rfl⟩ := build_eq_ok.mp result
  have named := FileTree.wellNamed_folderAt? folder
  have accounts := accounts_buildStats index tree root named
  have panics := List.append_cancel_left accounts.errors
  refine ⟨entries, folder, ?_⟩
  dsimp only
  rw [enterFiles_fst, panics]
  exact accounts

/-- Below the folder are a file that is indexed, one that the post-processor panics on, one
that declares nothing, one that is left out for its name, and one in a folder that is not
entered. -/
theorem build_accounts_panicking :
    let sources : List Entry := [.file "A.java" "class A { B b; }".toUTF8,
      .file "B.java" "class B { A a; B b; }".toUTF8, .file "Empty.java" "package p;".toUTF8,
      .file "package-info.java" "package p;".toUTF8,
      .folder ".git" [.file "H.java" "class H {}".toUTF8]]
    let tree : FileTree := ⟨⟨"/"⟩, [.folder "src" sources], by decide⟩
    let config : Config := { postProcessor := some fun outline _ =>
      if outline.primary.name = "B" then some (.text "post failed") else none }
    let index : Index := ⟨config, 1, Tables.empty, #[], []⟩
    ∃ stats built, index.build tree ⟨"src"⟩ = (.ok stats, built) ∧
      stats.filesIndexed = 2 ∧ stats.filesSkipped = 1 ∧
      ∃ entries, tree.folderAt? ⟨"src"⟩ = some entries ∧
        let entered := index.reset.enterFiles tree (discover [] ⟨"src"⟩ entries).files
        let settled := entered.2.settleAll entered.2.tables.sortedRecords
        stats.Accounts ⟨"src"⟩ entries entered.1 settled.1.2 built := by
  intro sources tree config index
  have folder : tree.folderAt? ⟨"src"⟩ = some sources := FileTree.folderAt?_only tree.named
  have files : (discover config.exclusions ⟨"src"⟩ sources).files =
      [⟨"src/A.java"⟩, ⟨"src/B.java"⟩, ⟨"src/Empty.java"⟩] :=
    discover_files_of_pairwise (by decide +kernel) (by decide +kernel)
  have indexed : (outlinesOf config.parser tree
      (discover config.exclusions ⟨"src"⟩ sources).files).length = 2 := by
    rw [files]
    decide +kernel
  have skipped : (discover config.exclusions ⟨"src"⟩ sources).skipped = 1 := by
    rw [discover_skipped]
    decide +kernel
  have result := build_of_folder index folder
  exact ⟨_, _, result, indexed, skipped, build_accounts result⟩

end Index

end JavaIndex
