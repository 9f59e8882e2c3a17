import JavaIndex.Proofs.Discovery
import JavaIndex.Proofs.Interleaving
import JavaIndex.Proofs.Phases

/-!
# What a build leaves behind

A build of the sources below a folder says what those sources say and nothing
else, whatever the index held before: one record for each file whose outline can be
built, each declared name with the least file that declares it, each package with
the number of its files, and each record resolved against the complete tables.

## Main definitions

* `Tables.Describes`, `Index.BuiltFrom` — the tables, and the index, say what a list of files
  says
* `Tables.Alike`, `Index.Alike` — two of them say the same, up to the numbers of their records
* `Index.afterPhases`, `Index.buildStats` — what both phases over some files leave behind and
  report

## Main results

* `Tables.Describes.alike`, `Index.BuiltFrom.alike` — a list of files determines what the
  tables, and the index, say
* `Index.build_of_folder` — a build is both phases over the files found
* `Index.build_exact` — a build says what the files found say
* `Index.schedule_alike` — no schedule of the first phase says anything else
-/

namespace JavaIndex

/-! ### Records in order -/

namespace Tables

variable {tables : Tables} {record : Record}

theorem mem_sortedRecords : record ∈ tables.sortedRecords ↔ tables.Holds record := by
  rw [sortedRecords, sortRecords, List.mem_mergeSort, Cache.mem_values, Holds]

theorem nodup_sortedNumbers
    (filed : ∀ key record, tables.records.get? key = some record → record.key = key)
    (identified : ∀ record other, tables.Holds record → tables.Holds other →
      record.number = other.number → record = other) :
    (tables.sortedRecords.map Record.number).Nodup := by
  have reordered : tables.sortedRecords.Perm tables.records.values := List.mergeSort_perm _ _
  rw [(reordered.map Record.number).nodup_iff, Cache.values, List.map_map, List.Nodup,
    List.pairwise_map]
  have distinct := tables.records.distinct
  rw [List.Nodup, List.pairwise_map] at distinct
  refine distinct.imp_of_mem fun {entry entry'} inTable inTable' different same => ?_
  have found : tables.records.get? entry.1 = some entry.2 := Cache.mem_entries.mp inTable
  have found' : tables.records.get? entry'.1 = some entry'.2 := Cache.mem_entries.mp inTable'
  have equal := identified entry.2 entry'.2 ⟨_, found⟩ ⟨_, found'⟩ same
  exact different ((filed _ _ found).symm.trans (equal ▸ filed _ _ found'))

/-! ### Tables and a list of files -/

variable {left right : Tables} {parser : Parser} {tree : FileTree} {files : List Path}

/-- The tables say what a list of files says, and nothing else. -/
structure Describes (tables : Tables) (parser : Parser) (tree : FileTree) (files : List Path) :
    Prop where
  /-- A path has a record if it is that of a file whose outline can be built. -/
  records : ∀ key outline,
    (tables.records.get? key).map Record.toOutline = some outline ↔
      ∃ path ∈ files, path.components = key ∧ Outline.ofFile parser tree path = .ok outline
  /-- The names with an owner are those that a record declares. -/
  names : ∀ name, (∃ owner, tables.owners.get? name = some owner) ↔
    ∃ record, tables.Holds record ∧ record.declares name
  /-- The owner of a name is the least record that declares it. -/
  owners : ∀ name owner, tables.owners.get? name = some owner →
    LeastDeclaring tables.Holds name owner
  /-- Each package is counted once for each file in it. -/
  packages : ∀ package, tables.packages.get? package =
    countEntry ((outlinesOf parser tree files).countP fun outline =>
      outline.packageName == package)

/-- Two states of the tables say the same; only the numbers of their records may differ. -/
structure Alike (left right : Tables) : Prop where
  records : ∀ key, (left.records.get? key).map Record.toOutline =
    (right.records.get? key).map Record.toOutline
  owners : ∀ name, (left.owners.get? name).map Record.toOutline =
    (right.owners.get? name).map Record.toOutline
  packages : ∀ package, left.packages.get? package = right.packages.get? package

/-- Tables that say what some records say also say what the files of these records say. -/
theorem Tabulates.describes {records : List Record} (tabulates : tables.Tabulates records)
    (outlines : records.map Record.toOutline = outlinesOf parser tree files) :
    tables.Describes parser tree files := by
  have entered (outline : Outline) : (∃ record ∈ records, record.toOutline = outline) ↔
      ∃ path ∈ files, Outline.ofFile parser tree path = .ok outline := by
    rw [← List.mem_map, outlines, mem_outlinesOf]
  constructor
  case records =>
    intro key outline
    rw [Option.map_eq_some_iff]
    simp only [tabulates.filed]
    constructor
    · rintro ⟨record, ⟨member, spelled⟩, rfl⟩
      obtain ⟨path, found, built⟩ := (entered record.toOutline).mp ⟨record, member, rfl⟩
      exact ⟨path, found, Outline.path_ofFile built ▸ spelled, built⟩
    · rintro ⟨path, found, spelled, built⟩
      obtain ⟨record, member, rfl⟩ := (entered outline).mpr ⟨path, found, built⟩
      refine ⟨record, ⟨member, ?_⟩, rfl⟩
      rw [Record.key, Outline.path_ofFile built, spelled]
  case names =>
    intro name
    simp only [tabulates.names, tabulates.holds_iff]
  case owners =>
    intro name owner owned
    obtain ⟨member, declares, least⟩ := tabulates.owners name owner owned
    refine ⟨tabulates.holds_iff.mpr member, declares, fun other held => ?_⟩
    exact least other (tabulates.holds_iff.mp held)
  case packages =>
    intro package
    rw [tabulates.packages, ← outlines, List.countP_map]
    rfl

namespace Describes

theorem key_of_held (describes : tables.Describes parser tree files) {key : Path.Key}
    (found : tables.records.get? key = some record) : record.key = key := by
  obtain ⟨path, -, spelled, outlined⟩ :=
    (describes.records key record.toOutline).mp (by rw [found]; rfl)
  rw [Record.key, Outline.path_ofFile outlined, spelled]

/-- The order of the files does not matter. -/
theorem perm {others : List Path} (describes : tables.Describes parser tree files)
    (reordered : files.Perm others) : tables.Describes parser tree others where
  records key outline := by simp only [describes.records, reordered.mem_iff]
  names := describes.names
  owners := describes.owners
  packages package := by
    have outlines : (outlinesOf parser tree files).Perm (outlinesOf parser tree others) :=
      reordered.filterMap _
    rw [describes.packages, outlines.countP_eq]

/-- What one state holds, the other holds as well. -/
theorem holds_alike (first : left.Describes parser tree files)
    (second : right.Describes parser tree files) (held : left.Holds record) :
    ∃ other, right.Holds other ∧ other.toOutline = record.toOutline := by
  obtain ⟨key, found⟩ := held
  have file := (first.records key record.toOutline).mp (by rw [found]; rfl)
  obtain ⟨other, found', same⟩ := Option.map_eq_some_iff.mp ((second.records key _).mpr file)
  exact ⟨other, ⟨key, found'⟩, same⟩

theorem owner_alike (first : left.Describes parser tree files)
    (second : right.Describes parser tree files) {name : String} {owner : Record}
    (owned : left.owners.get? name = some owner) :
    ∃ other, right.owners.get? name = some other ∧ other.toOutline = owner.toOutline := by
  obtain ⟨held, declares, least⟩ := first.owners name owner owned
  obtain ⟨twin, twinHeld, twinSame⟩ := holds_alike first second held
  have twinDeclares : twin.declares name = true := twinSame ▸ declares
  obtain ⟨other, owned'⟩ := (second.names name).mpr ⟨twin, twinHeld, twinDeclares⟩
  obtain ⟨held', declares', least'⟩ := second.owners name other owned'
  obtain ⟨twin', twinHeld', twinSame'⟩ := holds_alike second first held'
  refine ⟨other, owned', ?_⟩
  -- Each owner lies before the record that stands for the other one, so their paths agree.
  have below : owner.path ≤ other.path := twinSame' ▸ least twin' twinHeld' (twinSame' ▸ declares')
  have above : other.path ≤ owner.path := twinSame ▸ least' twin twinHeld twinDeclares
  have onePath : owner.key = other.key := Path.components_eq_of_le_of_le below above
  obtain ⟨key, found⟩ := held
  obtain ⟨key', found'⟩ := twinHeld'
  have sameKey : key = key' := by
    rw [← first.key_of_held found, onePath, ← first.key_of_held found', Record.key, Record.key,
      twinSame']
  rw [← twinSame', Option.some.inj (found.symm.trans (sameKey ▸ found'))]

/-- A list of files determines what the tables say. -/
theorem alike (first : left.Describes parser tree files)
    (second : right.Describes parser tree files) : left.Alike right where
  records key := by
    ext outline
    rw [first.records, second.records]
  owners name := by
    cases owned : left.owners.get? name with
    | some owner =>
      obtain ⟨other, owned', same⟩ := owner_alike first second owned
      rw [owned', Option.map_some, Option.map_some, same]
    | none =>
      cases owned' : right.owners.get? name with
      | none => rfl
      | some other =>
        obtain ⟨owner, found, -⟩ := owner_alike second first owned'
        exact absurd (owned.symm.trans found) (by simp)
  packages package := by rw [first.packages, second.packages]

end Describes

/-- Tables that say the same know the same names. -/
theorem Alike.knows (alike : left.Alike right) : left.knows = right.knows := by
  funext name
  have owners := congrArg Option.isSome (alike.owners name)
  rwa [Option.isSome_map, Option.isSome_map] at owners

end Tables

namespace Index

variable {index left right built : Index} {parser : Parser} {tree : FileTree} {root : Path}
  {entries : List Entry} {files : List Path}

/-- The index says what a list of files says, and nothing else. -/
structure BuiltFrom (built : Index) (parser : Parser) (tree : FileTree) (files : List Path) :
    Prop extends describes : built.tables.Describes parser tree files where
  /-- Every record is resolved against these tables. -/
  used : ∀ record, built.tables.Holds record →
    built.usedBy? record = some (record.resolveWith built.known)

/-- Two indexes say the same; only the numbers of their records may differ. -/
structure Alike (left right : Index) : Prop extends tables : left.tables.Alike right.tables where
  used : ∀ key, (left.tables.records.get? key).map left.usedBy? =
    (right.tables.records.get? key).map right.usedBy?

/-! ### A list of files determines what the index says -/

theorem known_eq (alike : left.tables.Alike right.tables) : left.known = right.known := by
  rw [known, known, alike.knows]

/-- A list of files determines what the index says. -/
theorem BuiltFrom.alike (first : left.BuiltFrom parser tree files)
    (second : right.BuiltFrom parser tree files) : left.Alike right := by
  have tables := first.describes.alike second.describes
  refine ⟨tables, fun key => ?_⟩
  have same := tables.records key
  cases found : left.tables.records.get? key with
  | none =>
    rw [found, Option.map_none, eq_comm, Option.map_eq_none_iff] at same
    rw [same, Option.map_none, Option.map_none]
  | some record =>
    rw [found, Option.map_some, eq_comm, Option.map_eq_some_iff] at same
    obtain ⟨other, found', same⟩ := same
    rw [found', Option.map_some, Option.map_some, first.used record ⟨key, found⟩,
      second.used other ⟨key, found'⟩, same, known_eq tables]

/-! ### A build says what the files found say -/

/-- The records that the first phase enters into an index without files. -/
def newRecords (index : Index) (tree : FileTree) (files : List Path) : List Record :=
  numbered index.cells.size (outlinesOf index.config.parser tree files)

theorem toOutline_newRecords (index : Index) (tree : FileTree) (files : List Path) :
    (index.newRecords tree files).map Record.toOutline =
      outlinesOf index.config.parser tree files :=
  toOutline_numbered _ _

theorem exists_newRecord {outline : Outline} :
    (∃ record ∈ index.newRecords tree files, record.toOutline = outline) ↔
      ∃ path ∈ files, Outline.ofFile index.config.parser tree path = .ok outline := by
  rw [← List.mem_map, toOutline_newRecords, mem_outlinesOf]

theorem nodup_newRecords_keys (index : Index) (tree : FileTree)
    (distinct : (files.map Path.components).Nodup) :
    ((index.newRecords tree files).map Record.key).Nodup := by
  have keys : (index.newRecords tree files).map Record.key =
      ((outlinesOf index.config.parser tree files).map Outline.path).map Path.components := by
    rw [← toOutline_newRecords, List.map_map, List.map_map]
    rfl
  rw [keys]
  exact distinct.sublist ((paths_outlinesOf _ tree files).map _)

theorem newRecords_eq_of_number {record other : Record}
    (entered : record ∈ index.newRecords tree files)
    (entered' : other ∈ index.newRecords tree files) (same : record.number = other.number) :
    record = other := by
  have distinct : ((index.newRecords tree files).map Record.number).Nodup := by
    rw [newRecords, number_numbered]
    exact List.nodup_range'
  exact List.inj_on_of_nodup_map distinct entered entered' same

theorem number_of_newRecord {record : Record} (entered : record ∈ index.newRecords tree files) :
    index.cells.size ≤ record.number ∧
      record.number < index.cells.size + (index.newRecords tree files).length := by
  have among := List.mem_map_of_mem (f := Record.number) entered
  rw [newRecords, number_numbered, List.mem_range'_1] at among
  rwa [← List.length_map (f := Record.toOutline), toOutline_newRecords]

/-- The state after both phases over a list of files. -/
def afterPhases (index : Index) (tree : FileTree) (files : List Path) : Index :=
  let entered := (index.reset.enterFiles tree files).2
  (entered.settleAll entered.tables.sortedRecords).2

/-- What both phases over the files found have to report. -/
def buildStats (index : Index) (tree : FileTree) (found : Discovery) : Stats :=
  let entered := (index.reset.enterFiles tree found.files).2
  let settled := (entered.settleAll entered.tables.sortedRecords).1
  { filesIndexed := (outlinesOf index.config.parser tree found.files).length
    filesSkipped := found.skipped
    typesRegistered := entered.tables.owners.size
    referencesResolved := settled.1
    errors := failuresOf index.config.parser tree found.files ++ settled.2 }

theorem build_of_folder (index : Index) (folder : tree.folderAt? root = some entries) :
    index.build tree root =
      (.ok (index.buildStats tree (discover index.config.exclusions root entries)),
        index.afterPhases tree (discover index.config.exclusions root entries).files) := by
  have indexed := length_outlinesOf index.config.parser tree
    (discover index.config.exclusions root entries).files
  have failures := enterFiles_fst index.reset tree
    (discover index.config.exclusions root entries).files
  simp only [build, folder, buildStats, afterPhases, failures, settleAll_tables]
  rw [← indexed]
  rfl

theorem build_eq (index : Index) (folder : tree.folderAt? root = some entries) :
    ∃ stats, index.build tree root = (.ok stats,
      index.afterPhases tree (discover index.config.exclusions root entries).files) :=
  ⟨_, build_of_folder index folder⟩

/-- A build that succeeds has found its folder and gone through both phases. -/
theorem build_eq_ok {stats : Stats} : index.build tree root = (.ok stats, built) ↔
    ∃ entries, tree.folderAt? root = some entries ∧
      index.buildStats tree (discover index.config.exclusions root entries) = stats ∧
      index.afterPhases tree (discover index.config.exclusions root entries).files = built := by
  cases folder : tree.folderAt? root with
  | none => simp [build, folder]
  | some entries => simp [build_of_folder index folder]

theorem afterPhases_config (index : Index) (tree : FileTree) (files : List Path) :
    (index.afterPhases tree files).config = index.config := by
  rw [afterPhases, settleAll_config, enterFiles_snd, addOutlines_config]
  rfl

theorem afterPhases_tables (index : Index) (tree : FileTree) (files : List Path) :
    (index.afterPhases tree files).tables =
      (index.newRecords tree files).foldl Tables.insert Tables.empty := by
  rw [afterPhases, settleAll_tables, enterFiles_tables]
  rfl

theorem afterPhases_size (index : Index) (tree : FileTree) (files : List Path) :
    (index.afterPhases tree files).cells.size =
      index.cells.size + (index.newRecords tree files).length := by
  rw [afterPhases, settleAll_size, enterFiles_snd, addOutlines_cells, Array.size_append,
    Array.size_replicate, ← List.length_map (f := Record.toOutline), toOutline_newRecords]
  rfl

theorem tabulates_afterPhases (index : Index) (tree : FileTree)
    (distinct : (files.map Path.components).Nodup) :
    (index.afterPhases tree files).tables.Tabulates (index.newRecords tree files) := by
  rw [afterPhases_tables]
  exact (Tables.reflects_foldl_insert (nodup_newRecords_keys index tree distinct)).tabulates

/-- The second phase starts with records of different numbers whose cells are empty. -/
theorem fresh_sortedRecords (index : Index) (tree : FileTree)
    (distinct : (files.map Path.components).Nodup) :
    let entered := (index.reset.enterFiles tree files).2
    (entered.tables.sortedRecords.map Record.number).Nodup ∧
      ∀ record ∈ entered.tables.sortedRecords, entered.cells[record.number]? = some none := by
  intro entered
  have tabulates : entered.tables.Tabulates (index.newRecords tree files) := by
    have after := tabulates_afterPhases index tree distinct
    rwa [afterPhases, settleAll_tables] at after
  constructor
  · refine Tables.nodup_sortedNumbers (fun key record found => ?_) fun record other held held' => ?_
    · exact ((tabulates.filed key record).mp found).2
    · exact newRecords_eq_of_number (tabulates.holds_iff.mp held) (tabulates.holds_iff.mp held')
  · intro record listed
    exact enterFiles_cells index.reset tree files
      (tabulates.holds_iff.mp (Tables.mem_sortedRecords.mp listed))

theorem usedBy?_afterPhases {record : Record} (index : Index) (tree : FileTree)
    (distinct : (files.map Path.components).Nodup)
    (held : (index.afterPhases tree files).tables.Holds record) :
    (index.afterPhases tree files).usedBy? record =
      some (record.resolveWith (index.afterPhases tree files).known) := by
  obtain ⟨numbers, fresh⟩ := fresh_sortedRecords index tree distinct
  rw [afterPhases, settleAll_tables, ← Tables.mem_sortedRecords] at held
  have sameKnown : (index.afterPhases tree files).known =
      (index.reset.enterFiles tree files).2.known := by
    rw [known, known, afterPhases, settleAll_tables]
  rw [sameKnown]
  exact usedBy?_settleAll _ held numbers (fresh record held)

theorem builtFrom_afterPhases (index : Index) (tree : FileTree)
    (distinct : (files.map Path.components).Nodup) :
    (index.afterPhases tree files).BuiltFrom index.config.parser tree files :=
  ⟨(tabulates_afterPhases index tree distinct).describes (toOutline_newRecords index tree files),
    fun _ => usedBy?_afterPhases index tree distinct⟩

/-- A build of an existing folder succeeds, whatever the index held before, and leaves an
index that says what the files found say and nothing else. So it does not depend on what
the index held, and building once more changes nothing. -/
theorem build_exact (index : Index) (tree : FileTree) (root : Path) (entries : List Entry)
    (folder : tree.folderAt? root = some entries) :
    ∃ stats built, index.build tree root = (.ok stats, built) ∧
      built.BuiltFrom index.config.parser tree
        (discover index.config.exclusions root entries).files ∧
      (∀ other : Index, other.config = index.config → (other.build tree root).2.Alike built) ∧
      (built.build tree root).2.Alike built := by
  have distinct := nodup_discover_files index.config.exclusions root
    (FileTree.wellNamed_folderAt? folder)
  obtain ⟨stats, result⟩ := build_eq index folder
  have exactly := builtFrom_afterPhases index tree distinct
  have alike (other : Index) (config : other.config = index.config) :
      (other.build tree root).2.Alike
        (index.afterPhases tree (discover index.config.exclusions root entries).files) := by
    obtain ⟨stats', result'⟩ := build_eq other folder
    rw [result', config]
    have exactly' := builtFrom_afterPhases other tree (config ▸ distinct)
    rw [config] at exactly'
    exact exactly'.alike exactly
  exact ⟨stats, _, result, exactly, alike, alike _ (afterPhases_config index tree _)⟩

/-- Two files that declare one type, found below a folder by an index that has held
another file before. -/
theorem build_exact_twins :
    let sources : List Entry := [.folder "b" [.file "T.java" "class T \x7b\x7d".toUTF8],
      .folder "a" [.file "T.java" "class T \x7b\x7d".toUTF8]]
    let tree : FileTree := ⟨⟨"/"⟩, [.folder "src" sources], by decide⟩
    let index : Index := (Index.mk {} 1 Tables.empty #[] []).addRecord
      (Progress.plainRecord "src/c/Old.java" "p" "Old" 0)
    ∃ stats built, index.build tree ⟨"src"⟩ = (.ok stats, built) ∧
      built.BuiltFrom index.config.parser tree
        (discover index.config.exclusions ⟨"src"⟩ sources).files ∧
      (∀ other : Index, other.config = index.config → (other.build tree ⟨"src"⟩).2.Alike built) ∧
      (built.build tree ⟨"src"⟩).2.Alike built := by
  intro sources tree index
  have folder : tree.folderAt? ⟨"src"⟩ = some sources := FileTree.folderAt?_only tree.named
  exact build_exact index tree ⟨"src"⟩ sources folder

/-- The first phase may write its records in any schedule: whenever it has finished, the tables
say what those of the build say. -/
theorem schedule_alike (index : Index) (folder : tree.folderAt? root = some entries)
    {progress : Progress} (finished : progress.Finished)
    (run : Relation.ReflTransGen Progress.Step (Progress.start
      (index.newRecords tree (discover index.config.exclusions root entries).files)) progress) :
    progress.tables.Alike (index.build tree root).2.tables := by
  have distinct := nodup_discover_files index.config.exclusions root
    (FileTree.wellNamed_folderAt? folder)
  have scheduled := Progress.tabulates_of_finished (nodup_newRecords_keys index tree distinct) run
    finished
  obtain ⟨stats, result⟩ := build_eq index folder
  rw [result]
  exact (scheduled.describes (toOutline_newRecords index tree _)).alike
    (builtFrom_afterPhases index tree distinct).describes

end Index

end JavaIndex
