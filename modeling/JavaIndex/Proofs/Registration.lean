import JavaIndex.Proofs.Orphans

/-!
# Files registered one by one

An index can also be made file by file: each file is entered in place of its earlier
record and resolved against the index of that moment. One round over the files that a
build would find, in any order, leaves the tables of the build; a file that is resolved
early may still miss names of files that come later. A second round repairs that.

In the second round each file goes out of the tables and comes back with the same
outline. Its names go with it, but it claims them again before anything is resolved, so
what the tables say is the same before and after each step (`Sound.describes_enter`).

## Main definitions

* `Index.registerAll` — files registered one after the other, with the failures
* `Index.Refreshed` — the tables describe the files, and some records are resolved against them

## Main results

* `Index.registerAll_fst` — registration fails on the files that the first phase reports
* `Index.registerAll_tables` — one round enters the outlines that can be built
* `Index.Refreshed.registerAll` — another round resolves every record anew
* `Index.registerAll_alike` — one round and two rounds compared with a build
-/

namespace JavaIndex

/-! ### Package counts -/

namespace Tables

variable {tables : Tables} {record : Record} {package asked : String}

theorem packages_release (record : Record) (tables : Tables) (name : String) :
    (release record tables name).packages = tables.packages := by
  unfold release
  split_ifs <;> rfl

theorem packages_foldl_release (record : Record) (tables : Tables) (names : List String) :
    (names.foldl (release record) tables).packages = tables.packages := by
  induction names generalizing tables with
  | nil => rfl
  | cons name rest ih => rw [List.foldl_cons, ih, packages_release]

theorem packages_removePackage (tables : Tables) (package asked : String) :
    (tables.removePackage package).packages.get? asked =
      if asked = package then countEntry (tables.usage package - 1)
      else tables.packages.get? asked := by
  unfold removePackage usage
  cases counted : tables.packages.get? package with
  | none =>
    by_cases same : asked = package
    · simp [same, counted, countEntry]
    · simp [same]
  | some count =>
    by_cases last : count - 1 = 0
    · simp [last, Cache.get?_erase, countEntry]
    · simp [last, Cache.get?_insert, countEntry]

theorem packages_withdraw (tables : Tables) (record : Record) (asked : String) :
    (tables.withdraw record).packages.get? asked =
      if asked = record.packageName then countEntry (tables.usage record.packageName - 1)
      else tables.packages.get? asked := by
  rw [withdraw, packages_removePackage, usage, packages_foldl_release]
  rfl

end Tables

namespace Index

variable {index after : Index} {parser : Parser} {tree : FileTree} {root path : Path}
  {entries : List Entry} {exclusions : List Exclusion} {files order : List Path}
  {record other : Record} {outline : Outline} {failure : Failure Error}

/-! ### Registering one file -/

theorem refusal?_eq_none_iff : index.refusal? path = none ↔
    path.isSourceFile = true ∧ skipReason? index.config.exclusions path = none := by
  unfold refusal?
  cases isSource : path.isSourceFile with
  | false => simp
  | true => simp

/-- Every file found can be registered. -/
theorem refusal?_of_found (config : index.config.exclusions = exclusions)
    (found : path ∈ (discover exclusions root entries).files) : index.refusal? path = none := by
  rw [discover_files, (perm_sortPaths _).mem_iff, List.mem_filter, List.mem_filter,
    Option.isNone_iff_eq_none] at found
  rw [refusal?_eq_none_iff, config]
  exact ⟨found.1.2, found.2⟩

/-- A file that can be registered is passed over with its failure, or entered. -/
theorem registerFile_cases (index : Index) (tree : FileTree)
    (accepted : index.refusal? path = none) :
    (∃ failure, Outline.ofFile index.config.parser tree path = .error failure ∧
        index.registerFile tree path = (.error failure, index)) ∨
      ∃ outline after, Outline.ofFile index.config.parser tree path = .ok outline ∧
        index.registerFile tree path = (.ok (index.nextRecord outline), after) ∧
        index.Registers (index.nextRecord outline) after := by
  rcases register_outcome index path (Outline.ofFile index.config.parser tree path) with
    ⟨error, refused, -⟩ | ⟨-, failed | ⟨outline, built, result⟩⟩
  · rw [accepted] at refused
    cases refused
  · exact .inl failed
  · obtain ⟨source, -, parsed⟩ := Outline.ofFile_eq_ok.mp built
    exact .inr ⟨outline, _, built, result, rfl, ⟨path, source, parsed⟩, rfl⟩

theorem cells_enter (index : Index) (record : Record) :
    (index.enter record).cells = index.cells.push none := by
  unfold enter addRecord makeRoom
  split <;> rfl

theorem config_enter (index : Index) (record : Record) :
    (index.enter record).config = index.config := by
  unfold enter addRecord makeRoom
  split <;> rfl

namespace Registers

theorem tables (registers : index.Registers record after) :
    after.tables = (index.enter record).tables := by
  rw [registers.result, settle_tables]

theorem config (registers : index.Registers record after) : after.config = index.config := by
  rw [registers.result, settle_config, config_enter]

/-- What could be registered before can be registered afterwards. -/
theorem accepted (registers : index.Registers record after)
    (before : ∀ path ∈ files, index.refusal? path = none) :
    ∀ path ∈ files, after.refusal? path = none := by
  intro path member
  rw [← before path member, refusal?, refusal?, registers.config]

theorem size (registers : index.Registers record after) :
    after.cells.size = index.cells.size + 1 := by
  rw [registers.result, settle_size, size_enter]

/-- A registered record is resolved against the tables that it is part of. -/
theorem usedBy?_self (registers : index.Registers record after) :
    after.usedBy? record = some (record.resolveWith after.known) := by
  have fresh : (index.enter record).cells[record.number]? = some none := by
    rw [cells_enter, registers.number]
    exact Array.getElem?_push_size
  have known : after.known = (index.enter record).known := by
    rw [registers.result, known_settle]
  rw [known, usedBy?, registers.result, settle_cells, if_pos ⟨rfl, fresh⟩]
  rfl

/-- A registration leaves the types that earlier records use alone. -/
theorem usedBy?_of_lt (registers : index.Registers record after)
    (earlier : other.number < index.cells.size) : after.usedBy? other = index.usedBy? other := by
  have differs : other.number ≠ record.number := by
    rw [registers.number]
    exact earlier.ne
  rw [usedBy?, registers.result, settle_cells, if_neg (fun both => differs both.1), cells_enter,
    Array.getElem?_push_lt earlier, usedBy?, Array.getElem?_eq_getElem earlier]

/-- A registration changes what is filed under its path alone. -/
theorem byPath?_eq (registers : index.Registers record after) (sound : index.Sound) (path : Path) :
    after.byPath? path =
      if path.components = record.path.components then some record else index.byPath? path := by
  rw [byPath?, registers.tables, sound.records_enter]
  rfl

end Registers

/-! ### Registering one file after the other -/

/-- Registers files one after the other, whatever becomes of each; the failures in order. -/
def registerAll (index : Index) (tree : FileTree) : List Path → List FileError × Index
  | [] => ([], index)
  | path :: rest =>
    let later := (index.registerFile tree path).2.registerAll tree rest
    ((FileError.ofResult? path (index.registerFile tree path).1).toList ++ later.1, later.2)

theorem registerAll_of_error {rest : List Path}
    (failed : index.registerFile tree path = (.error failure, after)) :
    index.registerAll tree (path :: rest) =
      (FileError.ofFailure path failure :: (after.registerAll tree rest).1,
        (after.registerAll tree rest).2) := by
  rw [registerAll, failed]
  rfl

theorem registerAll_of_ok {rest : List Path}
    (entered : index.registerFile tree path = (.ok record, after)) :
    index.registerAll tree (path :: rest) = after.registerAll tree rest := by
  rw [registerAll, entered]
  rfl

theorem registerAll_snd (index : Index) (tree : FileTree) (files : List Path) :
    (index.registerAll tree files).2 = index.run (files.map (.registerFile tree)) := by
  induction files generalizing index with
  | nil => rfl
  | cons path rest ih => exact ih (index.registerFile tree path).2

/-- Registration fails on the files whose outlines cannot be built. -/
theorem registerAll_fst (index : Index) (tree : FileTree)
    (accepted : ∀ path ∈ files, index.refusal? path = none) :
    (index.registerAll tree files).1 = failuresOf index.config.parser tree files := by
  induction files generalizing index with
  | nil => rfl
  | cons path rest ih =>
    obtain ⟨first, later⟩ := List.forall_mem_cons.mp accepted
    rw [failuresOf, List.filterMap_cons]
    rcases registerFile_cases index tree first with
      ⟨failure, failed, result⟩ | ⟨outline, after, built, result, registers⟩
    · rw [registerAll_of_error result, failed]
      exact congrArg (_ :: ·) (ih index later)
    · rw [registerAll_of_ok result, built, ih after (registers.accepted later), registers.config]
      rfl

/-- Files that are not on record are entered with consecutive numbers. -/
theorem registerAll_tables (index : Index) (tree : FileTree)
    (accepted : ∀ path ∈ files, index.refusal? path = none)
    (distinct : (files.map Path.components).Nodup)
    (absent : ∀ path ∈ files, index.tables.records.get? path.components = none) :
    (index.registerAll tree files).2.tables =
      (numbered index.cells.size (outlinesOf index.config.parser tree files)).foldl
        Tables.insert index.tables := by
  induction files generalizing index with
  | nil => rfl
  | cons path rest ih =>
    obtain ⟨first, later⟩ := List.forall_mem_cons.mp accepted
    obtain ⟨notLater, distinct⟩ := List.nodup_cons.mp distinct
    obtain ⟨firstAbsent, laterAbsent⟩ := List.forall_mem_cons.mp absent
    rw [outlinesOf, List.filterMap_cons]
    rcases registerFile_cases index tree first with
      ⟨failure, failed, result⟩ | ⟨outline, after, built, result, registers⟩
    · rw [registerAll_of_error result, failed]
      exact ih index later distinct laterAbsent
    · have key : (index.nextRecord outline).key = path.components :=
        congrArg Path.components (Outline.path_ofFile built)
      have tables : after.tables = index.tables.insert (index.nextRecord outline) := by
        rw [registers.tables, enter_tables, key, makeRoom, firstAbsent]
      have absent' : ∀ path ∈ rest, after.tables.records.get? path.components = none := by
        intro other member
        have differs : other.components ≠ path.components :=
          fun same => notLater (same ▸ List.mem_map_of_mem member)
        rw [tables, Tables.records_insert, key, if_neg differs]
        exact laterAbsent other member
      rw [registerAll_of_ok result, built, ih after (registers.accepted later) distinct absent',
        registers.config, registers.size, tables]
      rfl

/-! ### Entering a file again -/

theorem ownedSince_of_describes (describes : index.tables.Describes parser tree files)
    (name : String) : index.OwnedSince 0 name where
  owned record held _ declares := (describes.names name).mpr ⟨record, held, declares⟩
  least owner owned := by
    obtain ⟨held, declares, least⟩ := describes.owners name owner owned
    exact ⟨⟨held, Nat.zero_le _⟩, declares, fun other among => least other among.1⟩

/-- The package of a file on record is in use. -/
theorem counted_of_describes (describes : index.tables.Describes parser tree files)
    (found : path ∈ files) (built : Outline.ofFile parser tree path = .ok outline) :
    ∃ count, index.tables.packages.get? outline.packageName = some (count + 1) := by
  have positive : 0 < (outlinesOf parser tree files).countP fun other =>
      other.packageName == outline.packageName :=
    List.countP_pos_iff.mpr ⟨outline, mem_outlinesOf.mpr ⟨path, found, built⟩, beq_self_eq_true _⟩
  obtain ⟨count, counted⟩ := Nat.exists_eq_add_one_of_ne_zero positive.ne'
  exact ⟨count, by rw [describes.packages, counted]; rfl⟩

theorem packages_enter_again {previous : Record} {count : Nat}
    (filed : index.tables.records.get? record.key = some previous)
    (same : previous.packageName = record.packageName)
    (counted : index.tables.packages.get? record.packageName = some (count + 1)) (asked : String) :
    (index.enter record).tables.packages.get? asked = index.tables.packages.get? asked := by
  have room : (index.makeRoom record.key).tables = index.tables.withdraw previous := by
    rw [makeRoom, filed]
  have usage : index.tables.usage record.packageName = count + 1 := by
    rw [Tables.usage, counted]
    rfl
  have less : (index.tables.withdraw previous).usage record.packageName = count := by
    rw [Tables.usage, Tables.packages_withdraw, same, if_pos rfl, getD_countEntry, usage]
    rfl
  rw [enter_tables, room, Tables.packages_insert, less]
  by_cases here : asked = record.packageName
  · rw [if_pos here, here, counted]
  · rw [if_neg here, Tables.packages_withdraw, same, if_neg here]

/-- A file that is entered again as it was leaves what the tables say as it was. -/
theorem Sound.describes_enter (sound : index.Sound)
    (describes : index.tables.Describes parser tree files) (found : path ∈ files)
    (built : Outline.ofFile parser tree path = .ok record.toOutline) :
    (index.enter record).tables.Describes parser tree files := by
  have key : record.key = path.components := congrArg Path.components (Outline.path_ofFile built)
  obtain ⟨previous, filed, same⟩ := Option.map_eq_some_iff.mp
    ((describes.records record.key record.toOutline).mpr ⟨path, found, key.symm, built⟩)
  have ownedSince (name : String) : (index.enter record).OwnedSince 0 name := by
    have before : index.OwnedSince 0 name := ownedSince_of_describes describes name
    cases declares : record.declares name with
    | true => exact before.enter_declaring sound (Nat.zero_le _) declares
    | false =>
      refine before.enter_undeclared sound declares ?_
      intro owner other owned _ _ _ sameKey
      have isPrevious : owner = previous :=
        sound.eq_of_key (sound.holds_owner owned) ⟨record.key, filed⟩
          (sameKey.trans (sound.filed _ _ filed).symm)
      have ownerDeclares := sound.justified name owner owned
      rw [isPrevious, same, declares] at ownerDeclares
      cases ownerDeclares
  constructor
  case records =>
    intro asked outline
    rw [← describes.records, sound.records_enter]
    split_ifs with here
    · rw [here, filed, Option.map_some, Option.map_some, same]
    · rfl
  case names =>
    intro name
    constructor
    · rintro ⟨owner, owned⟩
      have least := (ownedSince name).least owner owned
      exact ⟨owner, least.member.1, least.declares⟩
    · rintro ⟨holder, held, declares⟩
      exact (ownedSince name).owned holder held (Nat.zero_le _) declares
  case owners =>
    intro name owner owned
    obtain ⟨⟨held, -⟩, declares, least⟩ := (ownedSince name).least owner owned
    exact ⟨held, declares, fun other held' => least other ⟨held', Nat.zero_le _⟩⟩
  case packages =>
    intro asked
    obtain ⟨count, counted⟩ := counted_of_describes describes found built
    have samePackage : previous.packageName = record.packageName :=
      congrArg Outline.packageName same
    rw [packages_enter_again filed samePackage counted, describes.packages]

/-- The tables describe the files, and the records of some of them are resolved against
these tables. -/
structure Refreshed (index : Index) (tree : FileTree) (files done : List Path) : Prop where
  sound : index.Sound
  describes : index.tables.Describes index.config.parser tree files
  used : ∀ record, index.tables.Holds record → record.key ∈ done.map Path.components →
    index.usedBy? record = some (record.resolveWith index.known)

namespace Refreshed

variable {done : List Path}

/-- Once more for one of the files: its own record is resolved anew, the others stay. -/
theorem registers (refreshed : index.Refreshed tree files done) (found : path ∈ files)
    (built : Outline.ofFile index.config.parser tree path = .ok record.toOutline)
    (registers : index.Registers record after) : after.Refreshed tree files (path :: done) := by
  have describes : after.tables.Describes index.config.parser tree files := by
    rw [registers.tables]
    exact refreshed.sound.describes_enter refreshed.describes found built
  have known : after.known = index.known := known_eq (describes.alike refreshed.describes)
  have key : record.key = path.components := congrArg Path.components (Outline.path_ofFile built)
  refine ⟨refreshed.sound.registers registers, registers.config ▸ describes, ?_⟩
  intro other held isDone
  rw [registers.tables, refreshed.sound.holds_enter] at held
  rcases held with rfl | ⟨before, differs⟩
  · exact registers.usedBy?_self
  · -- No name is lost or won on the way, so the other records need not be asked again.
    have earlier : other.key ∈ done.map Path.components := by
      rw [List.map_cons, List.mem_cons, ← key] at isDone
      exact isDone.resolve_left differs
    rw [registers.usedBy?_of_lt (refreshed.sound.numbered other before),
      refreshed.used other before earlier, known]

/-- A file without an outline has no record that would have to be resolved. -/
theorem of_failed (refreshed : index.Refreshed tree files done)
    (distinct : (files.map Path.components).Nodup) (found : path ∈ files)
    (failed : Outline.ofFile index.config.parser tree path = .error failure) :
    index.Refreshed tree files (path :: done) := by
  refine ⟨refreshed.sound, refreshed.describes, fun record held isDone => ?_⟩
  rw [List.map_cons, List.mem_cons] at isDone
  refine refreshed.used record held (isDone.resolve_left fun same => ?_)
  obtain ⟨key, filed⟩ := held
  obtain ⟨other, member, spelled, built⟩ :=
    (refreshed.describes.records key record.toOutline).mp (by rw [filed]; rfl)
  have samePath : other.components = path.components := by
    rw [spelled, ← refreshed.sound.filed key record filed, same]
  rw [List.inj_on_of_nodup_map distinct member found samePath, failed] at built
  cases built

/-- Once more for several of the files, in any order. -/
theorem registerAll (refreshed : index.Refreshed tree files done)
    (accepted : ∀ path ∈ files, index.refusal? path = none)
    (distinct : (files.map Path.components).Nodup) (among : order ⊆ files) :
    (index.registerAll tree order).2.Refreshed tree files (order.reverse ++ done) := by
  induction order generalizing index done with
  | nil => exact refreshed
  | cons path rest ih =>
    obtain ⟨found, later⟩ := List.cons_subset.mp among
    rw [List.reverse_cons, List.append_assoc, List.singleton_append]
    rcases registerFile_cases index tree (accepted path found) with
      ⟨failure, failed, result⟩ | ⟨outline, after, built, result, registers⟩
    · rw [registerAll_of_error result]
      exact ih (refreshed.of_failed distinct found failed) accepted later
    · rw [registerAll_of_ok result]
      exact ih (refreshed.registers found built registers) (registers.accepted accepted) later

end Refreshed

/-! ### One round and two rounds -/

theorem config_of_create {config : Config} {cores : Nat}
    (created : create config cores = .ok index) : index.config = config := by
  obtain ⟨workers, -, rfl⟩ := create_eq_ok.mp created
  rfl

theorem config_registerAll (index : Index) (tree : FileTree)
    (accepted : ∀ path ∈ files, index.refusal? path = none) :
    (index.registerAll tree files).2.config = index.config := by
  induction files generalizing index with
  | nil => rfl
  | cons path rest ih =>
    obtain ⟨first, later⟩ := List.forall_mem_cons.mp accepted
    rcases registerFile_cases index tree first with
      ⟨failure, -, result⟩ | ⟨outline, after, -, result, registers⟩
    · rw [registerAll_of_error result]
      exact ih index later
    · rw [registerAll_of_ok result, ih after (registers.accepted later), registers.config]

/-- One round over files leaves tables that describe them, whatever their order. -/
theorem refreshed_of_empty (index : Index) (tree : FileTree)
    (nothing : index.tables = Tables.empty)
    (accepted : ∀ path ∈ order, index.refusal? path = none)
    (distinct : (files.map Path.components).Nodup) (reordered : order.Perm files) :
    (index.registerAll tree order).2.Refreshed tree files [] := by
  have distinct' : (order.map Path.components).Nodup :=
    (reordered.map Path.components).nodup_iff.mpr distinct
  have tables : (index.registerAll tree order).2.tables =
      (index.newRecords tree order).foldl Tables.insert Tables.empty := by
    rw [registerAll_tables index tree accepted distinct' (by simp [nothing]), nothing]
    rfl
  have tabulates : (index.registerAll tree order).2.tables.Tabulates
      (index.newRecords tree order) := by
    rw [tables]
    exact (Tables.reflects_foldl_insert (nodup_newRecords_keys index tree distinct')).tabulates
  refine ⟨?_, ?_, by simp⟩
  · rw [registerAll_snd]
    exact (Sound.of_empty nothing).run _
  · rw [config_registerAll index tree accepted]
    exact (tabulates.describes (toOutline_newRecords index tree order)).perm reordered

theorem Refreshed.builtFrom {done : List Path} (refreshed : index.Refreshed tree files done)
    (complete : files ⊆ done) : index.BuiltFrom index.config.parser tree files := by
  refine ⟨refreshed.describes, fun record held => refreshed.used record held ?_⟩
  obtain ⟨key, filed⟩ := held
  obtain ⟨path, member, spelled, -⟩ :=
    (refreshed.describes.records key record.toOutline).mp (by rw [filed]; rfl)
  rw [refreshed.sound.filed key record filed, ← spelled]
  exact List.mem_map_of_mem (complete member)

/-- The files that a build finds can also be registered one by one, in any order. One round
leaves the tables of the build, and it fails on the files that the first phase of the build
reports, with what the build reports of them. After a second round, in any order again,
each record uses the same types as after the build. -/
theorem registerAll_alike {config : Config} {cores : Nat} {start : Index} (prior : Index)
    (first second : List Path) (created : create config cores = .ok start)
    (sameConfig : prior.config = config) (folder : tree.folderAt? root = some entries)
    (firstOrder : first.Perm (discover config.exclusions root entries).files)
    (secondOrder : second.Perm (discover config.exclusions root entries).files) :
    let entered := prior.reset.enterFiles tree (discover config.exclusions root entries).files
    let once := start.registerAll tree first
    ∃ stats built, prior.build tree root = (.ok stats, built) ∧
      stats.errors = entered.1 ++ (entered.2.settleAll entered.2.tables.sortedRecords).1.2 ∧
      once.1.Perm entered.1 ∧
      once.2.tables.Alike built.tables ∧
      (once.2.registerAll tree second).2.Alike built := by
  intro entered once
  subst sameConfig
  have startConfig := config_of_create created
  have distinct := nodup_discover_files prior.config.exclusions root
    (FileTree.wellNamed_folderAt? folder)
  have accepted : ∀ path ∈ first, start.refusal? path = none := fun path member =>
    refusal?_of_found (by rw [startConfig]) (firstOrder.mem_iff.mp member)
  have onceConfig : once.2.config = prior.config :=
    (config_registerAll start tree accepted).trans startConfig
  have acceptedAgain : ∀ path ∈ (discover prior.config.exclusions root entries).files,
      once.2.refusal? path = none := fun path => refusal?_of_found (by rw [onceConfig])
  have failures : entered.1 = failuresOf prior.config.parser tree
      (discover prior.config.exclusions root entries).files := enterFiles_fst _ _ _
  have batch := builtFrom_afterPhases prior tree distinct
  have refreshed := refreshed_of_empty start tree (tables_of_create created) accepted distinct
    firstOrder
  have again := refreshed.registerAll acceptedAgain distinct secondOrder.subset
  have twice := again.builtFrom (by simpa using secondOrder.symm.subset)
  have twiceConfig : (once.2.registerAll tree second).2.config = prior.config :=
    (config_registerAll once.2 tree fun path member =>
      acceptedAgain path (secondOrder.mem_iff.mp member)).trans onceConfig
  refine ⟨_, _, build_of_folder prior folder, ?_, ?_, ?_, ?_⟩
  · rw [failures]
    rfl
  · rw [failures, registerAll_fst start tree accepted, startConfig]
    exact firstOrder.filterMap _
  · exact (onceConfig ▸ refreshed.describes).alike batch.describes
  · exact (twiceConfig ▸ twice).alike batch

/-- A file that finds a type in a package that comes later, and a file without types:
registered in the order of their paths and then once more from behind. -/
theorem registerAll_alike_star :
    let sources : List Entry :=
      [.folder "a" [.file "A.java" "package a; import b.*; class A \x7b B b; \x7d".toUTF8],
        .folder "b" [.file "B.java" "package b; class B \x7b\x7d".toUTF8,
          .file "C.java" "package b;".toUTF8]]
    let tree : FileTree := ⟨⟨"/"⟩, [.folder "src" sources], by decide⟩
    let config : Config := {}
    let start : Index := ⟨config, 1, Tables.empty, #[], []⟩
    let files := (discover config.exclusions ⟨"src"⟩ sources).files
    let entered := start.reset.enterFiles tree files
    let once := start.registerAll tree files
    ∃ stats built, start.build tree ⟨"src"⟩ = (.ok stats, built) ∧
      stats.errors = entered.1 ++ (entered.2.settleAll entered.2.tables.sortedRecords).1.2 ∧
      once.1.Perm entered.1 ∧
      once.2.tables.Alike built.tables ∧
      (once.2.registerAll tree files.reverse).2.Alike built := by
  intro sources tree config start files
  have folder : tree.folderAt? ⟨"src"⟩ = some sources := FileTree.folderAt?_only tree.named
  have created : create config 1 = .ok start := rfl
  exact registerAll_alike start files files.reverse created rfl folder (.refl _)
    (List.reverse_perm _)

end Index

end JavaIndex
