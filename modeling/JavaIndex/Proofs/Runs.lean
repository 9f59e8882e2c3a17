import JavaIndex.Index.Queries
import JavaIndex.Proofs.Build

/-!
# Runs of an index

An index starts without files and goes through builds, registrations and changes of
the package counts in any order, each against the files as they are at that time.
There are three things an operation can do: enter one record in place of the one
under its path, rebuild everything from a list of files, or leave all records and
names where they are. Every invariant of a run is proved against these three.

The invariant here is `Index.Sound`: whatever answers for a name is a record on
file that declares it. It needs the identity of records, since a record is taken out
by its number.

## Main definitions

* `Operation`, `Index.perform`, `Index.run` — one change of an index, and many
* `Index.Reachable` — the indexes that come about
* `Index.Sound` — the owners of names are records on file

## Main results

* `Index.perform_cases` — the three things an operation can do
* `Index.Sound.perform`, `Index.Sound.of_reachable` — every run is sound
* `Index.reachable_live` — no lookup returns a record that was replaced or cleared
-/

namespace JavaIndex

/-- A change of an index. Operations that read files bring the files along. -/
inductive Operation where
  | build (tree : FileTree) (root : Path)
  | registerFile (tree : FileTree) (path : Path)
  | registerSource (path : Path) (source : String)
  | addPackage (package : String)
  | removePackage (package : String)

namespace Index

variable {index after : Index} {operation : Operation} {record previous : Record} {name : String}
  {key : Path.Key}

/-- The index after an operation, whether it succeeds or fails. -/
def perform (index : Index) : Operation → Index
  | .build tree root => (index.build tree root).2
  | .registerFile tree path => (index.registerFile tree path).2
  | .registerSource path source => (index.registerSource path source).2
  | .addPackage package => index.addPackage package
  | .removePackage package => index.removePackage package

/-- The index after several operations. -/
def run (index : Index) (operations : List Operation) : Index :=
  operations.foldl perform index

/-- The index comes about from one without files. -/
def Reachable (index : Index) : Prop :=
  ∃ config cores start operations,
    create config cores = .ok start ∧ start.run operations = index

/-- The record that an operation registers, if it is a registration that succeeds. -/
def registered? (index : Index) : Operation → Option Record
  | .registerFile tree path => (index.registerFile tree path).1.toOption
  | .registerSource path source => (index.registerSource path source).1.toOption
  | _ => none

@[simp] theorem run_nil (index : Index) : index.run [] = index := rfl

@[simp] theorem run_cons (index : Index) (operation : Operation) (rest : List Operation) :
    index.run (operation :: rest) = (index.perform operation).run rest := rfl

theorem run_append (index : Index) (done rest : List Operation) :
    index.run (done ++ rest) = (index.run done).run rest :=
  List.foldl_append

theorem create_eq_ok {config : Config} {cores : Nat} : create config cores = .ok index ↔
    ∃ workers, config.workers cores = .ok workers ∧
      ⟨config, workers, Tables.empty, #[], []⟩ = index := by
  unfold create
  cases config.workers cores with
  | error error => simp [Except.map]
  | ok workers => simp [Except.map]

theorem tables_of_create {config : Config} {cores : Nat}
    (created : create config cores = .ok index) : index.tables = Tables.empty := by
  obtain ⟨workers, -, rfl⟩ := create_eq_ok.mp created
  rfl

/-! ### What an operation can do -/

/-- The index has a new record in place of the one under its path. -/
structure Registers (index : Index) (record : Record) (after : Index) : Prop where
  number : record.number = index.cells.size
  built : ∃ path source, Outline.ofSource index.config.parser path source = .ok record.toOutline
  result : after = ((index.enter record).settle record).2

/-- Records, names and cells are where they were. -/
structure Keeps (index after : Index) : Prop where
  records : after.tables.records = index.tables.records
  owners : after.tables.owners = index.tables.owners
  cells : after.cells = index.cells

theorem Keeps.of_eq (unchanged : after = index) : index.Keeps after :=
  unchanged ▸ ⟨rfl, rfl, rfl⟩

/-- A registration is refused, lacks an outline, or enters a new record and resolves it. -/
theorem register_outcome (index : Index) (path : Path) (build : Except (Failure Error) Outline) :
    (∃ error, index.refusal? path = some error ∧
        index.register path build = (.error (.error error), index)) ∨
      index.refusal? path = none ∧
        ((∃ failure, build = .error failure ∧
            index.register path build = (.error failure, index)) ∨
          ∃ outline, build = .ok outline ∧
            index.register path build = (.ok (index.nextRecord outline),
              ((index.enter (index.nextRecord outline)).settle (index.nextRecord outline)).2)) := by
  unfold register
  cases index.refusal? path with
  | some error => exact .inl ⟨error, rfl, rfl⟩
  | none =>
    cases build with
    | error failure => exact .inr ⟨rfl, .inl ⟨failure, rfl, rfl⟩⟩
    | ok outline => exact .inr ⟨rfl, .inr ⟨outline, rfl, rfl⟩⟩

/-- A registration enters a new record and resolves it, or fails without a trace. -/
theorem register_cases (index : Index) (path : Path) (build : Except (Failure Error) Outline)
    (parsed : ∀ outline, build = .ok outline →
      ∃ source, Outline.ofSource index.config.parser path source = .ok outline) :
    (∃ record, (index.register path build).1.toOption = some record ∧
        index.Registers record (index.register path build).2) ∨
      (index.register path build).1.toOption = none ∧ (index.register path build).2 = index := by
  rcases register_outcome index path build with
    ⟨error, -, result⟩ | ⟨-, ⟨failure, -, result⟩ | ⟨outline, isBuilt, result⟩⟩ <;> rw [result]
  · exact .inr ⟨rfl, rfl⟩
  · exact .inr ⟨rfl, rfl⟩
  · obtain ⟨source, built⟩ := parsed outline isBuilt
    exact .inl ⟨index.nextRecord outline, rfl, rfl, ⟨path, source, built⟩, rfl⟩

/-- An operation registers a record, builds the index of a list of files, or leaves records
and names alone. -/
theorem perform_cases (index : Index) (operation : Operation) :
    (∃ record, index.registered? operation = some record ∧
        index.Registers record (index.perform operation)) ∨
      index.registered? operation = none ∧
        ((∃ tree files, (files.map Path.components).Nodup ∧
            index.perform operation = index.afterPhases tree files) ∨
          index.Keeps (index.perform operation)) := by
  cases operation with
  | build tree root =>
    refine .inr ⟨rfl, ?_⟩
    cases folder : tree.folderAt? root with
    | none => exact .inr (Keeps.of_eq (by simp only [perform, build, folder]))
    | some entries =>
      obtain ⟨stats, result⟩ := build_eq index folder
      exact .inl ⟨tree, _, nodup_discover_files _ _ (FileTree.wellNamed_folderAt? folder),
        congrArg Prod.snd result⟩
  | registerFile tree path =>
    rcases register_cases index path (Outline.ofFile index.config.parser tree path)
      (fun outline built => (Outline.ofFile_eq_ok.mp built).imp fun _ => And.right) with
      entered | ⟨failed, unchanged⟩
    · exact .inl entered
    · exact .inr ⟨failed, .inr (Keeps.of_eq unchanged)⟩
  | registerSource path source =>
    rcases register_cases index path (Outline.ofSource index.config.parser path source)
      (fun outline built => ⟨source, built⟩) with entered | ⟨failed, unchanged⟩
    · exact .inl entered
    · exact .inr ⟨failed, .inr (Keeps.of_eq unchanged)⟩
  | addPackage package => exact .inr ⟨rfl, .inr ⟨rfl, rfl, rfl⟩⟩
  | removePackage package =>
    exact .inr ⟨rfl, .inr ⟨Tables.records_removePackage _ _, Tables.owners_removePackage _ _, rfl⟩⟩

theorem enter_tables (index : Index) (record : Record) :
    (index.enter record).tables = (index.makeRoom record.key).tables.insert record := rfl

theorem size_enter (index : Index) (record : Record) :
    (index.enter record).cells.size = index.cells.size + 1 := by
  unfold enter addRecord makeRoom
  split <;> exact Array.size_push _

theorem size_perform (index : Index) (operation : Operation) :
    index.cells.size ≤ (index.perform operation).cells.size := by
  rcases perform_cases index operation with
    ⟨entered, -, registers⟩ | ⟨-, ⟨tree, files, distinct, result⟩ | keeps⟩
  · rw [registers.result, settle_size, size_enter]
    omega
  · rw [result, afterPhases_size]
    omega
  · rw [keeps.cells]

theorem size_run (index : Index) (operations : List Operation) :
    index.cells.size ≤ (index.run operations).cells.size := by
  induction operations generalizing index with
  | nil => exact le_refl _
  | cons operation rest ih => exact (size_perform index operation).trans (ih _)

/-! ### Owners are records on file -/

/-- What answers for a name is a record on file that declares it, and records are told
apart by their numbers. -/
structure Sound (index : Index) : Prop where
  /-- A record is filed under its own path. -/
  filed : ∀ key record, index.tables.records.get? key = some record → record.key = key
  /-- The owner of a name is the very record filed under its path. -/
  live : ∀ name owner, index.tables.owners.get? name = some owner →
    index.tables.records.get? owner.key = some owner
  /-- The owner of a name declares it. -/
  justified : ∀ name owner, index.tables.owners.get? name = some owner →
    owner.declares name = true
  numbered : ∀ record, index.tables.Holds record → record.number < index.cells.size
  identified : ∀ record other, index.tables.Holds record → index.tables.Holds other →
    record.number = other.number → record = other

namespace Sound

theorem holds_iff (sound : index.Sound) :
    index.tables.Holds record ↔ index.tables.records.get? record.key = some record := by
  constructor
  · rintro ⟨key, found⟩
    rwa [sound.filed key record found]
  · exact fun found => ⟨record.key, found⟩

theorem holds_owner (sound : index.Sound) {owner : Record}
    (owned : index.tables.owners.get? name = some owner) : index.tables.Holds owner :=
  ⟨owner.key, sound.live name owner owned⟩

theorem transfer (sound : index.Sound) (records : after.tables.records = index.tables.records)
    (owners : after.tables.owners = index.tables.owners)
    (size : after.cells.size = index.cells.size) : after.Sound := by
  constructor
  case filed => simpa only [records] using sound.filed
  case live => simpa only [records, owners] using sound.live
  case justified => simpa only [owners] using sound.justified
  case numbered => simpa only [Tables.Holds, records, size] using sound.numbered
  case identified => simpa only [Tables.Holds, records] using sound.identified

theorem of_empty (nothing : index.tables = Tables.empty) : index.Sound := by
  constructor
  case filed => simp [nothing]
  case live => simp [nothing]
  case justified => simp [nothing]
  case numbered => simp [nothing, Tables.not_holds_empty]
  case identified => simp [nothing, Tables.not_holds_empty]

theorem afterPhases (index : Index) (tree : FileTree) {files : List Path}
    (distinct : (files.map Path.components).Nodup) : (index.afterPhases tree files).Sound := by
  have tabulates := tabulates_afterPhases index tree distinct
  constructor
  case filed => exact fun key record found => ((tabulates.filed key record).mp found).2
  case live =>
    intro name owner owned
    exact (tabulates.filed _ _).mpr ⟨(tabulates.owners name owner owned).member, rfl⟩
  case justified => exact fun name owner owned => (tabulates.owners name owner owned).declares
  case numbered =>
    intro record held
    rw [afterPhases_size]
    exact (number_of_newRecord (tabulates.holds_iff.mp held)).2
  case identified =>
    intro record other held held'
    exact newRecords_eq_of_number (tabulates.holds_iff.mp held) (tabulates.holds_iff.mp held')

/-! ### Registering a record -/

theorem records_makeRoom (sound : index.Sound) (key other : Path.Key) :
    (index.makeRoom key).tables.records.get? other =
      if other = key then none else index.tables.records.get? other := by
  unfold makeRoom
  cases found : index.tables.records.get? key with
  | none =>
    change index.tables.records.get? other = _
    split_ifs with same
    · rw [same, found]
    · rfl
  | some previous =>
    change (index.tables.withdraw previous).records.get? other = _
    rw [Tables.records_withdraw, sound.filed key previous found]

/-- A record on file has the path of another one only if it is that record. -/
theorem eq_of_key (sound : index.Sound) (held : index.tables.Holds record)
    (held' : index.tables.Holds previous) (same : record.key = previous.key) :
    record = previous := by
  have found := sound.holds_iff.mp held
  rw [same, sound.holds_iff.mp held'] at found
  exact (Option.some.inj found).symm

theorem number_eq_iff (sound : index.Sound) (held : index.tables.Holds record)
    (held' : index.tables.Holds previous) :
    record.number = previous.number ↔ record.key = previous.key := by
  constructor
  · intro same
    rw [sound.identified record previous held held' same]
  · intro same
    rw [sound.eq_of_key held held' same]

theorem owners_withdraw (sound : index.Sound) (held : index.tables.Holds previous)
    {owner : Record} :
    (index.tables.withdraw previous).owners.get? name = some owner ↔
      index.tables.owners.get? name = some owner ∧ owner.key ≠ previous.key := by
  rw [Tables.owners_withdraw, Tables.unlessOwned]
  cases owned : index.tables.owners.get? name with
  | none => simp
  | some current =>
    have same_iff := sound.number_eq_iff (sound.holds_owner owned) held
    by_cases same : current.number = previous.number
    · -- The owner is the very record taken out, so it declares the name and gives it up.
      have declares : previous.declares name = true := by
        rw [← sound.identified current previous (sound.holds_owner owned) held same]
        exact sound.justified name current owned
      rw [if_pos declares, Option.any_some, same, beq_self_eq_true, if_pos rfl]
      refine ⟨by rintro ⟨⟩, ?_⟩
      rintro ⟨⟨⟩, differs⟩
      exact absurd (same_iff.mp same) differs
    · rw [Option.any_some, beq_eq_false_iff_ne.mpr same, if_neg Bool.false_ne_true, ite_self]
      refine (and_iff_left_of_imp ?_).symm
      rintro ⟨⟩
      exact same_iff.not.mp same

/-- Making room for a record takes the names of its path and leaves all others alone. -/
theorem owners_makeRoom (sound : index.Sound) (key : Path.Key) {owner : Record} :
    (index.makeRoom key).tables.owners.get? name = some owner ↔
      index.tables.owners.get? name = some owner ∧ owner.key ≠ key := by
  unfold makeRoom
  cases found : index.tables.records.get? key with
  | none =>
    refine (and_iff_left_of_imp fun owned same => ?_).symm
    have filed := sound.live name owner owned
    rw [same, found] at filed
    cases filed
  | some previous =>
    change (index.tables.withdraw previous).owners.get? name = some owner ↔ _
    rw [sound.owners_withdraw ⟨key, found⟩, sound.filed key previous found]

theorem records_enter (sound : index.Sound) (record : Record) (key : Path.Key) :
    (index.enter record).tables.records.get? key =
      if key = record.key then some record else index.tables.records.get? key := by
  rw [enter_tables, Tables.records_insert, sound.records_makeRoom]
  split_ifs <;> rfl

/-- The owner of a name after a record is entered: the record itself, or an owner with
another path that was there before. -/
theorem owners_enter (sound : index.Sound) (record : Record) {owner : Record}
    (owned : (index.enter record).tables.owners.get? name = some owner) :
    owner = record ∧ record.declares name = true ∨
      index.tables.owners.get? name = some owner ∧ owner.key ≠ record.key := by
  rw [enter_tables, Tables.owners_insert] at owned
  split_ifs at owned with declares
  · rcases Tables.settled_cases record ((index.makeRoom record.key).tables.owners.get? name) with
      ⟨won, -⟩ | ⟨current, had, -, kept⟩
    · exact .inl ⟨(won.symm.trans (Option.some.inj owned)).symm, declares⟩
    · rw [kept] at owned
      exact .inr (sound.owners_makeRoom record.key |>.mp (had.trans owned))
  · exact .inr (sound.owners_makeRoom record.key |>.mp owned)

theorem holds_enter (sound : index.Sound) (record : Record) {other : Record} :
    (index.enter record).tables.Holds other ↔
      other = record ∨ index.tables.Holds other ∧ other.key ≠ record.key := by
  simp only [Tables.Holds, sound.records_enter]
  constructor
  · rintro ⟨key, found⟩
    split_ifs at found with same
    · exact .inl (Option.some.inj found).symm
    · exact .inr ⟨⟨key, found⟩, sound.filed key other found ▸ same⟩
  · rintro (rfl | ⟨⟨key, found⟩, differs⟩)
    · exact ⟨other.key, if_pos rfl⟩
    · exact ⟨key, by rw [if_neg (sound.filed key other found ▸ differs), found]⟩

/-- Entering a record of a new number keeps an index sound. -/
theorem enter (sound : index.Sound) (fresh : record.number = index.cells.size) :
    (index.enter record).Sound := by
  constructor
  case filed =>
    intro key other
    rw [sound.records_enter]
    split_ifs with same
    · rintro ⟨⟩
      exact same.symm
    · exact sound.filed key other
  case live =>
    intro name owner owned
    rw [sound.records_enter]
    rcases sound.owners_enter record owned with ⟨rfl, -⟩ | ⟨before, differs⟩
    · exact if_pos rfl
    · rw [if_neg differs]
      exact sound.live name owner before
  case justified =>
    intro name owner owned
    rcases sound.owners_enter record owned with ⟨rfl, declares⟩ | ⟨before, -⟩
    · exact declares
    · exact sound.justified name owner before
  case numbered =>
    intro other held
    rw [size_enter]
    rcases (sound.holds_enter record).mp held with rfl | ⟨before, -⟩
    · omega
    · exact Nat.lt_succ_of_lt (sound.numbered other before)
  case identified =>
    intro left right held held' same
    rcases (sound.holds_enter record).mp held with isNew | ⟨before, -⟩ <;>
      rcases (sound.holds_enter record).mp held' with isNew' | ⟨before', -⟩
    · exact isNew.trans isNew'.symm
    · have lower := sound.numbered right before'
      rw [isNew, fresh] at same
      exact absurd same.symm lower.ne
    · have lower := sound.numbered left before
      rw [isNew', fresh] at same
      exact absurd same lower.ne
    · exact sound.identified left right before before' same

/-! ### Every run is sound -/

theorem registers (sound : index.Sound) (registers : index.Registers record after) :
    after.Sound := by
  have entered := sound.enter registers.number
  rw [registers.result]
  exact entered.transfer (by rw [settle_tables]) (by rw [settle_tables]) (settle_size _ _)

theorem perform (sound : index.Sound) (operation : Operation) :
    (index.perform operation).Sound := by
  rcases perform_cases index operation with
    ⟨record, -, registers⟩ | ⟨-, ⟨tree, files, distinct, result⟩ | keeps⟩
  · exact sound.registers registers
  · rw [result]
    exact Sound.afterPhases index tree distinct
  · exact sound.transfer keeps.records keeps.owners (congrArg Array.size keeps.cells)

theorem run (sound : index.Sound) (operations : List Operation) : (index.run operations).Sound := by
  induction operations generalizing index with
  | nil => exact sound
  | cons operation rest ih => exact ih (sound.perform operation)

theorem of_create {config : Config} {cores : Nat} (created : create config cores = .ok index) :
    index.Sound :=
  of_empty (tables_of_create created)

theorem of_reachable (reachable : index.Reachable) : index.Sound := by
  obtain ⟨config, cores, start, operations, created, rfl⟩ := reachable
  exact (of_create created).run operations

/-! ### A record that is gone stays gone -/

/-- An operation files no record but one with a new number. -/
theorem holds_perform (sound : index.Sound)
    (held : (index.perform operation).tables.Holds record) :
    index.tables.Holds record ∨ index.cells.size ≤ record.number := by
  rcases perform_cases index operation with
    ⟨entered, -, registers⟩ | ⟨-, ⟨tree, files, distinct, result⟩ | keeps⟩
  · rw [registers.result, settle_tables, sound.holds_enter] at held
    rcases held with rfl | ⟨before, -⟩
    · exact .inr registers.number.ge
    · exact .inl before
  · rw [result] at held
    have entered := (tabulates_afterPhases index tree distinct).holds_iff.mp held
    exact .inr (number_of_newRecord entered).1
  · rw [Tables.Holds, keeps.records] at held
    exact .inl held

theorem not_holds_run (sound : index.Sound) (made : record.number < index.cells.size)
    (gone : ¬ index.tables.Holds record) (operations : List Operation) :
    ¬ (index.run operations).tables.Holds record := by
  induction operations generalizing index with
  | nil => exact gone
  | cons operation rest ih =>
    -- Numbers are not used twice, so the record does not come back under its own.
    refine ih (sound.perform operation) (made.trans_le (size_perform index operation)) ?_
    intro held
    rcases sound.holds_perform held with before | isNew
    · exact gone before
    · exact absurd made (Nat.not_lt.mpr isNew)

/-- No lookup returns a record that is not on file. -/
theorem lookups_ne (sound : index.Sound) (gone : ¬ index.tables.Holds record) :
    (∀ path, index.byPath? path ≠ some record) ∧ ∀ type, index.byType? type ≠ some record :=
  ⟨fun _ found => gone ⟨_, found⟩, fun _ owned => gone (sound.holds_owner owned)⟩

end Sound

/-! ### Lookups after any run -/

theorem registers_of_registered (registered : index.registered? operation = some record) :
    index.Registers record (index.perform operation) := by
  rcases perform_cases index operation with ⟨entered, same, registers⟩ | ⟨nothing, -⟩
  · rw [registered] at same
    exact Option.some.inj same ▸ registers
  · rw [nothing] at registered
    cases registered

/-- A registration finds no name in the hands of its own path. -/
theorem Sound.entersAfresh (sound : index.Sound)
    (registered : index.registered? operation = some record) :
    (index.makeRoom record.key).tables.EntersAfresh record := by
  obtain ⟨path, source, built⟩ := (registers_of_registered registered).built
  refine Tables.entersAfresh (Outline.nodup_declaredNames built) fun name owner owned => ?_
  exact ((sound.owners_makeRoom record.key).mp owned).2

/-- No record of a build finds a name in the hands of its own path, however the records
are mixed. -/
theorem claimsAfresh_of_build {tree : FileTree} {files : List Path} {progress : Progress}
    (index : Index) (distinct : (files.map Path.components).Nodup)
    (run : Relation.ReflTransGen Progress.Step
      (Progress.start (index.newRecords tree files)) progress) : progress.ClaimsAfresh := by
  have keys := nodup_newRecords_keys index tree distinct
  refine (Progress.Consistent.run keys run).claimsAfresh keys fun record entered => ?_
  obtain ⟨path, -, built⟩ := exists_newRecord.mp ⟨record, entered, rfl⟩
  obtain ⟨source, -, parsed⟩ := Outline.ofFile_eq_ok.mp built
  exact Outline.nodup_declaredNames parsed

/-- In every index that comes about, what answers for a name is the very record filed under
its own path, and it declares that name; and each path has a record of that path. So no
lookup returns a record that was replaced or cleared, whatever happens later. And no record
that is entered, alone or among others, meets a name in the hands of its own path. -/
theorem reachable_live (reachable : index.Reachable) :
    (∀ name owner, index.tables.owners.get? name = some owner →
        index.tables.records.get? owner.path.components = some owner ∧
          owner.declares name = true) ∧
      (∀ key record, index.tables.records.get? key = some record →
        record.path.components = key) ∧
      (∀ earlier later record, index.tables.Holds record →
        ¬ (index.run earlier).tables.Holds record →
          (∀ path, (index.run (earlier ++ later)).byPath? path ≠ some record) ∧
            ∀ type, (index.run (earlier ++ later)).byType? type ≠ some record) ∧
      (∀ operation record, index.registered? operation = some record →
        (index.makeRoom record.key).tables.EntersAfresh record) ∧
      ∀ tree root entries progress, tree.folderAt? root = some entries →
        Relation.ReflTransGen Progress.Step (Progress.start (index.newRecords tree
          (discover index.config.exclusions root entries).files)) progress →
        progress.ClaimsAfresh := by
  have sound := Sound.of_reachable reachable
  refine ⟨fun name owner owned => ⟨sound.live name owner owned, sound.justified name owner owned⟩,
    sound.filed, ?_, fun operation record => sound.entersAfresh, ?_⟩
  · -- A record on file has a number that is taken, so it can only come back as itself.
    intro earlier later record held gone
    have made := (sound.numbered record held).trans_le (size_run index earlier)
    rw [run_append]
    exact ((sound.run earlier).run later).lookups_ne
      ((sound.run earlier).not_holds_run made gone later)
  · intro tree root entries progress folder run
    exact claimsAfresh_of_build index
      (nodup_discover_files _ root (FileTree.wellNamed_folderAt? folder)) run

/-- A file that is registered again when it declares another type. -/
theorem reachable_live_renamed :
    let index : Index := (Index.mk {} 1 Tables.empty #[] []).run
      [.registerSource ⟨"a/T.java"⟩ "class T \x7b\x7d",
        .registerSource ⟨"a/T.java"⟩ "class U \x7b\x7d"]
    index.tables.owners.keys = ["U"] ∧
      ∀ name owner, index.tables.owners.get? name = some owner →
        index.tables.records.get? owner.path.components = some owner ∧
          owner.declares name = true := by
  intro index
  have reachable : index.Reachable := ⟨{}, 1, _, _, rfl, rfl⟩
  exact ⟨by decide +kernel, (reachable_live reachable).1⟩

end Index

end JavaIndex
