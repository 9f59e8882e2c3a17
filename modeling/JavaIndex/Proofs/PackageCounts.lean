import JavaIndex.Proofs.Failures
import Mathlib.Algebra.GroupWithZero.Nat

/-!
# Packages in use

Each record counts once for its package, and a caller can count further uses by hand. A
record that is registered again under its path takes its use back, in the package that it
was in before, and counts for the package that it is in now. So as long as the caller takes
no use back, a package is in use as often as there are records in it and uses counted by
hand since the last build.

The invariant is `Tables.Balanced`. It needs the records of the tables and not only their
lookups, since it counts them. Uses taken back by hand may break it, until the next build
starts the counts anew.

## Main definitions

* `Tables.filedIn` — the number of records in a package
* `Tables.Balanced`, `Tables.NoneUnused` — counts agree with the records, and none is zero
* `Index.Effect` — what an operation does to the tables
* `Index.sinceBuild` — the operations since the last build that succeeded

## Main results

* `Index.effect_perform` — what an operation does to the tables
* `Tables.Balanced.insert`, `Tables.Balanced.withdraw` — records come and go with their counts
* `Index.Tallied.run` — the counts of a run
* `Index.packages_counted` — the counts after any run, and their sum after a build
-/

namespace JavaIndex

namespace Tables

variable {tables : Tables} {record : Record} {package asked : String} {extra : String → Nat}

/-! ### Records and counts after a change -/

/-- The number of records in a package. -/
def filedIn (tables : Tables) (package : String) : Nat :=
  tables.records.values.countP fun record => record.packageName == package

/-- Each package is in use once for each of its records, and as often again as given. -/
def Balanced (tables : Tables) (extra : String → Nat) : Prop :=
  ∀ package, tables.usage package = tables.filedIn package + extra package

/-- No package has an entry without a use. -/
def NoneUnused (tables : Tables) : Prop :=
  ∀ package, tables.packages.get? package ≠ some 0

theorem insert_records (tables : Tables) (record : Record) :
    (tables.insert record).records = tables.records.insert record.key record := by
  rw [insert_eq]
  exact (foldl_claims _ record _).1

theorem insert_packages (tables : Tables) (record : Record) :
    (tables.insert record).packages = (tables.addPackage record.packageName).packages := by
  have unclaimed := (foldl_claims (tables.apply (.file record)) record record.declaredTypes).2.1
  rw [insert_eq, addPackage, usage, unclaimed]
  rfl

theorem withdraw_records (tables : Tables) (record : Record) :
    (tables.withdraw record).records = tables.records.erase record.key := by
  rw [withdraw, records_removePackage, (foldl_release record _ _).1]

theorem usage_addPackage (tables : Tables) (package asked : String) :
    (tables.addPackage package).usage asked =
      tables.usage asked + if package == asked then 1 else 0 := by
  rw [usage, addPackage, Cache.get?_insert]
  by_cases same : asked = package
  · simp [same]
  · simp [same, Ne.symm same, usage]

theorem usage_insert (tables : Tables) (record : Record) (asked : String) :
    (tables.insert record).usage asked =
      tables.usage asked + if record.packageName == asked then 1 else 0 := by
  rw [← usage_addPackage, usage, insert_packages, usage]

theorem usage_withdraw (tables : Tables) (record : Record) (asked : String) :
    (tables.withdraw record).usage asked =
      tables.usage asked - if record.packageName == asked then 1 else 0 := by
  rw [usage, packages_withdraw]
  by_cases same : asked = record.packageName
  · rw [if_pos same, getD_countEntry, same, beq_self_eq_true, if_pos rfl]
  · rw [if_neg same, beq_eq_false_iff_ne.mpr (Ne.symm same), if_neg Bool.false_ne_true,
      Nat.sub_zero, usage]

theorem filedIn_insert (absent : tables.records.get? record.key = none) (package : String) :
    (tables.insert record).filedIn package =
      tables.filedIn package + if record.packageName == package then 1 else 0 := by
  have values : (tables.insert record).records.values = record :: tables.records.values := by
    rw [insert_records]
    exact congrArg (List.map Prod.snd <| _ :: ·) (Cache.entries_erase_of_absent absent)
  rw [filedIn, values, List.countP_cons, filedIn]

theorem filedIn_withdraw (filed : tables.records.get? record.key = some record)
    (package : String) :
    tables.filedIn package =
      (tables.withdraw record).filedIn package +
        if record.packageName == package then 1 else 0 := by
  have values : tables.records.values.Perm (record :: (tables.withdraw record).records.values) := by
    rw [withdraw_records]
    exact (Cache.perm_entries filed).map Prod.snd
  rw [filedIn, values.countP_eq, List.countP_cons, filedIn]

/-! ### Counts stay balanced -/

namespace Balanced

theorem empty : Tables.empty.Balanced fun _ => 0 := fun _ => rfl

theorem insert (balanced : tables.Balanced extra)
    (absent : tables.records.get? record.key = none) : (tables.insert record).Balanced extra := by
  intro package
  have before := balanced package
  rw [usage_insert, filedIn_insert absent]
  omega

theorem withdraw (balanced : tables.Balanced extra)
    (filed : tables.records.get? record.key = some record) :
    (tables.withdraw record).Balanced extra := by
  intro package
  have before := balanced package
  have counted := filedIn_withdraw filed package
  rw [usage_withdraw]
  omega

theorem addPackage (balanced : tables.Balanced extra) (package : String) :
    (tables.addPackage package).Balanced fun asked =>
      extra asked + if package == asked then 1 else 0 := by
  intro asked
  have before := balanced asked
  have sameRecords : (tables.addPackage package).filedIn asked = tables.filedIn asked := rfl
  rw [usage_addPackage, sameRecords, before]
  exact Nat.add_assoc _ _ _

theorem foldl_insert {records : List Record} (balanced : tables.Balanced extra)
    (distinct : (records.map Record.key).Nodup)
    (absent : ∀ record ∈ records, tables.records.get? record.key = none) :
    (records.foldl Tables.insert tables).Balanced extra := by
  induction records generalizing tables with
  | nil => exact balanced
  | cons record rest ih =>
    obtain ⟨notLater, distinct⟩ := List.nodup_cons.mp distinct
    obtain ⟨first, later⟩ := List.forall_mem_cons.mp absent
    refine ih (balanced.insert first) distinct fun other member => ?_
    have differs : other.key ≠ record.key := by
      intro same
      exact notLater (same ▸ List.mem_map_of_mem member)
    rw [records_insert, if_neg differs]
    exact later other member

end Balanced

namespace NoneUnused

theorem empty : Tables.empty.NoneUnused := by
  intro package found
  simp at found

theorem addPackage (noneUnused : tables.NoneUnused) (package : String) :
    (tables.addPackage package).NoneUnused := by
  intro asked
  rw [Tables.addPackage, Cache.get?_insert]
  split_ifs
  · simp
  · exact noneUnused asked

theorem insert (noneUnused : tables.NoneUnused) (record : Record) :
    (tables.insert record).NoneUnused := by
  intro asked
  rw [insert_packages]
  exact noneUnused.addPackage record.packageName asked

theorem foldl_insert (noneUnused : tables.NoneUnused) (records : List Record) :
    (records.foldl Tables.insert tables).NoneUnused := by
  induction records generalizing tables with
  | nil => exact noneUnused
  | cons record rest ih => exact ih (noneUnused.insert record)

theorem removePackage (noneUnused : tables.NoneUnused) (package : String) :
    (tables.removePackage package).NoneUnused := by
  intro asked
  rw [packages_removePackage, countEntry]
  split_ifs with same unused
  · simp
  · simpa using unused
  · exact noneUnused asked

theorem withdraw (noneUnused : tables.NoneUnused) (record : Record) :
    (tables.withdraw record).NoneUnused := by
  intro asked
  have taken : (tables.withdraw record).packages.get? asked =
      (tables.removePackage record.packageName).packages.get? asked := by
    rw [packages_withdraw, packages_removePackage]
  rw [taken]
  exact noneUnused.removePackage record.packageName asked

end NoneUnused

/-! ### The sum of all counts -/

theorem sum_addPackage (tables : Tables) (package : String) :
    (tables.addPackage package).packages.values.sum = tables.packages.values.sum + 1 := by
  have values : (tables.addPackage package).packages.values =
      (tables.usage package + 1) :: (tables.packages.erase package).values := rfl
  rw [values, List.sum_cons]
  cases counted : tables.packages.get? package with
  | none =>
    have unused : tables.usage package = 0 := by rw [usage, counted, Option.getD_none]
    rw [unused, Cache.values, Cache.entries_erase_of_absent counted, Cache.values]
    omega
  | some count =>
    have used : tables.usage package = count := by rw [usage, counted, Option.getD_some]
    have split := ((Cache.perm_entries counted).map Prod.snd).sum_nat
    rw [List.map_cons, List.sum_cons] at split
    rw [used, Cache.values, Cache.values, split]
    omega

/-- Each record that is entered adds one to the sum of the counts. -/
theorem sum_foldl_insert (tables : Tables) (records : List Record) :
    (records.foldl insert tables).packages.values.sum =
      tables.packages.values.sum + records.length := by
  induction records generalizing tables with
  | nil => rfl
  | cons record rest ih =>
    rw [List.foldl_cons, ih, insert_packages, sum_addPackage, List.length_cons]
    omega

end Tables

/-! ### What an operation does to the tables -/

/-- Whether an operation counts a use of a package by hand. -/
def Operation.adds (package : String) : Operation → Bool
  | .addPackage added => added == package
  | _ => false

/-- Whether an operation takes back a use of a package by hand. -/
def Operation.removes : Operation → Bool
  | .removePackage _ => true
  | _ => false

namespace Index

variable {index : Index} {operation : Operation} {record : Record} {pending : List Operation}
  {extra : String → Nat}

/-- Whether an operation is a build that succeeds. -/
def rebuilds (index : Index) : Operation → Bool
  | .build tree root => (index.failure? (.build tree root)).isNone
  | _ => false

/-- What an operation does to the tables. -/
inductive Effect (index : Index) : Operation → Tables → Prop
  /-- Records of different paths are entered into empty tables. -/
  | rebuilt {operation : Operation} {records : List Record}
    (rebuilds : index.rebuilds operation = true) (distinct : (records.map Record.key).Nodup) :
    Effect index operation (records.foldl Tables.insert Tables.empty)
  | entered {operation : Operation} {record : Record}
    (registered : index.registered? operation = some record) :
    Effect index operation (index.enter record).tables
  | unchanged {operation : Operation} (failed : index.failure? operation ≠ none) :
    Effect index operation index.tables
  | added (package : String) :
    Effect index (.addPackage package) (index.tables.addPackage package)
  | removed (package : String) :
    Effect index (.removePackage package) (index.tables.removePackage package)

theorem toOption_ne_none {result : Except (Failure Error) Record}
    (succeeded : failureOf? result = none) : result.toOption ≠ none := by
  cases result with
  | error failure => cases succeeded
  | ok record => exact Option.some_ne_none record

/-- An operation that fails leaves the tables alone; one that succeeds enters one record,
enters the records of a build, or counts a use more or less. -/
theorem effect_perform (index : Index) (operation : Operation) :
    index.Effect operation (index.perform operation).tables := by
  cases failed : index.failure? operation with
  | some failure =>
    have failed : index.failure? operation ≠ none := by simp [failed]
    rw [perform_of_failed failed]
    exact .unchanged failed
  | none =>
    cases registered : index.registered? operation with
    | some record =>
      rw [(registers_of_registered registered).tables]
      exact .entered registered
    | none =>
      cases operation with
      | build tree root =>
        cases folder : tree.folderAt? root with
        | none => simp [failure?, build, folder, failureOf?, Except.mapError] at failed
        | some entries =>
          rw [perform, build_of_folder index folder, afterPhases_tables]
          refine .rebuilt (by rw [rebuilds, failed]; rfl) (nodup_newRecords_keys index tree ?_)
          exact nodup_discover_files _ root (FileTree.wellNamed_folderAt? folder)
      | registerFile tree path => exact absurd registered (toOption_ne_none failed)
      | registerSource path source => exact absurd registered (toOption_ne_none failed)
      | addPackage package => exact .added package
      | removePackage package => exact .removed package

theorem silent_of_registered (registered : index.registered? operation = some record) :
    index.rebuilds operation = false ∧ ∀ package, operation.adds package = false := by
  cases operation with
  | build tree root => cases registered
  | registerFile tree path => exact ⟨rfl, fun _ => rfl⟩
  | registerSource path source => exact ⟨rfl, fun _ => rfl⟩
  | addPackage package => cases registered
  | removePackage package => cases registered

theorem silent_of_failed (failed : index.failure? operation ≠ none) :
    index.rebuilds operation = false ∧ ∀ package, operation.adds package = false := by
  cases operation with
  | build tree root =>
    refine ⟨?_, fun _ => rfl⟩
    rw [rebuilds, Option.isNone_eq_false_iff, Option.isSome_iff_ne_none]
    exact failed
  | registerFile tree path => exact ⟨rfl, fun _ => rfl⟩
  | registerSource path source => exact ⟨rfl, fun _ => rfl⟩
  | addPackage package => exact absurd rfl failed
  | removePackage package => exact absurd rfl failed

/-! ### Counts over a run -/

/-- How often some operations count a use of a package by hand. -/
def addedBy (operations : List Operation) (package : String) : Nat :=
  operations.countP (Operation.adds package)

/-- The operations since the last build that succeeded, or all of them if there was none;
`pending` are those that went before. -/
def sinceBuild (index : Index) (pending : List Operation) : List Operation → List Operation
  | [] => pending
  | operation :: rest =>
    (index.perform operation).sinceBuild
      (if index.rebuilds operation then [] else pending ++ [operation]) rest

theorem sinceBuild_append (index : Index) (pending done rest : List Operation) :
    index.sinceBuild pending (done ++ rest) =
      (index.run done).sinceBuild (index.sinceBuild pending done) rest := by
  induction done generalizing index pending with
  | nil => rfl
  | cons operation later ih => exact ih _ _

/-- Unless a use was taken back by hand, the counts are those of the records on file and of
the uses counted by hand. -/
def Tallied (tables : Tables) (pending : List Operation) : Prop :=
  (∀ operation ∈ pending, operation.removes = false) → tables.Balanced (addedBy pending)

theorem addedBy_append (pending : List Operation) (operation : Operation) (package : String) :
    addedBy (pending ++ [operation]) package =
      addedBy pending package + if operation.adds package then 1 else 0 := by
  rw [addedBy, List.countP_append, List.countP_singleton, addedBy]

theorem Sound.balanced_enter (sound : index.Sound) (balanced : index.tables.Balanced extra)
    (record : Record) : (index.enter record).tables.Balanced extra := by
  -- First the earlier record of the path goes with its use, then the new one comes with its own.
  have room : (index.makeRoom record.key).tables.records.get? record.key = none := by
    rw [sound.records_makeRoom, if_pos rfl]
  rw [enter_tables]
  refine Tables.Balanced.insert ?_ room
  unfold makeRoom
  cases found : index.tables.records.get? record.key with
  | none => exact balanced
  | some previous =>
    have filed : index.tables.records.get? previous.key = some previous := by
      rw [sound.filed record.key previous found, found]
    exact balanced.withdraw filed

namespace Tallied

variable {tables after : Tables}

/-- An operation that counts nothing by hand may only move records and their counts
together. -/
theorem append_silent (tallied : Tallied tables pending)
    (silent : ∀ package, operation.adds package = false)
    (balanced : ∀ extra, tables.Balanced extra → after.Balanced extra) :
    Tallied after (pending ++ [operation]) := by
  intro noneRemoved
  have before := tallied fun other member => noneRemoved other (List.mem_append_left _ member)
  have sameCounts : addedBy (pending ++ [operation]) = addedBy pending := by
    funext package
    rw [addedBy_append, silent package]
    simp
  rw [sameCounts]
  exact balanced _ before

theorem append_addPackage (tallied : Tallied tables pending) (package : String) :
    Tallied (tables.addPackage package) (pending ++ [.addPackage package]) := by
  intro noneRemoved
  have before := tallied fun other member => noneRemoved other (List.mem_append_left _ member)
  intro asked
  rw [before.addPackage package asked, addedBy_append]
  rfl

theorem perform (tallied : Tallied index.tables pending) (sound : index.Sound)
    (operation : Operation) : Tallied (index.perform operation).tables
      (if index.rebuilds operation then [] else pending ++ [operation]) := by
  have effect := index.effect_perform operation
  generalize (index.perform operation).tables = after at effect ⊢
  cases effect with
  | rebuilt rebuilds distinct =>
    rw [if_pos rebuilds]
    exact fun _ => Tables.Balanced.empty.foldl_insert distinct (by simp)
  | entered registered =>
    obtain ⟨noBuild, silent⟩ := silent_of_registered registered
    rw [noBuild]
    exact tallied.append_silent silent fun _ balanced => sound.balanced_enter balanced _
  | unchanged failed =>
    obtain ⟨noBuild, silent⟩ := silent_of_failed failed
    rw [noBuild]
    exact tallied.append_silent silent fun _ => id
  | added package => exact tallied.append_addPackage package
  | removed package =>
    intro noneRemoved
    have kept := noneRemoved (.removePackage package) (by simp [rebuilds])
    simp [Operation.removes] at kept

theorem run (tallied : Tallied index.tables pending) (sound : index.Sound)
    (operations : List Operation) :
    Tallied (index.run operations).tables (index.sinceBuild pending operations) := by
  induction operations generalizing index pending with
  | nil => exact tallied
  | cons operation rest ih => exact ih (tallied.perform sound operation) (sound.perform operation)

end Tallied

theorem noneUnused_enter (noneUnused : index.tables.NoneUnused) (record : Record) :
    (index.enter record).tables.NoneUnused := by
  rw [enter_tables]
  refine Tables.NoneUnused.insert ?_ record
  unfold makeRoom
  cases index.tables.records.get? record.key with
  | none => exact noneUnused
  | some previous => exact noneUnused.withdraw previous

theorem noneUnused_perform (noneUnused : index.tables.NoneUnused) (operation : Operation) :
    (index.perform operation).tables.NoneUnused := by
  have effect := index.effect_perform operation
  generalize (index.perform operation).tables = after at effect ⊢
  cases effect with
  | rebuilt _ _ => exact Tables.NoneUnused.empty.foldl_insert _
  | entered _ => exact noneUnused_enter noneUnused _
  | unchanged _ => exact noneUnused
  | added package => exact noneUnused.addPackage package
  | removed package => exact noneUnused.removePackage package

theorem noneUnused_run (noneUnused : index.tables.NoneUnused) (operations : List Operation) :
    (index.run operations).tables.NoneUnused := by
  induction operations generalizing index with
  | nil => exact noneUnused
  | cons operation rest ih => exact ih (noneUnused_perform noneUnused operation)

/-! ### What is listed -/

/-- All packages with an entry are listed. -/
theorem perm_packageCounts (noneUnused : index.tables.NoneUnused) :
    index.packageCounts.Perm index.tables.packages.entries := by
  have all : (index.tables.packages.entries.filter fun entry => 0 < entry.2) =
      index.tables.packages.entries := by
    apply List.filter_eq_self.mpr
    rintro ⟨package, count⟩ member
    have counted : index.tables.packages.get? package = some count := Cache.mem_entries.mp member
    apply decide_eq_true
    apply Nat.pos_of_ne_zero
    rintro rfl
    exact noneUnused package counted
  rw [packageCounts, all]
  exact List.mergeSort_perm _ _

theorem packageUsage_pos_iff (noneUnused : index.tables.NoneUnused) {package : String} :
    0 < index.packageUsage package ↔ package ∈ index.tables.packages.keys := by
  rw [Cache.mem_keys, packageUsage, Tables.usage]
  cases counted : index.tables.packages.get? package with
  | none => simp
  | some count =>
    have used : count ≠ 0 := by
      rintro rfl
      exact noneUnused package counted
    simpa using Nat.pos_of_ne_zero used

/-- After a build the counts add up to the number of outlines that could be built. -/
theorem sum_packageCounts_afterPhases (index : Index) (tree : FileTree) (files : List Path) :
    ((index.afterPhases tree files).packageCounts.map Prod.snd).sum =
      (outlinesOf index.config.parser tree files).length := by
  have noneUnused : (index.afterPhases tree files).tables.NoneUnused := by
    rw [afterPhases_tables]
    exact Tables.NoneUnused.empty.foldl_insert _
  have listed := (perm_packageCounts noneUnused).map Prod.snd
  calc ((index.afterPhases tree files).packageCounts.map Prod.snd).sum
      = (index.afterPhases tree files).tables.packages.values.sum := listed.sum_nat
    _ = (index.newRecords tree files).length := by
        rw [afterPhases_tables, Tables.sum_foldl_insert]
        exact Nat.zero_add _
    _ = (outlinesOf index.config.parser tree files).length := by
        rw [← toOutline_newRecords, List.length_map]

/-- In every index that comes about, each package with an entry is in use and is listed. If
the caller has taken back no use since the last build, a package is in use as often as there
are records in it and as the caller has counted a use since. After a build the counts add up
to the number of files. -/
theorem packages_counted {config : Config} {cores : Nat} {start : Index}
    (created : create config cores = .ok start) (operations : List Operation) :
    let index := start.run operations
    let recent := start.sinceBuild [] operations
    (∀ package, index.tables.packages.get? package ≠ some 0) ∧
      index.packageNames.Perm index.tables.packages.keys ∧
      (∀ package, 0 < index.packageUsage package ↔ package ∈ index.tables.packages.keys) ∧
      ((∀ operation ∈ recent, operation.removes = false) → ∀ package,
        index.packageUsage package =
          (index.allRecords.countP fun record => record.packageName == package) +
            recent.countP (Operation.adds package)) ∧
      ∀ tree root stats built, index.build tree root = (.ok stats, built) →
        (built.packageCounts.map Prod.snd).sum = stats.filesIndexed := by
  intro index recent
  have nothing := tables_of_create created
  have noneUnused : index.tables.NoneUnused :=
    noneUnused_run (nothing ▸ Tables.NoneUnused.empty) operations
  refine ⟨noneUnused, (perm_packageCounts noneUnused).map Prod.fst,
    fun package => packageUsage_pos_iff noneUnused, ?_, ?_⟩
  · intro noneRemoved package
    have tallied : Tallied start.tables [] := fun _ => nothing ▸ Tables.Balanced.empty
    have balanced := tallied.run (Sound.of_create created) operations noneRemoved package
    have sorted : index.allRecords.Perm index.tables.records.values := List.mergeSort_perm _ _
    rw [sorted.countP_eq]
    exact balanced
  · intro tree root stats built result
    obtain ⟨entries, -, rfl, rfl⟩ := build_eq_ok.mp result
    exact sum_packageCounts_afterPhases index tree _

/-- A use is taken back before a build. After the build the file is registered again, in
another package, and uses of the package that it has left are counted by hand. -/
theorem packages_counted_moved :
    let sources : List Entry := [.file "A.java" "package p; class A \x7b\x7d".toUTF8]
    let tree : FileTree := ⟨⟨"/"⟩, [.folder "src" sources], by decide⟩
    let start : Index := ⟨{}, 1, Tables.empty, #[], []⟩
    let earlier : List Operation :=
      [.registerSource ⟨"T.java"⟩ "package p; class T \x7b\x7d", .removePackage "p"]
    let later : List Operation :=
      [.registerSource ⟨"src/A.java"⟩ "package q; class A \x7b\x7d", .addPackage "p",
        .addPackage "p"]
    let index := start.run (earlier ++ .build tree ⟨"src"⟩ :: later)
    start.sinceBuild [] (earlier ++ .build tree ⟨"src"⟩ :: later) = later ∧
      (∀ operation ∈ later, operation.removes = false) ∧
      index.packageUsage "p" = 0 + 2 ∧ index.packageUsage "q" = 1 + 0 := by
  intro sources tree start earlier later index
  have rebuilds : (start.run earlier).rebuilds (.build tree ⟨"src"⟩) = true := by decide +kernel
  have recent : start.sinceBuild [] (earlier ++ .build tree ⟨"src"⟩ :: later) = later := by
    rw [sinceBuild_append, sinceBuild, if_pos rebuilds]
    simp [sinceBuild, Index.rebuilds, later]
  have noneRemoved : ∀ operation ∈ later, operation.removes = false := by
    simp [later, Operation.removes]
  have created : create {} 1 = .ok start := rfl
  have counted : ∀ package, index.packageUsage package =
      (index.allRecords.countP fun record => record.packageName == package) +
        later.countP (Operation.adds package) := by
    have all := (packages_counted created (earlier ++ .build tree ⟨"src"⟩ :: later)).2.2.2.1
    rw [recent] at all
    exact all noneRemoved
  have records : (index.allRecords.countP fun record => record.packageName == "p") = 0 ∧
      (index.allRecords.countP fun record => record.packageName == "q") = 1 := by
    decide +kernel
  refine ⟨recent, noneRemoved, ?_, ?_⟩
  · rw [counted, records.1]
    rfl
  · rw [counted, records.2]
    rfl

end Index

end JavaIndex
