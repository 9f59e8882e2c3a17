import JavaIndex.Settings
import JavaIndex.Proofs.Isolation

/-!
# Exclusions act as a set

An exclusion is seen through the paths that it rejects and in no other way, so a list of
exclusions stands for the set of its conditions: neither their order matters nor whether one
of them is repeated, nor whether it comes from a settings file or from the caller.

Further exclusions only take files away. An index that is built with them is the index that
would be built without them if those files were not there: the types that the files declare
go to other files or are gone, and all references are resolved accordingly.

## Main definitions

* `rejectedBy` — one of some exclusions rejects a path
* `Includes` — a list of exclusions has every condition of another one
* `FileTree.deleteAll` — a tree without some files

## Main results

* `Includes.discover_files` — what is found with further exclusions
* `discover_deleteAll` — the discovery after files found were deleted
* `Index.alike_of_files` — a build depends on the files found, with what they hold
* `Index.build_exclusions` — builds with different exclusions
-/

namespace JavaIndex

variable {tree other : FileTree} {root path : Path} {entries entries' : List Entry}
  {exclusions few many : List Exclusion}

/-! ### What is found with further exclusions -/

/-- One of the exclusions rejects the path. -/
def rejectedBy (exclusions : List Exclusion) (path : Path) : Bool :=
  exclusions.any fun exclusion => exclusion.rejects path.text

/-- The first exclusions have every condition of the second ones. -/
def Includes (many few : List Exclusion) : Prop :=
  ∀ exclusion ∈ few, ∃ other ∈ many, other.rejects = exclusion.rejects

theorem isNone_skipReason? (exclusions : List Exclusion) (path : Path) :
    (skipReason? exclusions path).isNone =
      (!path.isMarkerFile && !rejectedBy exclusions path) := by
  unfold skipReason? rejectedBy
  cases path.isMarkerFile with
  | true => rfl
  | false =>
    rw [Bool.eq_iff_iff]
    simp

namespace Includes

theorem rejected (includes : Includes many few) (rejects : rejectedBy few path = true) :
    rejectedBy many path = true := by
  obtain ⟨exclusion, member, rejects⟩ := List.any_eq_true.mp rejects
  obtain ⟨other, member', same⟩ := includes exclusion member
  exact List.any_eq_true.mpr ⟨other, member', same ▸ rejects⟩

/-- More exclusions keep a source if fewer keep it and none of the more rejects it. -/
theorem kept (includes : Includes many few) (path : Path) :
    (skipReason? many path).isNone =
      ((skipReason? few path).isNone && !rejectedBy many path) := by
  rw [isNone_skipReason?, isNone_skipReason?]
  cases rejects : rejectedBy few path with
  | false => simp
  | true => simp [includes.rejected rejects]

/-- Further exclusions take away the files that they reject and leave the others in order. -/
theorem discover_files (includes : Includes many few) (root : Path)
    (named : Entry.wellNamedList entries = true) :
    (discover many root entries).files =
      (discover few root entries).files.filter fun path => !rejectedBy many path := by
  have sources : keptSources many (filesBelow root entries) =
      (keptSources few (filesBelow root entries)).filter fun path => !rejectedBy many path := by
    rw [keptSources, keptSources]
    conv_rhs => rw [List.filter_filter]
    refine List.filter_congr fun path _ => ?_
    rw [includes.kept, Bool.and_comm]
  have perm : (discover many root entries).files.Perm
      ((discover few root entries).files.filter fun path => !rejectedBy many path) := by
    refine (perm_discover_files many root entries).trans ?_
    rw [sources]
    exact (perm_discover_files few root entries).symm.filter _
  exact eq_of_perm_of_increasing perm (discover_files_increasing many root named)
    ((discover_files_increasing few root named).filter _)

/-- The same conditions, in any order and any number, find the same files. -/
theorem discover_eq (includes : Includes many few) (included : Includes few many) (root : Path)
    (entries : List Entry) : discover many root entries = discover few root entries := by
  have keeps : (fun path => (skipReason? many path).isNone) =
      fun path => (skipReason? few path).isNone := by
    funext path
    have same : rejectedBy many path = rejectedBy few path :=
      Bool.eq_iff_iff.mpr ⟨included.rejected, includes.rejected⟩
    rw [isNone_skipReason?, isNone_skipReason?, same]
  rw [discover, discover, keeps]

end Includes

/-! ### Deleting several files -/

/-- The tree without the files at some paths. -/
def FileTree.deleteAll (tree : FileTree) (files : List Path) : FileTree :=
  files.foldl FileTree.delete tree

/-- After files found were deleted, the others are found, in the same order; they read as
before, and as many files are left out. -/
theorem discover_deleteAll {gone : List Path} (folder : tree.folderAt? root = some entries)
    (distinct : gone.Nodup)
    (found : ∀ file ∈ gone, file ∈ (discover exclusions root entries).files) :
    ∃ entries', (tree.deleteAll gone).folderAt? root = some entries' ∧
      discover exclusions root entries' =
        ⟨(discover exclusions root entries).files.filter fun path => path ∉ gone,
          (discover exclusions root entries).skipped⟩ ∧
      ∀ path ∈ (discover exclusions root entries').files,
        (tree.deleteAll gone).readFile path = tree.readFile path := by
  induction gone generalizing tree entries with
  | nil => exact ⟨entries, folder, by simp, fun _ _ => rfl⟩
  | cons file rest ih =>
    obtain ⟨notLater, restDistinct⟩ := List.nodup_cons.mp distinct
    obtain ⟨fileFound, restFound⟩ := List.forall_mem_cons.mp found
    obtain ⟨earlier, later, entries', folder', split, found', reads⟩ :=
      discover_delete folder fileFound
    have restFound' : ∀ other ∈ rest, other ∈ (discover exclusions root entries').files := by
      intro other member
      have among := restFound other member
      have differs : other ≠ file := fun same => notLater (same ▸ member)
      rw [split] at among
      rw [found']
      simpa [differs] using among
    obtain ⟨entries'', folder'', found'', reads''⟩ := ih folder' restDistinct restFound'
    refine ⟨entries'', folder'', ?_, fun path member => ?_⟩
    · have nodup : (earlier ++ file :: later).Nodup := by
        rw [← split]
        exact (nodup_discover_files exclusions root (FileTree.wellNamed_folderAt? folder)).of_map
      have alone : file ∉ earlier ++ later := (List.nodup_middle.mp nodup).notMem
      have filtered : (earlier ++ file :: later).filter (fun path => path ∉ file :: rest) =
          (earlier ++ later).filter fun path => path ∉ rest := by
        rw [List.filter_append, List.filter_cons_of_neg (by simp), ← List.filter_append]
        refine List.filter_congr fun path member => ?_
        have differs : path ≠ file := fun same => alone (same ▸ member)
        simp [differs]
      rw [found'', found', split, filtered]
    · have among : path ∈ earlier ++ later := by
        rw [found'', found'] at member
        exact List.mem_of_mem_filter member
      exact (reads'' path member).trans (reads path among)

/-! ### Exclusions that settings ask for -/

namespace Exclusion

variable {patterns : List String}

theorem mapM_ofPattern_cons {text : String} : (text :: patterns).mapM ofPattern = .ok exclusions ↔
    ∃ first later, ofPattern text = .ok first ∧ patterns.mapM ofPattern = .ok later ∧
      first :: later = exclusions := by
  rw [List.mapM_cons]
  cases ofPattern text with
  | error error => simp [bind, Except.bind]
  | ok first =>
    cases patterns.mapM ofPattern with
    | error error => simp [bind, Except.bind]
    | ok later => simp [bind, Except.bind, pure, Except.pure]

/-- A list of patterns is read if each of them can be read. -/
theorem exists_mapM_ofPattern : (∃ exclusions, patterns.mapM ofPattern = .ok exclusions) ↔
    ∀ text ∈ patterns, ∃ exclusion, ofPattern text = .ok exclusion := by
  induction patterns with
  | nil => simp [pure, Except.pure]
  | cons text rest ih =>
    rw [List.forall_mem_cons, ← ih]
    simp only [mapM_ofPattern_cons]
    constructor
    · rintro ⟨_, first, later, isFirst, isLater, -⟩
      exact ⟨⟨first, isFirst⟩, later, isLater⟩
    · rintro ⟨⟨first, isFirst⟩, later, isLater⟩
      exact ⟨_, first, later, isFirst, isLater, rfl⟩

theorem mem_of_mapM_ofPattern (read : patterns.mapM ofPattern = .ok exclusions)
    {exclusion : Exclusion} :
    exclusion ∈ exclusions ↔ ∃ text ∈ patterns, ofPattern text = .ok exclusion := by
  induction patterns generalizing exclusions with
  | nil =>
    obtain rfl : [] = exclusions := Except.ok.inj read
    simp
  | cons text rest ih =>
    obtain ⟨first, later, isFirst, isLater, rfl⟩ := mapM_ofPattern_cons.mp read
    simp [ih isLater, isFirst, eq_comm]

end Exclusion

namespace Settings

variable {settings settings' : Settings} {config config' : Config}

theorem toConfig_eq_ok : settings.toConfig = .ok config ↔
    ∃ exclusions, settings.exclude.mapM Exclusion.ofPattern = .ok exclusions ∧
      { threads := settings.threads, exclusions } = config := by
  unfold toConfig Config.withExclusions
  cases settings.exclude.mapM Exclusion.ofPattern with
  | error error => simp [Except.map]
  | ok exclusions => simp [Except.map]

/-- Settings whose patterns are all among those of others can be used if those can, and
exclude nothing beside them. -/
theorem toConfig_of_subset (configured : settings.toConfig = .ok config)
    (subset : settings'.exclude ⊆ settings.exclude) :
    ∃ config', settings'.toConfig = .ok config' ∧ config'.parser = config.parser ∧
      Includes config.exclusions config'.exclusions := by
  obtain ⟨exclusions, read, rfl⟩ := toConfig_eq_ok.mp configured
  have readable := Exclusion.exists_mapM_ofPattern.mp ⟨exclusions, read⟩
  obtain ⟨exclusions', read'⟩ := Exclusion.exists_mapM_ofPattern.mpr fun text member =>
    readable text (subset member)
  refine ⟨_, toConfig_eq_ok.mpr ⟨exclusions', read', rfl⟩, rfl, fun exclusion member => ?_⟩
  obtain ⟨text, written, isRead⟩ := (Exclusion.mem_of_mapM_ofPattern read').mp member
  exact ⟨exclusion, (Exclusion.mem_of_mapM_ofPattern read).mpr ⟨text, subset written, isRead⟩, rfl⟩

end Settings

namespace Index

/-! ### Builds with different exclusions -/

variable {built : Index} {parser : Parser} {files : List Path}

/-- What an index says of files does not depend on the tree that they are read from. -/
theorem BuiltFrom.congr (builtFrom : built.BuiltFrom parser tree files)
    (same : ∀ path ∈ files, tree.readFile path = other.readFile path) :
    built.BuiltFrom parser other files where
  records key outline := by
    rw [builtFrom.records]
    refine exists_congr fun path => and_congr_right fun member => ?_
    rw [Outline.ofFile_congr (same path member)]
  names := builtFrom.names
  owners := builtFrom.owners
  packages package := by rw [builtFrom.packages, outlinesOf_congr same]
  used := builtFrom.used

/-- Two builds that find the same files, with the same bytes, say the same. -/
theorem alike_of_files (left right : Index) (parser : left.config.parser = right.config.parser)
    (folder : tree.folderAt? root = some entries)
    (folder' : other.folderAt? root = some entries')
    (files : (discover left.config.exclusions root entries).files =
      (discover right.config.exclusions root entries').files)
    (reads : ∀ path ∈ (discover right.config.exclusions root entries').files,
      other.readFile path = tree.readFile path) :
    (left.build tree root).2.Alike (right.build other root).2 := by
  obtain ⟨stats, result⟩ := build_eq left folder
  obtain ⟨stats', result'⟩ := build_eq right folder'
  have distinct := nodup_discover_files right.config.exclusions root
    (FileTree.wellNamed_folderAt? folder')
  have exactly := builtFrom_afterPhases left tree (files ▸ distinct)
  have exactly' := (builtFrom_afterPhases right other distinct).congr reads
  rw [parser, files] at exactly
  rw [result, result', files]
  exact exactly.alike exactly'

/-- Further exclusions have the effect of deleting the files that they reject. -/
theorem build_deleteAll (fewer more : Index) (parser : fewer.config.parser = more.config.parser)
    (includes : Includes more.config.exclusions fewer.config.exclusions)
    (folder : tree.folderAt? root = some entries) :
    let extra := (discover fewer.config.exclusions root entries).files.filter
      (rejectedBy more.config.exclusions)
    ∃ stats built stats' built', more.build tree root = (.ok stats, built) ∧
      fewer.build (tree.deleteAll extra) root = (.ok stats', built') ∧ built.Alike built' := by
  intro extra
  have named := FileTree.wellNamed_folderAt? folder
  have nodup : (discover fewer.config.exclusions root entries).files.Nodup :=
    (nodup_discover_files _ root named).of_map
  have among : ∀ file ∈ extra, file ∈ (discover fewer.config.exclusions root entries).files :=
    fun file => List.mem_of_mem_filter
  obtain ⟨entries', folder', found', reads⟩ := discover_deleteAll folder (nodup.filter _) among
  -- Both ways the files are left that fewer exclusions keep and none of the more rejects.
  have files : (discover more.config.exclusions root entries).files =
      (discover fewer.config.exclusions root entries').files := by
    rw [includes.discover_files root named, found']
    refine List.filter_congr fun path member => ?_
    simp [member]
  obtain ⟨stats, result⟩ := build_eq more folder
  obtain ⟨stats', result'⟩ := build_eq fewer folder'
  have alike := alike_of_files more fewer parser.symm folder folder' files reads
  rw [result, result'] at alike
  exact ⟨stats, _, stats', _, result, result', alike⟩

theorem alike_of_includes (left right : Index) (parser : left.config.parser = right.config.parser)
    (includes : Includes left.config.exclusions right.config.exclusions)
    (included : Includes right.config.exclusions left.config.exclusions)
    (folder : tree.folderAt? root = some entries) :
    (left.build tree root).2.Alike (right.build tree root).2 := by
  have files := includes.discover_eq included root entries
  exact alike_of_files left right parser folder folder (by rw [files]) fun _ _ => rfl

/-- It does not matter which patterns come from the settings and which from the caller. -/
theorem alike_of_settings {settings settings' : Settings} {config : Config}
    (same : ∀ text, text ∈ settings.exclude ↔ text ∈ settings'.exclude)
    (configured : settings.toConfig = .ok config)
    (folder : tree.folderAt? root = some entries) :
    ∃ config', settings'.toConfig = .ok config' ∧
      ∀ left right : Index, left.config = config → right.config = config' →
        (left.build tree root).2.Alike (right.build tree root).2 := by
  obtain ⟨config', configured', parser, includes⟩ :=
    Settings.toConfig_of_subset configured fun text => (same text).mpr
  obtain ⟨_, configured'', -, included⟩ :=
    Settings.toConfig_of_subset configured' fun text => (same text).mp
  obtain rfl := Except.ok.inj (configured.symm.trans configured'')
  refine ⟨config', configured', ?_⟩
  rintro left right rfl rfl
  exact alike_of_includes left right parser.symm includes included folder

/-- Exclusions act as a set and only take files away. With further exclusions, those of the
files are found that none of them rejects, in the same order; found and left out are as many
sources as before; and the index is the one that is built with the fewer exclusions after the
files rejected were deleted. So the order of exclusions does not matter, nor does it matter
whether one is repeated or comes from the settings or from the caller. -/
theorem build_exclusions (folder : tree.folderAt? root = some entries) :
    (∀ fewer more : Index, fewer.config.parser = more.config.parser →
      Includes more.config.exclusions fewer.config.exclusions →
        let found := discover fewer.config.exclusions root entries
        let found' := discover more.config.exclusions root entries
        let extra := found.files.filter (rejectedBy more.config.exclusions)
        found'.files =
            (found.files.filter fun path => !rejectedBy more.config.exclusions path) ∧
          found'.files.length + found'.skipped = found.files.length + found.skipped ∧
          ∃ stats built stats' built', more.build tree root = (.ok stats, built) ∧
            fewer.build (tree.deleteAll extra) root = (.ok stats', built') ∧
            built.Alike built') ∧
      (∀ left right : Index, left.config.parser = right.config.parser →
        Includes left.config.exclusions right.config.exclusions →
        Includes right.config.exclusions left.config.exclusions →
          (left.build tree root).2.Alike (right.build tree root).2) ∧
      ∀ (settings settings' : Settings) (flags flags' : List String)
        (threads threads' : Option Nat) (config : Config),
        (∀ text, text ∈ settings.exclude ++ flags ↔ text ∈ settings'.exclude ++ flags') →
        (settings.merge flags threads).toConfig = .ok config →
          ∃ config', (settings'.merge flags' threads').toConfig = .ok config' ∧
            ∀ left right : Index, left.config = config → right.config = config' →
              (left.build tree root).2.Alike (right.build tree root).2 := by
  refine ⟨fun fewer more parser includes => ?_, fun left right parser includes included => ?_, ?_⟩
  · refine ⟨includes.discover_files root (FileTree.wellNamed_folderAt? folder), ?_,
      build_deleteAll fewer more parser includes folder⟩
    rw [length_discover, length_discover]
  · exact alike_of_includes left right parser includes included folder
  · intro settings settings' flags flags' threads threads' config same configured
    exact alike_of_settings same configured folder

/-- Two files declare a type, and an exclusion rejects the one that would have it. The same
patterns are split between settings and caller in two ways. -/
theorem build_exclusions_twins :
    let sources : List Entry := [.folder "a" [.file "T.java" "class T \x7b\x7d".toUTF8],
      .folder "b" [.file "T.java" "class T \x7b\x7d".toUTF8]]
    let tree : FileTree := ⟨⟨"/"⟩, [.folder "src" sources], by decide⟩
    let inA : Exclusion := ⟨"src/a/T.java", fun text => text == "src/a/T.java"⟩
    let fewer : Index := ⟨{}, 1, Tables.empty, #[], []⟩
    let more : Index := ⟨{ exclusions := [inA] }, 1, Tables.empty, #[], []⟩
    let twice : Index := ⟨{ exclusions := [inA, inA] }, 1, Tables.empty, #[], []⟩
    ((discover [] ⟨"src"⟩ sources).files = [⟨"src/a/T.java"⟩, ⟨"src/b/T.java"⟩] ∧
        (discover [inA] ⟨"src"⟩ sources).files = [⟨"src/b/T.java"⟩]) ∧
      (∃ stats built stats' built', more.build tree ⟨"src"⟩ = (.ok stats, built) ∧
        fewer.build (tree.deleteAll [⟨"src/a/T.java"⟩]) ⟨"src"⟩ = (.ok stats', built') ∧
        built.Alike built') ∧
      (more.build tree ⟨"src"⟩).2.Alike (twice.build tree ⟨"src"⟩).2 ∧
      ∃ config config', (Settings.merge ⟨["a/"], none⟩ ["b/"] none).toConfig = .ok config ∧
        (Settings.merge ⟨[], some 4⟩ ["b/", "a/", "b/"] none).toConfig = .ok config' ∧
        ∀ left right : Index, left.config = config → right.config = config' →
          (left.build tree ⟨"src"⟩).2.Alike (right.build tree ⟨"src"⟩).2 := by
  intro sources tree inA fewer more twice
  have folder : tree.folderAt? ⟨"src"⟩ = some sources := FileTree.folderAt?_only tree.named
  obtain ⟨fewerMore, repeating, moving⟩ := build_exclusions folder
  have files : (discover [] ⟨"src"⟩ sources).files = [⟨"src/a/T.java"⟩, ⟨"src/b/T.java"⟩] :=
    discover_files_of_pairwise (by decide +kernel) (by decide +kernel)
  obtain ⟨files', -, builds⟩ := fewerMore fewer more rfl (by simp [Includes, fewer])
  have rejected : (discover [] ⟨"src"⟩ sources).files.filter (rejectedBy [inA]) =
      [⟨"src/a/T.java"⟩] := by
    rw [files]
    decide +kernel
  have kept : (discover [] ⟨"src"⟩ sources).files.filter (fun path => !rejectedBy [inA] path) =
      [⟨"src/b/T.java"⟩] := by
    rw [files]
    decide +kernel
  have readable : ((Settings.merge ⟨["a/"], none⟩ ["b/"] none).toConfig.toOption).isSome =
      true := by decide +kernel
  cases configured : (Settings.merge ⟨["a/"], none⟩ ["b/"] none).toConfig with
  | error error =>
    rw [configured] at readable
    cases readable
  | ok config =>
    obtain ⟨config', configured', alike⟩ := moving _ ⟨[], some 4⟩ _ ["b/", "a/", "b/"] _ none
      config (by simp [or_comm]) configured
    refine ⟨⟨files, files'.trans kept⟩, rejected ▸ builds,
      repeating more twice rfl (by simp [Includes, more, twice]) (by simp [Includes, more, twice]),
      config, config', rfl, configured', alike⟩

end Index

end JavaIndex
