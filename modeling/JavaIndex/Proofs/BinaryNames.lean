import JavaIndex.Proofs.Lookups

/-!
# Looking up binary names

A file gives each type that it declares a binary name: the primary type keeps its name, an
inner type has its nested part behind a `$`. A lookup by a binary name asks for the
primary type and for nothing else, while a name belongs to the least file that declares
that very name. So the two forms of a name can lead to different files: where several
files declare one primary type, an inner type that the least of them lacks belongs to
another one, and its binary name does not lead there.

## Main results

* `Outline.exists_binaryName?` — every declared type has a binary name, and which
* `Index.byType?_binaryName` — a binary name is looked up as the primary type
* `Index.binary_lookup_listed` — where the binary form of a listed type leads, and when it
  leads to the file of the type
-/

namespace JavaIndex

/-! ### Taking off a front -/

theorem Text.dropLead_append (lead rest : String) : dropLead lead (lead ++ rest) = some rest := by
  have fits : lead.toList.isPrefixOf (lead ++ rest).toList = true := by
    rw [List.isPrefixOf_iff_prefix, String.toList_append]
    exact List.prefix_append _ _
  have behind : (lead ++ rest).toList.drop lead.length = rest.toList := by
    rw [String.toList_append, ← String.length_toList, List.drop_left]
  rw [dropLead, if_pos fits, behind, String.ofList_toList]

/-! ### Binary names of declared types -/

namespace Outline

variable {parser : Parser} {path : Path} {source name : String} {outline : Outline}
  {type binary : QualifiedType}

/-- Every inner type continues the name of the primary type. -/
theorem exists_nested (built : ofSource parser path source = .ok outline)
    (isInner : type ∈ outline.inner) :
    ∃ nested, type.name = outline.primary.name ++ "." ++ nested := by
  obtain ⟨root, -, made⟩ := ofSource_eq_ok.mp built
  obtain ⟨declared, -, rfl⟩ := ofTree_eq_ok.mp made
  obtain ⟨nested, -, rfl⟩ := List.mem_map.mp (TypeSet.mem_of_mem_ofList isInner)
  exact ⟨nested, rfl⟩

theorem nestedPart?_of_nested {nested : String}
    (spelled : name = outline.primary.name ++ "." ++ nested) :
    outline.nestedPart? name = some nested := by
  rw [nestedPart?, spelled, String.append_assoc, Text.dropLead_append]
  exact Text.dropLead_append "." nested

/-- The binary name of a declared type: that of the primary type itself, or the nested part
of an inner type behind a `$`. -/
theorem exists_binaryName? (built : ofSource parser path source = .ok outline)
    (declares : outline.declares name = true) :
    ∃ binary, outline.binaryName? name = some binary ∧
      (name = outline.primary.name ∧ binary = outline.primary ∨
        ∃ nested, name = outline.primary.name ++ "." ++ nested ∧
          binary.name = outline.primary.name ++ "$" ++ Text.replaceAll '.' '$' nested) := by
  by_cases isPrimary : name = outline.primary.name
  · exact ⟨outline.primary, if_pos isPrimary, .inl ⟨isPrimary, rfl⟩⟩
  · have isInner : ∃ type ∈ outline.inner, type.name == name := by
      obtain ⟨type, declared, named⟩ := List.mem_map.mp (declares_iff.mp declares)
      rcases List.mem_cons.mp declared with rfl | isInner
      · exact absurd named.symm isPrimary
      · exact ⟨type, isInner, beq_iff_eq.mpr named⟩
    obtain ⟨type, found⟩ := Option.isSome_iff_exists.mp (List.find?_isSome.mpr isInner)
    have hit := List.find?_some found
    have named : type.name = name := beq_iff_eq.mp hit
    obtain ⟨nested, spelled⟩ := exists_nested built (List.mem_of_find?_eq_some found)
    refine ⟨⟨outline.primary.name ++ "$" ++ Text.replaceAll '.' '$' nested, type.tag⟩, ?_,
      .inr ⟨nested, named ▸ spelled, rfl⟩⟩
    rw [binaryName?, if_neg isPrimary, TypeSet.find?, found, Option.bind_some,
      nestedPart?_of_nested spelled]
    rfl

/-- A binary name is cut back to the primary type, unless there is a `$` in the name that it
was made of. -/
theorem outer_binaryName? (built : ofSource parser path source = .ok outline)
    (declares : outline.declares name = true) (plain : '$' ∉ name.toList)
    (isBinary : outline.binaryName? name = some binary) :
    binary.outer.name = outline.primary.name := by
  obtain ⟨other, isOther, shape⟩ := exists_binaryName? built declares
  obtain rfl : other = binary := Option.some.inj (isOther.symm.trans isBinary)
  rcases shape with ⟨rfl, rfl⟩ | ⟨nested, spelled, made⟩
  · exact Text.beforeFirst_of_notMem plain
  · have plainPrimary : '$' ∉ outline.primary.name.toList := by
      intro inside
      apply plain
      rw [spelled, String.append_assoc, String.toList_append]
      exact List.mem_append_left _ inside
    rw [QualifiedType.outer, made]
    exact Text.beforeFirst_append plainPrimary _

end Outline

/-! ### Lookups after a build -/

theorem Tables.Describes.exists_source {tables : Tables} {parser : Parser} {tree : FileTree}
    {files : List Path} {record : Record} (describes : tables.Describes parser tree files)
    (held : tables.Holds record) :
    ∃ path source, Outline.ofSource parser path source = .ok record.toOutline := by
  obtain ⟨key, filed⟩ := held
  obtain ⟨path, -, -, built⟩ :=
    (describes.records key record.toOutline).mp (by rw [filed]; rfl)
  obtain ⟨source, -, parsed⟩ := Outline.ofFile_eq_ok.mp built
  exact ⟨path, source, parsed⟩

namespace Index

variable {index : Index} {tree : FileTree} {root : Path} {entries : List Entry}

/-- A binary name is looked up as the primary type of the file that it comes from. -/
theorem byType?_binaryName {parser : Parser} {path : Path} {source name : String}
    {outline : Outline} {binary : QualifiedType} (index : Index)
    (built : Outline.ofSource parser path source = .ok outline)
    (declares : outline.declares name = true) (plain : '$' ∉ name.toList)
    (isBinary : outline.binaryName? name = some binary) :
    index.byType? binary = index.tables.owners.get? outline.primary.name := by
  rw [byType?, Outline.outer_binaryName? built declares plain isBinary]

/-- After a build, each type listed without a `$` in its name is found under its own name
with its owner, and has a binary name there. The binary name leads to the least file that
declares the owner's primary type. This is the owner itself if and only if no file that
declares the owner's primary type comes before the owner. -/
theorem binary_lookup_listed (index : Index) (folder : tree.folderAt? root = some entries) :
    ∃ stats built, index.build tree root = (.ok stats, built) ∧
      ∀ type ∈ built.allTypes, '$' ∉ type.name.toList →
        ∃ owner binary found,
          built.tables.owners.get? type.name = some owner ∧
          built.byType? type = some owner ∧
          owner.binaryName? type.name = some binary ∧
          built.byType? binary = some found ∧
          Tables.LeastDeclaring built.tables.Holds owner.primary.name found ∧
          (found = owner ↔ ∀ other, built.tables.Holds other →
            other.declares owner.primary.name = true → owner.path ≤ other.path) := by
  have distinct := nodup_discover_files index.config.exclusions root
    (FileTree.wellNamed_folderAt? folder)
  have describes := (builtFrom_afterPhases index tree distinct).describes
  refine ⟨_, _, build_of_folder index folder, fun type listed plain => ?_⟩
  obtain ⟨owner, owned⟩ := (mem_allTypes.mp listed).2
  obtain ⟨held, declares, -⟩ := describes.owners type.name owner owned
  obtain ⟨path, source, parsed⟩ := describes.exists_source held
  obtain ⟨binary, isBinary, -⟩ := Outline.exists_binaryName? parsed declares
  -- The owner declares its primary type, so there is a least file that does.
  have declaresPrimary : owner.declares owner.primary.name = true :=
    Outline.declares_iff.mpr (List.mem_map_of_mem List.mem_cons_self)
  obtain ⟨found, ownsPrimary⟩ :=
    (describes.names owner.primary.name).mpr ⟨owner, held, declaresPrimary⟩
  have least := describes.owner_iff.mp ownsPrimary
  refine ⟨owner, binary, found, owned, ?_, isBinary, ?_, least, ?_⟩
  · rw [byType?_of_notMem _ plain, owned]
  · rw [byType?_binaryName _ parsed declares plain isBinary, ownsPrimary]
  · constructor
    · rintro rfl
      exact least.least
    · intro first
      exact describes.eq_of_least least ⟨held, declaresPrimary, first⟩

/-- Two files declare one class, and only the second one has a class nested in it. That
class belongs to the second file; its binary name leads to the first, which comes before. -/
theorem binary_lookup_listed_split :
    let sources : List Entry :=
      [.folder "a" [.file "T.java" "package p; class T \x7b\x7d".toUTF8],
        .folder "b" [.file "T.java" "package p; class T \x7b class I \x7b\x7d \x7d".toUTF8]]
    let tree : FileTree := ⟨⟨"/"⟩, [.folder "src" sources], by decide⟩
    let index : Index := ⟨{}, 1, Tables.empty, #[], []⟩
    let nested : QualifiedType := ⟨"p.T.I", .projectReference⟩
    ∃ stats built, index.build tree ⟨"src"⟩ = (.ok stats, built) ∧
      nested ∈ built.allTypes ∧ '$' ∉ nested.name.toList ∧
      ∃ owner binary found,
        built.byType? nested = some owner ∧ owner.path = ⟨"src/b/T.java"⟩ ∧
        owner.binaryName? nested.name = some binary ∧ binary.name = "p.T$I" ∧
        built.byType? binary = some found ∧ found.path = ⟨"src/a/T.java"⟩ ∧
        Tables.LeastDeclaring built.tables.Holds owner.primary.name found ∧
        found ≠ owner := by
  intro sources tree index nested
  have folder : tree.folderAt? ⟨"src"⟩ = some sources := FileTree.folderAt?_only tree.named
  have files : (discover [] ⟨"src"⟩ sources).files = [⟨"src/a/T.java"⟩, ⟨"src/b/T.java"⟩] :=
    discover_files_of_pairwise (by decide +kernel) (by decide +kernel)
  obtain ⟨stats, built, result, leads⟩ := binary_lookup_listed index folder
  have state : built = index.afterPhases tree (discover [] ⟨"src"⟩ sources).files :=
    congrArg Prod.snd (result.symm.trans (build_of_folder index folder))
  have tables : built.tables = (index.newRecords tree
      [⟨"src/a/T.java"⟩, ⟨"src/b/T.java"⟩]).foldl Tables.insert Tables.empty := by
    rw [state, afterPhases_tables, files]
  have evaluated : (built.tables.owners.get? "p.T.I").map (fun owner =>
        (owner.path, owner.binaryName? "p.T.I")) =
          some (⟨"src/b/T.java"⟩, some ⟨"p.T$I", .projectReference⟩) ∧
      (built.tables.owners.get? "p.T").map (fun found => found.path) =
        some ⟨"src/a/T.java"⟩ := by
    rw [tables]
    decide +kernel
  obtain ⟨ownerSays, foundSays⟩ := evaluated
  obtain ⟨current, owned, -⟩ := Option.map_eq_some_iff.mp ownerSays
  have listed : nested ∈ built.allTypes := mem_allTypes.mpr ⟨rfl, current, owned⟩
  obtain ⟨owner, binary, found, owns, byName, isBinary, byBinary, least, -⟩ :=
    leads nested listed (by decide)
  rw [owns, Option.map_some, isBinary] at ownerSays
  obtain ⟨ownerPath, rfl⟩ : owner.path = ⟨"src/b/T.java"⟩ ∧
      binary = ⟨"p.T$I", .projectReference⟩ := by simpa using ownerSays
  have foundPath : found.path = ⟨"src/a/T.java"⟩ := by
    have spelled : (⟨"p.T$I", .projectReference⟩ : QualifiedType).name = "p.T" ++ "$" ++ "I" := rfl
    rw [byType?_of_front built spelled (by decide)] at byBinary
    simpa [byBinary] using foundSays
  refine ⟨stats, built, result, listed, by decide, owner, _, found, byName, ownerPath, isBinary,
    rfl, byBinary, foundPath, least, ?_⟩
  rintro rfl
  rw [foundPath] at ownerPath
  exact absurd ownerPath (by decide)

end Index

end JavaIndex
