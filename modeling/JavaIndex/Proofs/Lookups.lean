import JavaIndex.Index.Queries
import JavaIndex.Proofs.Build
import JavaIndex.Proofs.Cuts

/-!
# Looking up types

Types are listed under the names they are declared with. A lookup takes a name for a
binary one and asks for what stands in front of the first `$`, which is the name itself if
it has no `$`. A `$` may also be part of an identifier, though; then the lookup asks for
another name than the one that is listed, and gives the least file that declares that other
name, or nothing if there is none.

## Main definitions

* `Index.FindsOwner` — looking up a type gives the record that answers for it

## Main results

* `Index.mem_allTypes` — the types listed
* `Tables.Describes.owner_iff` — which record answers for a name after a build
* `Index.findsOwner_listed` — for which of the types listed the lookup gives the right record
-/

namespace JavaIndex

/-! ### Types listed -/

namespace TypeSet

variable {type : QualifiedType} {name : String}

theorem name_mem_insert (type : QualifiedType) (types : TypeSet) :
    name ∈ (insert type types).map QualifiedType.name ↔
      name = type.name ∨ name ∈ types.map QualifiedType.name := by
  induction types with
  | nil => simp [insert]
  | cons head rest ih =>
    unfold insert
    split
    · simp
    · rename_i equal
      have same : type.name = head.name := Text.compare_eq_iff.mp equal
      simp [same]
    · rw [List.map_cons, List.mem_cons, ih, List.map_cons, List.mem_cons, or_left_comm]

theorem name_mem_foldl_insert (types start : List QualifiedType) :
    name ∈ (types.foldl (fun set type => insert type set) start).map QualifiedType.name ↔
      name ∈ types.map QualifiedType.name ∨ name ∈ start.map QualifiedType.name := by
  induction types generalizing start with
  | nil => simp
  | cons type rest ih =>
    rw [List.foldl_cons, ih, name_mem_insert, List.map_cons, List.mem_cons, or_left_comm, or_assoc]

/-- A set of types has all the names of the list it is made of. -/
theorem name_mem_ofList (types : List QualifiedType) :
    name ∈ (ofList types).map QualifiedType.name ↔ name ∈ types.map QualifiedType.name := by
  rw [ofList, name_mem_foldl_insert]
  simp

end TypeSet

namespace Index

variable {index : Index} {type : QualifiedType}

theorem tag_of_listed (listed : type ∈ index.allTypes) : type.tag = .projectReference := by
  obtain ⟨name, -, rfl⟩ := List.mem_map.mp (TypeSet.mem_of_mem_ofList listed)
  rfl

/-- The types listed are the names with an owner. -/
theorem mem_allTypes : type ∈ index.allTypes ↔
    type.tag = .projectReference ∧ ∃ owner, index.tables.owners.get? type.name = some owner := by
  have named : type.name ∈ index.allTypes.map QualifiedType.name ↔
      ∃ owner, index.tables.owners.get? type.name = some owner := by
    rw [allTypes, TypeSet.name_mem_ofList, List.map_map, ← Cache.mem_keys]
    simp
  rw [← named]
  constructor
  · exact fun listed => ⟨tag_of_listed listed, List.mem_map_of_mem listed⟩
  · rintro ⟨tagged, member⟩
    obtain ⟨other, listed, sameName⟩ := List.mem_map.mp member
    have sameTag : other.tag = type.tag := (tag_of_listed listed).trans tagged.symm
    obtain ⟨otherName, otherTag⟩ := other
    obtain rfl : otherName = type.name := sameName
    obtain rfl : otherTag = type.tag := sameTag
    exact listed

end Index

/-! ### Owners after a build -/

theorem Tables.Describes.eq_of_least {tables : Tables} {parser : Parser} {tree : FileTree}
    {files : List Path} {name : String} {record other : Record}
    (describes : tables.Describes parser tree files)
    (least : LeastDeclaring tables.Holds name record)
    (least' : LeastDeclaring tables.Holds name other) : record = other := by
  have sameKey : record.key = other.key := Path.components_eq_of_le_of_le
    (least.least other least'.member least'.declares)
    (least'.least record least.member least.declares)
  obtain ⟨key, found⟩ := least.member
  obtain ⟨key', found'⟩ := least'.member
  have same : key = key' := by
    rw [← describes.key_of_held found, sameKey, describes.key_of_held found']
  exact Option.some.inj (found.symm.trans (same ▸ found'))

/-- The record that answers for a name is the least one that declares it. -/
theorem Tables.Describes.owner_iff {tables : Tables} {parser : Parser} {tree : FileTree}
    {files : List Path} {name : String} {owner : Record}
    (describes : tables.Describes parser tree files) :
    tables.owners.get? name = some owner ↔ LeastDeclaring tables.Holds name owner := by
  constructor
  · exact describes.owners name owner
  · intro least
    obtain ⟨current, owned⟩ := (describes.names name).mpr ⟨owner, least.member, least.declares⟩
    rw [owned, describes.eq_of_least (describes.owners name current owned) least]

namespace Index

variable {index built : Index} {type : QualifiedType} {tree : FileTree} {root : Path}
  {entries : List Entry}

/-- Looking up a type gives a record, namely the one that answers for the type; so it
declares the type. -/
def FindsOwner (index : Index) (type : QualifiedType) : Prop :=
  ∃ record, index.byType? type = some record ∧
    index.tables.owners.get? type.name = some record ∧ record.declares type.name = true

theorem byType?_of_notMem (index : Index) (absent : '$' ∉ type.name.toList) :
    index.byType? type = index.tables.owners.get? type.name := by
  rw [byType?, QualifiedType.outer]
  exact congrArg _ (Text.beforeFirst_of_notMem absent)

theorem byType?_of_front {front rest : String} (index : Index)
    (spelled : type.name = front ++ "$" ++ rest) (absent : '$' ∉ front.toList) :
    index.byType? type = index.tables.owners.get? front := by
  rw [byType?, QualifiedType.outer, spelled]
  exact congrArg _ (Text.beforeFirst_append absent rest)

/-- After a build, the types listed are those that a record declares. Looking up a name
without `$` gives the record that answers for it. Looking up a name with `$` gives the
least record that declares what stands in front of the first `$`; this is the record that
answers for the name if and only if that file comes first for both names. -/
theorem findsOwner_listed (index : Index) (folder : tree.folderAt? root = some entries) :
    ∃ stats built, index.build tree root = (.ok stats, built) ∧
      (∀ type, type ∈ built.allTypes ↔ type.tag = .projectReference ∧
        ∃ record, built.tables.Holds record ∧ record.declares type.name = true) ∧
      ∀ type ∈ built.allTypes,
        ('$' ∉ type.name.toList → built.FindsOwner type) ∧
        ∀ front rest, type.name = front ++ "$" ++ rest → '$' ∉ front.toList →
          (∀ record, built.byType? type = some record ↔
            Tables.LeastDeclaring built.tables.Holds front record) ∧
          (built.FindsOwner type ↔
            ∃ record, Tables.LeastDeclaring built.tables.Holds front record ∧
              Tables.LeastDeclaring built.tables.Holds type.name record) := by
  have distinct := nodup_discover_files index.config.exclusions root
    (FileTree.wellNamed_folderAt? folder)
  have describes := (builtFrom_afterPhases index tree distinct).describes
  refine ⟨_, _, build_of_folder index folder, fun type => ?_, fun type listed => ⟨?_, ?_⟩⟩
  · rw [mem_allTypes, describes.names]
  · intro absent
    obtain ⟨owner, owned⟩ := (mem_allTypes.mp listed).2
    exact ⟨owner, by rw [byType?_of_notMem _ absent, owned], owned,
      (describes.owners _ owner owned).declares⟩
  · intro front rest spelled absent
    have found := byType?_of_front (index.afterPhases tree
      (discover index.config.exclusions root entries).files) spelled absent
    rw [found]
    refine ⟨fun record => describes.owner_iff, ?_⟩
    simp only [FindsOwner, found, describes.owner_iff]
    constructor
    · rintro ⟨record, front, least, -⟩
      exact ⟨record, front, least⟩
    · rintro ⟨record, front, least⟩
      exact ⟨record, front, least, least.declares⟩

/-- Two classes with a `$` in their names. The lookup cuts both names; the front of one
names a class of the same file, the front of the other one names nothing. -/
theorem findsOwner_listed_dollar :
    let sources : List Entry :=
      [.file "A.java" "class A \x7b class B \x7b\x7d class B$C \x7b\x7d class D$E \x7b\x7d \x7d".toUTF8]
    let tree : FileTree := ⟨⟨"/"⟩, [.folder "src" sources], by decide⟩
    let index : Index := ⟨{}, 1, Tables.empty, #[], []⟩
    let lucky : QualifiedType := ⟨"A.B$C", .projectReference⟩
    let lost : QualifiedType := ⟨"A.D$E", .projectReference⟩
    ∃ stats built, index.build tree ⟨"src"⟩ = (.ok stats, built) ∧
      lucky ∈ built.allTypes ∧ built.FindsOwner lucky ∧
      lost ∈ built.allTypes ∧ built.byType? lost = none ∧ ¬ built.FindsOwner lost := by
  intro sources tree index lucky lost
  have folder : tree.folderAt? ⟨"src"⟩ = some sources := FileTree.folderAt?_only tree.named
  obtain ⟨stats, built, result, -, finds⟩ := findsOwner_listed index folder
  have state : built = (index.build tree ⟨"src"⟩).2 := by rw [result]
  have evaluated : (lucky ∈ built.allTypes ∧
        (built.byType? lucky).map (fun record => record.declares "A.B$C") = some true ∧
        built.byType? lucky = built.tables.owners.get? "A.B$C") ∧
      lost ∈ built.allTypes ∧ built.byType? lost = none := by
    rw [state]
    decide +kernel
  obtain ⟨⟨listed, declared, agrees⟩, listed', nothing⟩ := evaluated
  obtain ⟨record, found, declares⟩ := Option.map_eq_some_iff.mp declared
  obtain ⟨answer, right⟩ := (finds lost listed').2 "A.D" "E" rfl (by decide)
  refine ⟨stats, built, result, listed, ⟨record, found, agrees ▸ found, declares⟩, listed',
    nothing, ?_⟩
  rw [right]
  rintro ⟨record, least, -⟩
  rw [← answer, nothing] at least
  cases least

end Index

end JavaIndex
