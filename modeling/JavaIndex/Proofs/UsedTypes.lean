import JavaIndex.Proofs.Registration

/-!
# The types that a record uses

A record is resolved in one go, against the names known at that time; a reference can also
be asked about later, one at a time and in the context of its file. After a build both give
the same: every name is entered before the first record is resolved, and resolving changes
no name. The same goes for a record that has just been registered, since its own names are
entered first.

What a list of answers is collected into is a set: one type for each name, and of several
answers with one name the last.

## Main definitions

* `TypeSet.IsLast`, `TypeSet.Collects` — the last answer of its name, and a set of all those
* `Index.UsesAnswers` — a record uses what its references stand for, asked one by one

## Main results

* `TypeSet.mem_ofList`, `TypeSet.collects_iff` — what a list of types is collected into
* `Index.used_answered` — the types used after a build and after a registration
-/

namespace JavaIndex

/-! ### Collecting types -/

namespace TypeSet

variable {type first other : QualifiedType} {types left right : TypeSet}
  {answers : List QualifiedType}

/-- The type is the last one of its name in a list. -/
def IsLast (type : QualifiedType) (answers : List QualifiedType) : Prop :=
  ∃ earlier later, answers = earlier ++ type :: later ∧ ∀ other ∈ later, other.name ≠ type.name

/-- The set has one type for each name in a list, the last one. -/
structure Collects (types : TypeSet) (answers : List QualifiedType) : Prop where
  increasing : types.Increasing
  entries : ∀ type, type ∈ types ↔ IsLast type answers

theorem not_isLast_nil (type : QualifiedType) : ¬ IsLast type [] := by
  rintro ⟨earlier, later, split, -⟩
  simp at split

theorem isLast_cons : IsLast type (first :: answers) ↔
    IsLast type answers ∨ type = first ∧ ∀ other ∈ answers, other.name ≠ type.name := by
  constructor
  · rintro ⟨earlier, later, split, last⟩
    cases earlier with
    | nil =>
      obtain ⟨rfl, rfl⟩ := List.cons.inj split
      exact .inr ⟨rfl, last⟩
    | cons _ earlier =>
      obtain ⟨-, split⟩ := List.cons.inj split
      exact .inl ⟨earlier, later, split, last⟩
  · rintro (⟨earlier, later, rfl, last⟩ | ⟨rfl, last⟩)
    · exact ⟨first :: earlier, later, rfl, last⟩
    · exact ⟨[], answers, rfl, last⟩

theorem name_ne_of_compare (less : type.compare other = .lt) : other.name ≠ type.name := by
  intro same
  have equal : type.compare other = .eq := Text.compare_eq_iff.mpr same.symm
  rw [equal] at less
  cases less

/-- A type that is added takes the place of the one with its name. -/
theorem mem_insert (increasing : Increasing types) :
    other ∈ insert type types ↔ other = type ∨ other ∈ types ∧ other.name ≠ type.name := by
  induction types with
  | nil => simp [insert]
  | cons head rest ih =>
    obtain ⟨ahead, behind⟩ := List.pairwise_cons.mp increasing
    unfold insert
    split
    · rename_i less
      have differ : ∀ other ∈ head :: rest, other.name ≠ type.name := by
        intro other member
        apply name_ne_of_compare
        rcases List.mem_cons.mp member with rfl | later
        · exact less
        · exact @Std.TransCmp.lt_trans _ Text.compare _ _ _ _ less (ahead other later)
      rw [List.mem_cons]
      exact or_congr_right (and_iff_left_of_imp (differ other)).symm
    · rename_i equal
      have named : type.name = head.name := Text.compare_eq_iff.mp equal
      have differ : ∀ other ∈ rest, other.name ≠ type.name := by
        intro other later
        rw [named]
        exact name_ne_of_compare (ahead other later)
      rw [List.mem_cons, List.mem_cons]
      constructor
      · exact Or.imp_right fun later => ⟨.inr later, differ other later⟩
      · rintro (same | ⟨rfl | later, different⟩)
        · exact .inl same
        · exact absurd named.symm different
        · exact .inr later
    · rename_i greater
      have differs : head.name ≠ type.name := by
        intro same
        have equal : type.compare head = .eq := Text.compare_eq_iff.mpr same.symm
        rw [equal] at greater
        cases greater
      rw [List.mem_cons, ih behind, List.mem_cons]
      constructor
      · rintro (rfl | same | ⟨later, different⟩)
        · exact .inr ⟨.inl rfl, differs⟩
        · exact .inl same
        · exact .inr ⟨.inr later, different⟩
      · rintro (same | ⟨rfl | later, different⟩)
        · exact .inr (.inl same)
        · exact .inl rfl
        · exact .inr (.inr ⟨later, different⟩)

theorem mem_foldl_insert {start : TypeSet} (increasing : Increasing start) :
    type ∈ answers.foldl (fun set type => insert type set) start ↔
      IsLast type answers ∨ type ∈ start ∧ ∀ other ∈ answers, other.name ≠ type.name := by
  -- The start is general, since each type added may take the place of an earlier one.
  induction answers generalizing start with
  | nil => simp [not_isLast_nil]
  | cons first rest ih =>
    rw [List.foldl_cons, ih (increasing_insert first increasing), mem_insert increasing,
      isLast_cons, List.forall_mem_cons]
    constructor
    · rintro (last | ⟨same | ⟨before, differs⟩, later⟩)
      · exact .inl (.inl last)
      · exact .inl (.inr ⟨same, later⟩)
      · exact .inr ⟨before, Ne.symm differs, later⟩
    · rintro ((last | ⟨same, later⟩) | ⟨before, differs, later⟩)
      · exact .inl last
      · exact .inr ⟨.inl same, later⟩
      · exact .inr ⟨.inr ⟨before, Ne.symm differs⟩, later⟩

/-- Of several types with one name the last one stays, and no name is lost. -/
theorem mem_ofList : type ∈ ofList answers ↔ IsLast type answers := by
  rw [ofList, mem_foldl_insert List.Pairwise.nil]
  simp

/-- Sets with the same members are equal. -/
theorem Increasing.eq_of_mem_iff (increasing : Increasing left) (increasing' : Increasing right)
    (same : ∀ type, type ∈ left ↔ type ∈ right) : left = right := by
  have reordered : left.Perm right :=
    (List.perm_ext_iff_of_nodup increasing.nodup_names.of_map increasing'.nodup_names.of_map).mpr
      same
  refine List.Perm.eq_of_pairwise (fun one two _ _ less greater => ?_) increasing increasing'
    reordered
  exact absurd greater (@Std.OrientedCmp.not_lt_of_lt _ Text.compare _ _ _ less)

/-- A list of types is collected into one set and no other. -/
theorem collects_iff : Collects types answers ↔ types = ofList answers := by
  constructor
  · intro collects
    apply collects.increasing.eq_of_mem_iff (increasing_ofList answers)
    intro type
    rw [collects.entries, mem_ofList]
  · rintro rfl
    exact ⟨increasing_ofList answers, fun type => mem_ofList⟩

end TypeSet

/-! ### Used types and single answers -/

namespace Index

variable {index : Index} {record : Record}

/-- A record is resolved, and the types that it uses are collected from what its references
stand for when they are asked one by one, in order, under any spelling of its path. -/
structure UsesAnswers (index : Index) (record : Record) : Prop where
  resolved : index.isResolved record = true
  collected : ∀ path : Path, path.components = record.key →
    ∃ answers, record.references.map (index.resolveIn? path) = answers.map some ∧
      TypeSet.Collects (index.usedTypes record) answers

/-- A record on file that was resolved against the names as they are uses what its
references stand for. -/
theorem usesAnswers_of_resolved (filed : index.tables.records.get? record.key = some record)
    (used : index.usedBy? record = some (record.resolveWith index.known)) :
    index.UsesAnswers record := by
  constructor
  case resolved => rw [isResolved, used, Option.isSome_some]
  case collected =>
    intro path spelled
    refine ⟨record.references.map fun reference => resolve reference record.context index.known,
      ?_, ?_⟩
    · rw [List.map_map]
      apply List.map_congr_left
      intro reference _
      rw [resolveIn?, byPath?, spelled, filed]
      rfl
    · rw [TypeSet.collects_iff, Index.usedTypes, used]
      rfl

/-- After a build every record uses what its references stand for in the index that the
build leaves behind, whether or not the post-processor panicked on it. The same holds of a
record that has just been registered, whatever the index was before. -/
theorem used_answered (index : Index) :
    (∀ tree root stats built, index.build tree root = (.ok stats, built) →
        ∀ record, built.tables.Holds record → built.UsesAnswers record) ∧
      ∀ operation record, index.registered? operation = some record →
        (index.perform operation).UsesAnswers record := by
  constructor
  · intro tree root stats built result record held
    obtain ⟨entries, folder, -, rfl⟩ := build_eq_ok.mp result
    have distinct := nodup_discover_files index.config.exclusions root
      (FileTree.wellNamed_folderAt? folder)
    apply usesAnswers_of_resolved
    · exact (Sound.afterPhases index tree distinct).holds_iff.mp held
    · exact usedBy?_afterPhases index tree distinct held
  · intro operation record registered
    have registers := registers_of_registered registered
    apply usesAnswers_of_resolved
    · rw [registers.tables, enter_tables, Tables.records_insert, if_pos rfl]
    · exact registers.usedBy?_self

/-- A file that finds a type in a package that comes later, while the post-processor panics
on everything; and a file registered afterwards. -/
theorem used_answered_star :
    let sources : List Entry :=
      [.folder "a" [.file "A.java" "package a; import b.*; class A \x7b B b; \x7d".toUTF8],
        .folder "b" [.file "B.java" "package b; class B \x7b\x7d".toUTF8]]
    let tree : FileTree := ⟨⟨"/"⟩, [.folder "src" sources], by decide⟩
    let config : Config := { postProcessor := some fun _ _ => some (.text "post failed") }
    let index : Index := ⟨config, 1, Tables.empty, #[], []⟩
    let registration : Operation := .registerSource ⟨"src/C.java"⟩ "class C \x7b C c; \x7d"
    ∃ stats built record, index.build tree ⟨"src"⟩ = (.ok stats, built) ∧
      built.byPath? ⟨"src/a/A.java"⟩ = some record ∧ built.UsesAnswers record ∧
      built.usedTypes record = [⟨"b.B", .projectReference⟩] ∧
      ∃ registered, index.registered? registration = some registered ∧
        (index.perform registration).UsesAnswers registered := by
  intro sources tree config index registration
  have folder : tree.folderAt? ⟨"src"⟩ = some sources := FileTree.folderAt?_only tree.named
  have files : (discover [] ⟨"src"⟩ sources).files = [⟨"src/a/A.java"⟩, ⟨"src/b/B.java"⟩] :=
    discover_files_of_pairwise (by decide +kernel) (by decide +kernel)
  obtain ⟨afterBuild, afterRegistration⟩ := used_answered index
  let built := index.afterPhases tree (discover [] ⟨"src"⟩ sources).files
  have result : index.build tree ⟨"src"⟩ = (.ok _, built) := build_of_folder index folder
  have tables : built.tables = (index.newRecords tree
      [⟨"src/a/A.java"⟩, ⟨"src/b/B.java"⟩]).foldl Tables.insert Tables.empty := by
    rw [← files]
    exact afterPhases_tables index tree _
  have evaluated : (built.byPath? ⟨"src/a/A.java"⟩).map (fun record =>
        (record.key, record.references)) =
          some (Path.components ⟨"src/a/A.java"⟩, [.classOrInterface "B"]) ∧
      built.resolveIn? ⟨"src/a/A.java"⟩ (.classOrInterface "B") =
        some ⟨"b.B", .projectReference⟩ := by
    rw [resolveIn?, known, byPath?, tables]
    decide +kernel
  obtain ⟨onFile, answer⟩ := evaluated
  obtain ⟨record, found, contents⟩ := Option.map_eq_some_iff.mp onFile
  obtain ⟨key, references⟩ := Prod.mk.inj contents
  have uses := afterBuild tree ⟨"src"⟩ _ built result record ⟨_, found⟩
  refine ⟨_, built, record, result, found, uses, ?_, ?_⟩
  · obtain ⟨answers, asked, collects⟩ := uses.collected ⟨"src/a/A.java"⟩ key.symm
    rw [references, List.map_singleton, answer] at asked
    obtain rfl : answers = [⟨"b.B", .projectReference⟩] :=
      (List.map_inj_right fun _ _ => Option.some.inj).mp asked.symm
    rw [TypeSet.collects_iff.mp collects]
    rfl
  · have succeeds : (index.registered? registration).isSome = true := by decide +kernel
    obtain ⟨registered, entered⟩ := Option.isSome_iff_exists.mp succeeds
    exact ⟨registered, entered, afterRegistration registration registered entered⟩

end Index

end JavaIndex
