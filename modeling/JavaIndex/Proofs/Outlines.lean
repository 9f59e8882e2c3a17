import JavaIndex.Outline.Build
import JavaIndex.Proofs.PathOrder

/-!
# What an outline says

An outline that can be built carries the path it was built for, and the names of
its declared types are pairwise different: the inner types are a set ordered by
name, and each of their names continues the name of the primary type.

## Main results

* `TypeSet.increasing_ofList` — a set of types is strictly increasing by name
* `Outline.ofTree_eq_ok`, `Outline.ofSource_eq_ok`, `Outline.ofFile_eq_ok` — when an outline
  can be built, and which
* `Outline.nodup_declaredNames` — the declared names of a built outline differ
-/

namespace JavaIndex

/-! ### Sets of types -/

namespace TypeSet

/-- The types are strictly increasing by name. -/
def Increasing (types : TypeSet) : Prop :=
  types.Pairwise fun left right => left.compare right = .lt

theorem mem_of_mem_insert {type other : QualifiedType} {types : TypeSet}
    (member : other ∈ insert type types) : other = type ∨ other ∈ types := by
  induction types with
  | nil => simpa [insert] using member
  | cons head rest ih =>
    unfold insert at member
    split at member
    · simpa using member
    · rcases List.mem_cons.mp member with same | behind
      · exact .inl same
      · exact .inr (List.mem_cons_of_mem _ behind)
    · rcases List.mem_cons.mp member with same | behind
      · exact .inr (same ▸ List.mem_cons_self)
      · exact (ih behind).imp_right (List.mem_cons_of_mem _)

theorem increasing_insert {types : TypeSet} (type : QualifiedType) (increasing : Increasing types) :
    Increasing (insert type types) := by
  induction types with
  | nil => simp [insert, Increasing]
  | cons head rest ih =>
    obtain ⟨ahead, behind⟩ := List.pairwise_cons.mp increasing
    unfold insert
    split
    · rename_i less
      refine List.pairwise_cons.mpr ⟨?_, increasing⟩
      rintro other (_ | ⟨_, member⟩)
      · exact less
      · exact @Std.TransCmp.lt_trans _ Text.compare _ _ _ _ less (ahead other member)
    · rename_i equal
      refine List.pairwise_cons.mpr ⟨fun other member => ?_, behind⟩
      have named : type.name = head.name := Text.compare_eq_iff.mp equal
      rw [QualifiedType.compare, named]
      exact ahead other member
    · rename_i greater
      refine List.pairwise_cons.mpr ⟨fun other member => ?_, ih behind⟩
      rcases mem_of_mem_insert member with rfl | member
      · exact @Std.OrientedCmp.lt_of_gt _ Text.compare _ _ _ greater
      · exact ahead other member

theorem mem_of_mem_foldl_insert {other : QualifiedType} {types start : List QualifiedType}
    (member : other ∈ types.foldl (fun set type => insert type set) start) :
    other ∈ types ∨ other ∈ start := by
  induction types generalizing start with
  | nil => exact .inr member
  | cons type rest ih =>
    rcases ih member with later | before
    · exact .inl (List.mem_cons_of_mem _ later)
    · rcases mem_of_mem_insert before with same | before
      · exact .inl (same ▸ List.mem_cons_self)
      · exact .inr before

theorem mem_of_mem_ofList {type : QualifiedType} {types : List QualifiedType}
    (member : type ∈ ofList types) : type ∈ types := by
  simpa using mem_of_mem_foldl_insert member

theorem increasing_foldl_insert {start : TypeSet} (types : List QualifiedType)
    (increasing : Increasing start) :
    Increasing (types.foldl (fun set type => insert type set) start) := by
  induction types generalizing start with
  | nil => exact increasing
  | cons type rest ih => exact ih (increasing_insert type increasing)

/-- The set of a list of types is strictly increasing by name. -/
theorem increasing_ofList (types : List QualifiedType) : Increasing (ofList types) :=
  increasing_foldl_insert types List.Pairwise.nil

theorem Increasing.nodup_names {types : TypeSet} (increasing : Increasing types) :
    (types.map QualifiedType.name).Nodup := by
  rw [List.Nodup, List.pairwise_map]
  refine increasing.imp fun {left right} less same => ?_
  have equal : left.compare right = .eq := Text.compare_eq_iff.mpr same
  rw [equal] at less
  cases less

end TypeSet

/-! ### Building outlines -/

namespace Outline

variable {parser : Parser} {tree : FileTree} {path : Path} {source : String} {root : Java.Node}
  {outline : Outline}

/-- The outline of a file whose declared types are known. -/
def ofDeclared (path : Path) (root : Java.Node) (declared : Java.DeclaredTypes) : Outline where
  path := path
  primary := QualifiedType.inPackage (Java.packageName root) declared.primary
  inner := TypeSet.ofList (declared.inner.map fun name =>
    ⟨(QualifiedType.inPackage (Java.packageName root) declared.primary).name ++ "." ++ name,
      .projectReference⟩)
  context := ImportContext.ofImports (Java.packageName root) (Java.importsOf root)
  references := Java.typeReferences root

theorem ofTree_eq_ok : ofTree path root = .ok outline ↔
    ∃ declared, Java.declaredTypes? root path.stemText? = some declared ∧
      ofDeclared path root declared = outline := by
  unfold ofTree
  cases Java.declaredTypes? root path.stemText? with
  | none => simp
  | some declared => simp [ofDeclared]

theorem ofSource_eq_ok : ofSource parser path source = .ok outline ↔
    ∃ root, parser source = .ok root ∧ ofTree path root = .ok outline := by
  unfold ofSource
  cases parser source with
  | error failure => simp
  | ok root => cases made : ofTree path root <;> simp [made]

theorem ofFile_eq_ok : ofFile parser tree path = .ok outline ↔
    ∃ source, sourceOf tree path = .ok source ∧ ofSource parser path source = .ok outline := by
  unfold ofFile
  cases sourceOf tree path <;> simp

theorem path_ofSource (built : ofSource parser path source = .ok outline) :
    outline.path = path := by
  obtain ⟨root, -, made⟩ := ofSource_eq_ok.mp built
  obtain ⟨declared, -, rfl⟩ := ofTree_eq_ok.mp made
  rfl

theorem path_ofFile (built : ofFile parser tree path = .ok outline) : outline.path = path := by
  obtain ⟨source, -, made⟩ := ofFile_eq_ok.mp built
  exact path_ofSource made

/-- The names of a built outline's declared types are pairwise different. -/
theorem nodup_declaredNames (built : ofSource parser path source = .ok outline) :
    (outline.declaredTypes.map QualifiedType.name).Nodup := by
  obtain ⟨root, -, made⟩ := ofSource_eq_ok.mp built
  obtain ⟨declared, -, rfl⟩ := ofTree_eq_ok.mp made
  rw [declaredTypes, List.map_cons, List.nodup_cons]
  refine ⟨?_, (TypeSet.increasing_ofList _).nodup_names⟩
  intro member
  obtain ⟨type, isInner, named⟩ := List.mem_map.mp member
  obtain ⟨nested, -, rfl⟩ := List.mem_map.mp (TypeSet.mem_of_mem_ofList isInner)
  have lengths := congrArg String.length named
  have dot : ".".length = 1 := rfl
  simp only [String.length_append, dot, ofDeclared] at lengths
  omega

end Outline

end JavaIndex
