import JavaIndex.Proofs.Cuts
import JavaIndex.QualifiedType

/-!
# The parts of a name

Any text can stand as the name of a type: separators may come first or last, several in a row,
and a `$` may be in front of a dot. Whatever the text, the outer type is what stands in front of
the first `$`, the package what stands in front of the last dot, and the simple name what stands
behind the last separator of either kind.

## Main definitions

* `QualifiedType.HasFront` — what stands in front of the first `$` of a name
* `QualifiedType.Decomposes` — how the parts of a name belong to the name

## Main results

* `QualifiedType.outer_name_iff` — the outer type is named by the front
* `QualifiedType.exists_simpleName` — the simple name ends the name, behind a separator
* `QualifiedType.name_decomposes` — every name decomposes, and a name put together from a package
  and a simple name comes apart again
-/

namespace JavaIndex.QualifiedType

variable {type : QualifiedType} {front : String}

/-! ### The outer type -/

/-- The front of a name is without `$`, and the name goes on with a `$` if it goes on. -/
def HasFront (type : QualifiedType) (front : String) : Prop :=
  '$' ∉ front.toList ∧ (type.name = front ∨ ∃ rest, type.name = front ++ "$" ++ rest)

theorem hasFront_outer (type : QualifiedType) : type.HasFront type.outer.name :=
  ⟨Text.notMem_beforeFirst '$' type.name, Text.beforeFirst_cases '$' type.name⟩

/-- The outer type is named by the front, and by nothing else. -/
theorem outer_name_iff : type.outer.name = front ↔ type.HasFront front := by
  constructor
  · rintro rfl
    exact hasFront_outer type
  · rintro ⟨plain, named | ⟨rest, named⟩⟩
    · rw [outer, named]
      exact Text.beforeFirst_of_notMem plain
    · rw [outer, named]
      exact Text.beforeFirst_append plain rest

theorem outer_outer (type : QualifiedType) : type.outer.outer = type.outer := by
  have same : type.outer.outer.name = type.outer.name :=
    outer_name_iff.mpr ⟨(hasFront_outer type).1, .inl rfl⟩
  exact congrArg (fun name => QualifiedType.mk name type.tag) same

/-! ### The package and the simple name -/

theorem packageName_of_dotted (dotted : '.' ∈ type.name.toList) :
    ∃ last, type.name = type.packageName ++ "." ++ last ∧ '.' ∉ last.toList := by
  rcases Text.last_cases '.' type.name with undotted | ⟨front, last, named, plain⟩
  · exact absurd dotted undotted
  · refine ⟨last, ?_, plain⟩
    rw [packageName, named, Text.beforeLast_append front plain]
    rfl

theorem notMem_simpleName (type : QualifiedType) :
    '.' ∉ type.simpleName.toList ∧ '$' ∉ type.simpleName.toList := by
  refine ⟨fun dotted => ?_, Text.notMem_afterLast '$' _⟩
  obtain ⟨front, split, -⟩ := Text.exists_afterLast '$' (Text.afterLast '.' type.name)
  apply Text.notMem_afterLast '.' type.name
  rw [split, String.toList_append]
  exact List.mem_append_right _ dotted

/-- The simple name ends the name, and nothing but a separator is right before it. -/
theorem exists_simpleName (type : QualifiedType) :
    ∃ front, type.name = front ++ type.simpleName ∧
      ∀ c ∈ front.toList.getLast?, c = '.' ∨ c = '$' := by
  -- One cut leaves a front that ends in a dot, the other one a front that ends in `$`.
  obtain ⟨package, dotted, dot⟩ := Text.exists_afterLast '.' type.name
  obtain ⟨outers, nested, dollar⟩ := Text.exists_afterLast '$' (Text.afterLast '.' type.name)
  refine ⟨package ++ outers, ?_, fun c ends => ?_⟩
  · rw [String.append_assoc, simpleName, separator, ← nested, ← dotted]
  · rw [String.toList_append, List.getLast?_append, Option.mem_def,
      Option.or_eq_some_iff] at ends
    rcases ends with inOuters | ⟨-, inPackage⟩
    · exact .inr (dollar c inOuters)
    · exact .inl (dot c inPackage)

theorem packageName_inPackage (package : String) {name : String} (undotted : '.' ∉ name.toList) :
    (inPackage package name).packageName = package := by
  unfold packageName inPackage qualify
  split_ifs with isDefault
  · rw [Text.beforeLast_of_notMem undotted, isDefault]
  · exact Text.beforeLast_append package undotted

theorem simpleName_inPackage (package : String) {name : String} (undotted : '.' ∉ name.toList)
    (plain : '$' ∉ name.toList) : (inPackage package name).simpleName = name := by
  have last : Text.afterLast '.' (inPackage package name).name = name := by
    unfold inPackage qualify
    split_ifs with isDefault
    · exact Text.afterLast_of_notMem undotted
    · exact Text.afterLast_append package undotted
  rw [simpleName, last]
  exact Text.afterLast_of_notMem plain

/-! ### Decomposition -/

/-- The parts of a name belong to the name. -/
structure Decomposes (type : QualifiedType) : Prop where
  outer_front : type.HasFront type.outer.name
  outer_outer : type.outer.outer = type.outer
  outer_tag : type.outer.tag = type.tag
  package_undotted : '.' ∉ type.name.toList → type.packageName = ""
  package_dotted : '.' ∈ type.name.toList →
    ∃ last, type.name = type.packageName ++ "." ++ last ∧ '.' ∉ last.toList
  simple_plain : '.' ∉ type.simpleName.toList ∧ '$' ∉ type.simpleName.toList
  /-- The simple name is a suffix, and it cannot be longer. -/
  simple_last : ∃ front, type.name = front ++ type.simpleName ∧
    ∀ c ∈ front.toList.getLast?, c = '.' ∨ c = '$'

/-- Every name decomposes into its parts; and a name without separators that is put into a
package comes apart into the package and the name. -/
theorem name_decomposes (type : QualifiedType) : type.Decomposes ∧
    ∀ package name : String, '.' ∉ name.toList → '$' ∉ name.toList →
      (inPackage package name).packageName = package ∧
        (inPackage package name).simpleName = name := by
  refine ⟨?_, fun package name undotted plain =>
    ⟨packageName_inPackage package undotted, simpleName_inPackage package undotted plain⟩⟩
  exact
    { outer_front := hasFront_outer type
      outer_outer := outer_outer type
      outer_tag := rfl
      package_undotted := Text.beforeLast_of_notMem
      package_dotted := packageName_of_dotted
      simple_plain := notMem_simpleName type
      simple_last := exists_simpleName type }

/-- A name with a `$` in front of a dot and an empty segment, and a package that ends in
separators. -/
theorem name_decomposes_crowded :
    let type : QualifiedType := ⟨".a$b..C$D", .stdlibGuess⟩
    type.Decomposes ∧ type.outer = ⟨".a", .stdlibGuess⟩ ∧ type.packageName = ".a$b." ∧
      type.simpleName = "D" ∧ '.' ∉ "N".toList ∧ '$' ∉ "N".toList ∧
      (inPackage "p$." "N").packageName = "p$." ∧ (inPackage "p$." "N").simpleName = "N" := by
  intro type
  obtain ⟨decomposes, comesApart⟩ := name_decomposes type
  exact ⟨decomposes, by decide, by decide, by decide, by decide, by decide,
    comesApart "p$." "N" (by decide) (by decide)⟩

end JavaIndex.QualifiedType
