import JavaIndex.Proofs.BinaryNames
import JavaIndex.Proofs.PathHints

/-!
# Binary names as an encoding

A file gives a binary name to each of its own types and to no others. The binary name has `$`
where the name has dots behind the primary type, and dots where it has them in front: so once
there is no `$` in the names of the file, turning each `$` into a dot gives the name back, and what
stands in front of the first `$` is the primary type.

## Main definitions

* `Outline.Encodes` — the binary names of a file tell its types apart and lead to the file

## Main results

* `Outline.isSome_binaryName?` — which names have a binary form
* `Outline.replaceAll_binaryName?` — a binary name read back
* `Outline.binaryName?_faithful` — binary names are defined on the file's own types, and encode them
-/

namespace JavaIndex.Outline

variable {parser : Parser} {path : Path} {source name : String} {outline : Outline}
  {type binary : QualifiedType}

/-! ### Names with a binary form -/

theorem declares_of_binaryName? (isBinary : outline.binaryName? name = some binary) :
    outline.declares name = true := by
  rw [declares_iff]
  by_cases isPrimary : name = outline.primary.name
  · rw [isPrimary]
    exact List.mem_map_of_mem List.mem_cons_self
  · rw [binaryName?, if_neg isPrimary, Option.bind_eq_some_iff] at isBinary
    obtain ⟨type, found, -⟩ := isBinary
    have hit := List.find?_some found
    obtain rfl : type.name = name := beq_iff_eq.mp hit
    exact List.mem_map_of_mem (List.mem_cons_of_mem _ (List.mem_of_find?_eq_some found))

/-- The names with a binary form are those that the file declares. -/
theorem isSome_binaryName? (built : ofSource parser path source = .ok outline) (name : String) :
    (outline.binaryName? name).isSome = true ↔ outline.declares name = true := by
  rw [Option.isSome_iff_exists]
  constructor
  · rintro ⟨binary, isBinary⟩
    exact declares_of_binaryName? isBinary
  · intro declares
    obtain ⟨binary, isBinary, -⟩ := exists_binaryName? built declares
    exact ⟨binary, isBinary⟩

theorem declares_iff_exists : outline.declares name = true ↔
    name = outline.primary.name ∨ ∃ inner ∈ outline.inner, inner.name = name := by
  rw [declares_iff, declaredTypes, List.map_cons, List.mem_cons, List.mem_map]

/-! ### Reading a binary name -/

/-- All types that a file declares come from the project. -/
theorem tag_of_declared (built : ofSource parser path source = .ok outline)
    (declared : type ∈ outline.declaredTypes) : type.tag = .projectReference := by
  obtain ⟨root, -, made⟩ := ofSource_eq_ok.mp built
  obtain ⟨types, -, rfl⟩ := ofTree_eq_ok.mp made
  rcases List.mem_cons.mp declared with rfl | isInner
  · rfl
  · obtain ⟨nested, -, rfl⟩ := List.mem_map.mp (TypeSet.mem_of_mem_ofList isInner)
    rfl

theorem tag_binaryName? (built : ofSource parser path source = .ok outline)
    (isBinary : outline.binaryName? name = some binary) : binary.tag = .projectReference := by
  unfold binaryName? at isBinary
  split_ifs at isBinary with isPrimary
  · obtain rfl := Option.some.inj isBinary
    exact tag_of_declared built List.mem_cons_self
  · obtain ⟨type, found, isBinary⟩ := Option.bind_eq_some_iff.mp isBinary
    obtain ⟨nested, -, rfl⟩ := Option.map_eq_some_iff.mp isBinary
    have tagged : type.tag = .projectReference :=
      tag_of_declared built (List.mem_cons_of_mem _ (List.mem_of_find?_eq_some found))
    exact tagged

/-- With dots for `$`, a binary name is the name that it was made of. -/
theorem replaceAll_binaryName? (built : ofSource parser path source = .ok outline)
    (plain : '$' ∉ name.toList) (isBinary : outline.binaryName? name = some binary) :
    Text.replaceAll '$' '.' binary.name = name := by
  obtain ⟨other, isOther, shape⟩ := exists_binaryName? built (declares_of_binaryName? isBinary)
  obtain rfl : other = binary := Option.some.inj (isOther.symm.trans isBinary)
  rcases shape with ⟨rfl, rfl⟩ | ⟨nested, spelled, made⟩
  · exact Text.replaceAll_of_notMem plain
  · rw [spelled, String.toList_append, String.toList_append, List.mem_append, List.mem_append,
      not_or, not_or] at plain
    obtain ⟨⟨plainPrimary, -⟩, plainNested⟩ := plain
    have dot : Text.replaceAll '$' '.' "$" = "." := by decide
    -- The primary name has no `$` to turn; behind it, what was turned is turned back.
    rw [made, spelled, Text.replaceAll_append, Text.replaceAll_append, dot,
      Text.replaceAll_of_notMem plainPrimary, Text.replaceAll_replaceAll plainNested]

/-- Cut at its first `$`, a binary name is the primary type. -/
theorem outer_binaryName?_eq (built : ofSource parser path source = .ok outline)
    (plain : '$' ∉ name.toList) (isBinary : outline.binaryName? name = some binary) :
    binary.outer = outline.primary := by
  have named := outer_binaryName? built (declares_of_binaryName? isBinary) plain isBinary
  have tagged : binary.tag = outline.primary.tag := by
    rw [tag_binaryName? built isBinary, tag_of_declared built List.mem_cons_self]
  exact congrArg₂ QualifiedType.mk named tagged

/-! ### The encoding -/

/-- The binary names of a file tell its types apart, can be read back, and lead to the primary type
and where its source is looked for. -/
structure Encodes (outline : Outline) : Prop where
  injective : ∀ left ∈ outline.declaredTypes, ∀ right ∈ outline.declaredTypes,
    (outline.binaryName? left.name).map QualifiedType.name =
      (outline.binaryName? right.name).map QualifiedType.name → left = right
  reads : ∀ type ∈ outline.declaredTypes, ∃ binary, outline.binaryName? type.name = some binary ∧
    Text.replaceAll '$' '.' binary.name = type.name ∧ binary.outer = outline.primary ∧
    binary.pathHint = outline.primary.pathHint

/-- A name has a binary form in a file if and only if it is the name of the primary type or of an
inner type. If there is no `$` in the names of the types, and so none in the package, the
binary names encode the types. -/
theorem binaryName?_faithful (built : ofSource parser path source = .ok outline) :
    (∀ type : QualifiedType, (outline.binaryName? type.name).isSome = true ↔
      type.name = outline.primary.name ∨ ∃ inner ∈ outline.inner, inner.name = type.name) ∧
    ((∀ type ∈ outline.declaredTypes, '$' ∉ type.name.toList) → outline.Encodes) := by
  refine ⟨fun type => ?_, fun plain => ?_⟩
  · rw [isSome_binaryName? built, declares_iff_exists]
  have reads : ∀ type ∈ outline.declaredTypes, ∃ binary,
      outline.binaryName? type.name = some binary ∧
      Text.replaceAll '$' '.' binary.name = type.name ∧ binary.outer = outline.primary ∧
      binary.pathHint = outline.primary.pathHint := by
    intro type declared
    obtain ⟨binary, isBinary, -⟩ :=
      exists_binaryName? built (declares_iff.mpr (List.mem_map_of_mem declared))
    have outer := outer_binaryName?_eq built (plain type declared) isBinary
    have readsBack := replaceAll_binaryName? built (plain type declared) isBinary
    refine ⟨binary, isBinary, readsBack, outer, ?_⟩
    apply QualifiedType.pathHint_congr
    rw [← outer, QualifiedType.outer_outer]
  refine ⟨fun left leftDeclared right rightDeclared same => ?_, reads⟩
  obtain ⟨leftBinary, leftForm, leftReads, -⟩ := reads left leftDeclared
  obtain ⟨rightBinary, rightForm, rightReads, -⟩ := reads right rightDeclared
  rw [leftForm, rightForm, Option.map_some, Option.map_some, Option.some_inj] at same
  have sameName : left.name = right.name := by rw [← leftReads, ← rightReads, same]
  exact List.inj_on_of_nodup_map (nodup_declaredNames built) leftDeclared rightDeclared sameName

/-- A class in a class in a class of a package: the dots of the package stay, the others are `$`. -/
theorem binaryName?_faithful_nested :
    let source := "package a.b; class Outer \x7b class Inner \x7b class Deeper \x7b\x7d \x7d \x7d"
    ∃ outline, ofSource Java.parser ⟨"Outer.java"⟩ source = .ok outline ∧
      (∀ type ∈ outline.declaredTypes, '$' ∉ type.name.toList) ∧ outline.Encodes ∧
      (outline.binaryName? "a.b.Outer.Inner.Deeper").map QualifiedType.name =
        some "a.b.Outer$Inner$Deeper" ∧
      outline.binaryName? "a.b.Outer.Other" = none := by
  intro source
  have evaluated : (ofSource Java.parser ⟨"Outer.java"⟩ source).toOption.any (fun outline =>
      decide (outline.declaredTypes.map QualifiedType.name =
          ["a.b.Outer", "a.b.Outer.Inner", "a.b.Outer.Inner.Deeper"] ∧
        (outline.binaryName? "a.b.Outer.Inner.Deeper").map QualifiedType.name =
          some "a.b.Outer$Inner$Deeper")) = true := by
    decide +kernel
  cases built : ofSource Java.parser ⟨"Outer.java"⟩ source with
  | error failure =>
    rw [built] at evaluated
    cases evaluated
  | ok outline =>
    obtain ⟨names, deeper⟩ : outline.declaredTypes.map QualifiedType.name =
          ["a.b.Outer", "a.b.Outer.Inner", "a.b.Outer.Inner.Deeper"] ∧
        (outline.binaryName? "a.b.Outer.Inner.Deeper").map QualifiedType.name =
          some "a.b.Outer$Inner$Deeper" := by
      simpa [built, Except.toOption] using evaluated
    obtain ⟨defined, encodes⟩ := binaryName?_faithful built
    have plain : ∀ name ∈ outline.declaredTypes.map QualifiedType.name, '$' ∉ name.toList := by
      rw [names]
      decide
    rw [List.forall_mem_map] at plain
    have undeclared : "a.b.Outer.Other" ∉ outline.declaredTypes.map QualifiedType.name := by
      rw [names]
      decide
    refine ⟨outline, rfl, plain, encodes plain, deeper, ?_⟩
    rw [← Option.not_isSome_iff_eq_none, defined ⟨"a.b.Outer.Other", .projectReference⟩]
    simpa [declaredTypes] using undeclared

end JavaIndex.Outline
