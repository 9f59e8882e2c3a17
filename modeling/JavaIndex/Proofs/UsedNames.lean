import JavaIndex.Proofs.Lookups
import JavaIndex.Proofs.UsedTypes
import Mathlib.Data.List.Sort

/-!
# The names that a file uses

The types that the references of a file stand for are collected by name alone, while each of
them also carries a tag. Which names there are depends only on which references there are.
Which tag a name has depends on their order: of all references that stand for one name, the
last one decides.

## Main definitions

* `Outline.IsLastFor` — a reference is the last one that stands for a name
* `Outline.Uses` — a set of types is what the references of a file stand for

## Main results

* `Outline.mem_resolveWith` — the types that a file uses
* `Outline.resolveWith_uses` — names, order and tags, and what the order of references changes
-/

namespace JavaIndex

theorem TypeSet.Increasing.pairwise_name {types : TypeSet} (increasing : types.Increasing) :
    types.Pairwise fun left right => left.name < right.name :=
  increasing.imp Text.compare_eq_lt_iff.mp

namespace Outline

variable {outline other : Outline} {known : KnownTypes} {type : QualifiedType} {name : String}

/-- The reference is the last one of the file that stands for a type of the name. -/
def IsLastFor (outline : Outline) (known : KnownTypes) (name : String)
    (reference : TypeReference) : Prop :=
  ∃ earlier later, outline.references = earlier ++ reference :: later ∧
    (resolve reference outline.context known).name = name ∧
    ∀ further ∈ later, (resolve further outline.context known).name ≠ name

/-- The types are those that the references of the file stand for: in the order of their names,
one for each name, with the tag that the last reference to the name has. -/
structure Uses (outline : Outline) (known : KnownTypes) (types : TypeSet) : Prop where
  increasing : types.Pairwise fun left right => left.name < right.name
  names : ∀ name, name ∈ types.map QualifiedType.name ↔
    ∃ reference ∈ outline.references, (resolve reference outline.context known).name = name
  tags : ∀ type ∈ types, ∃ reference, outline.IsLastFor known type.name reference ∧
    (resolve reference outline.context known).tag = type.tag

/-- A file uses a type if the last reference to its name stands for it. -/
theorem mem_resolveWith : type ∈ outline.resolveWith known ↔
    ∃ reference, outline.IsLastFor known type.name reference ∧
      resolve reference outline.context known = type := by
  rw [resolveWith, usedTypes, TypeSet.mem_ofList]
  constructor
  · rintro ⟨earlier, later, split, last⟩
    obtain ⟨before, behind, references, -, behindMapped⟩ := List.map_eq_append_iff.mp split
    obtain ⟨reference, after, rfl, rfl, rfl⟩ := List.map_eq_cons_iff.mp behindMapped
    refine ⟨reference, ⟨before, after, references, rfl, fun further member => ?_⟩, rfl⟩
    exact last _ (List.mem_map_of_mem member)
  · rintro ⟨reference, ⟨before, after, references, -, last⟩, rfl⟩
    refine ⟨_, _, by rw [references, List.map_append, List.map_cons], ?_⟩
    simpa using last

theorem name_mem_resolveWith : name ∈ (outline.resolveWith known).map QualifiedType.name ↔
    ∃ reference ∈ outline.references, (resolve reference outline.context known).name = name := by
  rw [resolveWith, usedTypes, TypeSet.name_mem_ofList]
  simp

theorem increasing_resolveWith (outline : Outline) (known : KnownTypes) :
    (outline.resolveWith known).Increasing :=
  TypeSet.increasing_ofList _

/-- Files with the same references, in whatever order and number, use the same names. -/
theorem map_name_resolveWith (context : other.context = outline.context)
    (same : ∀ reference, reference ∈ other.references ↔ reference ∈ outline.references) :
    (other.resolveWith known).map QualifiedType.name =
      (outline.resolveWith known).map QualifiedType.name := by
  have ordered (outline : Outline) : ((outline.resolveWith known).map QualifiedType.name).Pairwise
      (· < ·) := List.pairwise_map.mpr (increasing_resolveWith outline known).pairwise_name
  apply List.Pairwise.eq_of_mem_iff (ordered other) (ordered outline)
  intro name
  rw [name_mem_resolveWith, name_mem_resolveWith, context]
  simp only [same]

/-- A file uses one type for each name that one of its references stands for, with the tag of
the last such reference. Other files with the same references, reordered or repeated, use the
same names in the same order. -/
theorem resolveWith_uses (outline : Outline) (known : KnownTypes) :
    outline.Uses known (outline.resolveWith known) ∧
      ∀ references : List TypeReference,
        (∀ reference, reference ∈ references ↔ reference ∈ outline.references) →
        ({ outline with references := references }.resolveWith known).map QualifiedType.name =
          (outline.resolveWith known).map QualifiedType.name := by
  refine ⟨⟨?_, fun name => name_mem_resolveWith, fun type member => ?_⟩, fun references same => ?_⟩
  · exact (increasing_resolveWith outline known).pairwise_name
  · obtain ⟨reference, last, stands⟩ := mem_resolveWith.mp member
    exact ⟨reference, last, congrArg QualifiedType.tag stands⟩
  · exact map_name_resolveWith rfl same

/-- A wrapper class mentioned by its simple name and then in full, and the other way round and
repeated: one name, whose tag is that of the mention that comes last. -/
theorem resolveWith_uses_reordered :
    let references : List TypeReference := [.classOrInterface "Integer", .other "void",
      .classOrInterface "java.lang.Integer"]
    let reordered : List TypeReference := [.classOrInterface "java.lang.Integer", .other "void",
      .classOrInterface "Integer", .other "void"]
    let outline : Outline :=
      ⟨⟨"A.java"⟩, ⟨"A", .projectReference⟩, [], .ofImports "" [], references⟩
    (∀ reference, reference ∈ reordered ↔ reference ∈ references) ∧
      outline.Uses none [⟨"UNKNOWN", .unknown⟩, ⟨"java.lang.Integer", .projectReference⟩] ∧
      ({ outline with references := reordered }.resolveWith none).map QualifiedType.name =
        ["UNKNOWN", "java.lang.Integer"] ∧
      { outline with references := reordered }.resolveWith none =
        [⟨"UNKNOWN", .unknown⟩, ⟨"java.lang.Integer", .boxedPrimitive⟩] := by
  intro references reordered outline
  have same : ∀ reference, reference ∈ reordered ↔ reference ∈ references := by
    intro reference
    simp only [references, reordered, List.mem_cons, List.not_mem_nil, or_false]
    tauto
  have used : outline.resolveWith none =
      [⟨"UNKNOWN", .unknown⟩, ⟨"java.lang.Integer", .projectReference⟩] := by decide +kernel
  obtain ⟨uses, unmoved⟩ := resolveWith_uses outline none
  have names := unmoved reordered same
  rw [used] at uses names
  exact ⟨same, uses, names, by decide +kernel⟩

end Outline

end JavaIndex
