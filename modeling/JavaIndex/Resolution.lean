import JavaIndex.QualifiedType
import JavaIndex.TypeReference
import JavaIndex.Imports
import JavaIndex.JavaLang

/-!
# Resolution of type references

The qualified type that a reference in a file stands for, as far as the file's
imports, its package and the types known to the index tell. The rules are tried
in a fixed order and the first one that applies wins:

1. a primitive keyword stands for itself;
2. a wrapper class belongs to `java.lang`;
3. a name whose first segment is imported continues the import;
4. the first star import under which the index knows the name;
5. a well-known simple name belongs to `java.lang`;
6. any other class name belongs to the file's own package.

References of other shapes stay unclassified.

## Main definitions

* `resolve` — the type a reference stands for
* `usedTypes` — the set of types that a list of references stands for
-/

namespace JavaIndex

/-- Which qualified names a project is known to declare; `none` is no knowledge at all. -/
abbrev KnownTypes := Option (String → Bool)

/-- A name continued from the import of its first segment: the import's own
qualifier in front of the whole name. -/
def continueImport (imported name : String) : String :=
  match Text.cutLast '.' imported with
  | some (qualifier, _) => qualifier ++ "." ++ name
  | none => name

/-- The first star import under which the name is known. -/
def starCandidate? (context : ImportContext) (known : String → Bool) (name : String) :
    Option String :=
  (context.starPackages.map fun package => package ++ "." ++ name).find? known

/-- The type a class name stands for in a file. -/
def resolveClass (name : String) (context : ImportContext) (known : KnownTypes) :
    QualifiedType :=
  if JavaLang.boxedPrimitives.contains name then
    ⟨JavaLang.package ++ "." ++ name, .boxedPrimitive⟩
  else
    match context.find? (Text.beforeFirst '.' name) with
    | some imported => ⟨continueImport imported name, .projectReference⟩
    | none =>
      match known.bind fun knows => starCandidate? context knows name with
      | some candidate => ⟨candidate, .projectReference⟩
      | none =>
        if JavaLang.contains name then ⟨JavaLang.package ++ "." ++ name, .stdlibGuess⟩
        else QualifiedType.inPackage context.packageName name

/-- The type a reference stands for in a file. -/
def resolve (reference : TypeReference) (context : ImportContext) (known : KnownTypes) :
    QualifiedType :=
  match reference with
  | .primitive text => ⟨text, .primitive⟩
  | .classOrInterface name => resolveClass name context known
  | .other _ => QualifiedType.unclassified

/-- The set of types that a file's references stand for. -/
def usedTypes (references : List TypeReference) (context : ImportContext) (known : KnownTypes) :
    TypeSet :=
  TypeSet.ofList (references.map fun reference => resolve reference context known)

end JavaIndex
