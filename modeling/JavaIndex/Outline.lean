import JavaIndex.Resolution

/-!
# Outlines

What there is to know about one source file: where it lies, the type it is about,
the types nested in that one, its imports, and its type references in source
order.

## Main definitions

* `Outline` — the outline of one file
* `Outline.declaredTypes` — the primary type and then the inner ones
* `Outline.binaryName?` — the binary form of a type that the file declares
-/

namespace JavaIndex

/-- The outline of one source file. -/
structure Outline where
  /-- The path as it was found or given. -/
  path : Path
  /-- The top-level type the file is about. -/
  primary : QualifiedType
  /-- The types nested in the primary type, their names dotted. -/
  inner : TypeSet
  /-- Package and imports. -/
  context : ImportContext
  /-- Every mention of a type, in source order. -/
  references : List TypeReference
  deriving DecidableEq, Repr

namespace Outline

/-- The primary type followed by the inner types. -/
def declaredTypes (outline : Outline) : List QualifiedType :=
  outline.primary :: outline.inner

/-- Whether the file declares a type of this name. -/
def declares (outline : Outline) (name : String) : Bool :=
  outline.declaredTypes.any fun type => type.name == name

/-- The package of the file. -/
def packageName (outline : Outline) : String :=
  outline.context.packageName

/-- The set of types that the file's references stand for. -/
def resolveWith (outline : Outline) (known : KnownTypes) : TypeSet :=
  usedTypes outline.references outline.context known

/-- The part of an inner type's name below the primary type. -/
def nestedPart? (outline : Outline) (name : String) : Option String :=
  (Text.dropLead outline.primary.name name).bind fun rest => Text.dropLead "." rest

/-- The binary form of a type the file declares: the primary type as it is, an inner
type with its nested part separated by `$`. Types declared elsewhere have none. -/
def binaryName? (outline : Outline) (name : String) : Option QualifiedType :=
  if name = outline.primary.name then some outline.primary
  else
    (outline.inner.find? name).bind fun type =>
      (outline.nestedPart? type.name).map fun nested =>
        { type with
          name := outline.primary.name ++ String.singleton QualifiedType.separator ++
            Text.replaceAll '.' QualifiedType.separator nested }

end Outline

end JavaIndex
