import JavaIndex.Java.Rules.Names

/-!
# Rules for types

A class type is read from left to right and wrapped as it grows: `a.B<X>.C` is a
scoped type over the generic type `a.B<X>`. Annotations may stand in front of each
later segment, of a dimension, and of the type as a whole.

## Main definitions

* `Java.Rules.classType`, `Java.Rules.simpleType`, `Java.Rules.unannotatedType`,
  `Java.Rules.anyType` — types of growing generality
* `Java.Rules.typeArguments`, `Java.Rules.typeParameters` — what stands between `<` and `>`
-/

namespace JavaIndex.Java.Rules

open Grammar

/-- Type arguments that make what is in front of them a generic type. -/
def genericPart : Grammar Symbol :=
  optional (both (rule .typeArguments) (close .genericType))

/-- A class type at a place where the given keywords are possible. -/
def classType (keywords : List String) : Grammar Symbol :=
  level (row [
    leaf .typeIdentifier (.name (typeWords ++ keywords)),
    genericPart,
    many (row [mark ".", annotations, leaf .typeIdentifier (.name memberKeywords),
      close .scopedTypeIdentifier, genericPart])])

/-- A primitive type or `void`. -/
def keywordType : Grammar Symbol :=
  oneOf [
    oneOf (["byte", "short", "int", "long", "char"].map fun text =>
      leaf .integralType (.keyword text)),
    oneOf (["float", "double"].map fun text => leaf .floatingPointType (.keyword text)),
    leaf .booleanType (.keyword "boolean"),
    leaf .voidType (.keyword "void")]

/-- A type without dimensions. -/
def simpleType (keywords : List String) : Grammar Symbol :=
  either keywordType (classType keywords)

/-- A type without annotations in front. -/
def unannotatedType (keywords : List String) : Grammar Symbol :=
  level (both (simpleType keywords) (optional (both (rule .dimensions) (close .arrayType))))

/-- Any type. -/
def anyType (keywords : List String) : Grammar Symbol :=
  either (unannotatedType keywords)
    (node .annotatedType [oneOrMore (rule .annotationUse), unannotatedType []])

/-- Pairs of brackets. -/
def dimensions : Grammar Symbol :=
  node .dimensions [oneOrMore (row [annotations, mark "[", mark "]"])]

/-- An unknown type argument with its bound. -/
def wildcard : Grammar Symbol :=
  node .wildcard [annotations, mark "?",
    optional (both (anyWord ["extends", "super"]) (rule .type))]

/-- Type arguments. -/
def typeArguments : Grammar Symbol :=
  node .typeArguments [mark "<", listOf (either wildcard (rule .type)), mark ">"]

/-- The declaration of one type parameter. -/
def typeParameter : Grammar Symbol :=
  node .typeParameter [annotations, leaf .typeIdentifier (.name []),
    optional (node .typeBound [word "extends", separated "&" (rule .type)])]

/-- The declarations of type parameters. -/
def typeParameters : Grammar Symbol :=
  node .typeParameters [mark "<", separated "," typeParameter, mark ">"]

/-- A plain dotted name, which may be read as a type and as an expression. -/
def plainName : Grammar Symbol :=
  both (bare (.name variableKeywords)) (many (both (mark ".") (bare (.name memberKeywords))))

end JavaIndex.Java.Rules
