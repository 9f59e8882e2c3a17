import JavaIndex.Path

/-!
# Qualified types

A qualified type is a dotted name together with a tag that says how the name was
derived. What a type *is* depends on the name alone: sets of types are keyed and
ordered by name, and of two entries with one name the later one stays.

Names come in two forms. The index lists inner types dotted (`a.Outer.Inner`);
the binary form separates them by `$` (`a.Outer$Inner`), and only that form can
be cut back to the outer type without further knowledge.

## Main definitions

* `TypeTag`, `QualifiedType` — the derivation tag, and a name with its tag
* `QualifiedType.outer` — the name up to the first `$`
* `QualifiedType.packageName`, `QualifiedType.simpleName` — the parts of a name
* `QualifiedType.pathHint` — where the outer type's source conventionally lies
* `TypeSet.ofList` — the set of a list of types, ordered by name
-/

namespace JavaIndex

/-- How a qualified name was derived. -/
inductive TypeTag where
  /-- A primitive type, named by its keyword. -/
  | primitive
  /-- One of the wrapper classes of the primitive types. -/
  | boxedPrimitive
  /-- A well-known simple name, assumed to belong to `java.lang`. -/
  | stdlibGuess
  /-- A name found through an import, the index or the file's own package. -/
  | projectReference
  /-- No classification. -/
  | unknown
  deriving DecidableEq, Repr

/-- The tag as it is printed. -/
def TypeTag.label : TypeTag → String
  | .primitive => "PRIMITIVE"
  | .boxedPrimitive => "BOXED_PRIMITIVE"
  | .stdlibGuess => "STDLIB_GUESS"
  | .projectReference => "PROJECT_REFERENCE"
  | .unknown => "UNKNOWN"

/-- A dotted name and how it was derived. -/
structure QualifiedType where
  name : String
  tag : TypeTag
  deriving DecidableEq, Repr

namespace QualifiedType

/-- The character between an outer and an inner type in binary names. -/
def separator : Char := '$'

/-- The name of types that no rule classifies. -/
def unknownName : String := "UNKNOWN"

/-- The type that stands for everything unclassified. -/
def unclassified : QualifiedType := ⟨unknownName, .unknown⟩

/-- A name put below a package; the default package is the empty name and adds nothing. -/
def qualify (package name : String) : String :=
  if package = "" then name else package ++ "." ++ name

/-- A project type in a package. -/
def inPackage (package name : String) : QualifiedType :=
  ⟨qualify package name, .projectReference⟩

/-- The type whose name ends before the first `$`. -/
def outer (type : QualifiedType) : QualifiedType :=
  { type with name := Text.beforeFirst separator type.name }

/-- The part of the name before its last dot. -/
def packageName (type : QualifiedType) : String :=
  Text.beforeLast '.' type.name

/-- The last segment of the name, without any outer types in front. -/
def simpleName (type : QualifiedType) : String :=
  Text.afterLast separator (Text.afterLast '.' type.name)

/-- The relative path where the outer type's source would lie: one folder for each
segment of the package and a `.java` file named after the type. -/
def pathHint (type : QualifiedType) : Path :=
  let segments := (Text.splitAll '.' type.outer.name).map Text.bytes
  (segments.foldl Path.join ⟨[]⟩).withExtension "java"

/-- The order of types, by name alone. -/
def compare (left right : QualifiedType) : Ordering :=
  Text.compare left.name right.name

end QualifiedType

/-! ### Sets of types -/

/-- A set of types: strictly increasing by name. -/
abbrev TypeSet := List QualifiedType

namespace TypeSet

/-- Adds a type, replacing the entry of the same name. -/
def insert (type : QualifiedType) : TypeSet → TypeSet
  | [] => [type]
  | head :: rest =>
    match type.compare head with
    | .lt => type :: head :: rest
    | .eq => type :: rest
    | .gt => head :: insert type rest

/-- The set of the listed types; of several with one name the last one stays. -/
def ofList (types : List QualifiedType) : TypeSet :=
  types.foldl (fun set type => insert type set) []

/-- The entry with the given name. -/
def find? (types : TypeSet) (name : String) : Option QualifiedType :=
  List.find? (fun type => type.name == name) types

end TypeSet

end JavaIndex
