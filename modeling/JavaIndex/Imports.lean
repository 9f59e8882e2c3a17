import JavaIndex.Text.Cut

/-!
# Imports

What a file's package declaration and imports mean for the names in it. Static
imports name members and are ignored. A single-type import is found under the
last segment of its path, the first one winning; the packages of star imports are
kept in the order they were declared.

## Main definitions

* `Import` — one import declaration
* `ImportContext.ofImports` — the names that a package and a list of imports bring in
* `ImportContext.find?` — the path imported under a simple name
-/

namespace JavaIndex

/-- An import declaration, its path without any trailing `.*`. -/
structure Import where
  path : String
  isStatic : Bool
  isStar : Bool
  deriving DecidableEq, Repr

namespace Import

/-- Whether the import brings in one type. -/
def isSingle (declaration : Import) : Bool :=
  !declaration.isStatic && !declaration.isStar

/-- Whether the import brings in the types of a package on demand. -/
def isOnDemand (declaration : Import) : Bool :=
  !declaration.isStatic && declaration.isStar

/-- The simple name under which a type is imported. -/
def simpleName (declaration : Import) : String :=
  Text.afterLast '.' declaration.path

end Import

/-- The names in scope of one file. -/
structure ImportContext where
  /-- The declared package; the default package has the empty name. -/
  packageName : String
  /-- Imported paths under their simple names, ordered by simple name. -/
  imports : List (String × String)
  /-- Packages imported on demand, in declaration order. -/
  starPackages : List String
  deriving DecidableEq, Repr

namespace ImportContext

/-- Adds a simple name in its place unless it is already there. -/
def insertNew (simple path : String) : List (String × String) → List (String × String)
  | [] => [(simple, path)]
  | (key, value) :: rest =>
    match Text.compare simple key with
    | .lt => (simple, path) :: (key, value) :: rest
    | .eq => (key, value) :: rest
    | .gt => (key, value) :: insertNew simple path rest

/-- The context that a package and its imports, in declaration order, make up. -/
def ofImports (packageName : String) (declarations : List Import) : ImportContext where
  packageName := packageName
  imports := (declarations.filter Import.isSingle).foldl
    (fun table declaration => insertNew declaration.simpleName declaration.path table) []
  starPackages := (declarations.filter Import.isOnDemand).map Import.path

/-- The path imported under a simple name. -/
def find? (context : ImportContext) (simple : String) : Option String :=
  context.imports.lookup simple

end ImportContext

end JavaIndex
