import JavaIndex.Java.Node
import JavaIndex.Imports
import JavaIndex.Text.Word

/-!
# What a compilation unit declares

The package, the imports and the types of a file, read off its tree. The primary
type is the first top-level type named like the file, or else the first one. Its
inner types are the member types below it at any depth; types declared inside
methods, initializers or expressions are not members.

## Main definitions

* `Java.packageName` — the declared package, empty for the default one
* `Java.importsOf` — the imports in order
* `Java.topLevelTypes` — the types declared at the top level, with their names
* `Java.declaredTypes?` — the primary type's name and the inner ones below it
-/

namespace JavaIndex.Java

/-! ### Names -/

/-- The source text of a dotted name without its white space. -/
def dottedName (node : Node) : String :=
  Text.withoutBlanks node.text

/-- Whether a node is a simple or dotted name. -/
def isName (node : Node) : Bool :=
  node.kind? == some .identifier || node.kind? == some .scopedIdentifier

/-- The name right below a node. -/
def nameBelow? (node : Node) : Option Node :=
  node.namedChildren.find? isName

/-! ### Package and imports -/

/-- The package that the first package declaration names. -/
def packageName (root : Node) : String :=
  match root.namedChildren.find? fun child => child.kind? == some .packageDeclaration with
  | some declaration => ((nameBelow? declaration).map dottedName).getD ""
  | none => ""

/-- Whether a bare keyword stands right below a node. -/
def hasKeyword (node : Node) (text : String) : Bool :=
  node.children.any fun child =>
    match child with
    | .bare token => token.text == text
    | _ => false

/-- The import that a declaration stands for. -/
def importOf? (declaration : Node) : Option Import :=
  (nameBelow? declaration).map fun name =>
    { path := dottedName name
      isStatic := hasKeyword declaration "static"
      isStar := declaration.children.any fun child => child.kind? == some .asterisk }

/-- The imports of a file in order. -/
def importsOf (root : Node) : List Import :=
  (root.namedChildren.filter fun child => child.kind? == some .importDeclaration).filterMap
    importOf?

/-! ### Types -/

/-- The name among the parts of a declaration. -/
def declaredName? (parts : List Node) : Option String :=
  (parts.find? fun part => part.kind? == some .identifier).map Node.text

/-- Whether a node holds the members of a type. -/
def isTypeBody (node : Node) : Bool :=
  node.kind?.any Kind.isTypeBody

/-- Whether a node declares a type. -/
def isTypeDeclaration (node : Node) : Bool :=
  node.kind?.any Kind.declaresType

/-- A name below an outer one, which may be empty. -/
def below (outer name : String) : String :=
  if outer = "" then name else outer ++ "." ++ name

mutual

/-- The member types that one part of a body declares, named from `outer` on. -/
def memberTypes (outer : String) : Node → List String
  | .branch kind parts =>
    if kind = .enumBodyDeclarations then memberTypesOfList outer parts
    else if kind.declaresType then
      match declaredName? parts with
      | none => []
      | some name => below outer name :: typesInBody (below outer name) parts
    else []
  | _ => []

/-- The member types that the parts of a body declare, in order. -/
def memberTypesOfList (outer : String) : List Node → List String
  | [] => []
  | part :: rest => memberTypes outer part ++ memberTypesOfList outer rest

/-- The member types in the body among the parts of a declaration. -/
def typesInBody (outer : String) : List Node → List String
  | [] => []
  | part :: rest =>
    if isTypeBody part then typesBelow outer part else typesInBody outer rest

/-- The member types in a body. -/
def typesBelow (outer : String) : Node → List String
  | .branch _ parts => memberTypesOfList outer parts
  | _ => []

end

/-- The names of the types a file is about. -/
structure DeclaredTypes where
  primary : String
  /-- Inner types, dotted from the primary type on. -/
  inner : List String
  deriving DecidableEq, Repr

/-- The types declared at the top level, with their names. -/
def topLevelTypes (root : Node) : List (Node × String) :=
  (root.namedChildren.filter isTypeDeclaration).filterMap fun child =>
    (declaredName? child.children).map fun name => (child, name)

/-- The type a file is about: the first one of the file's name, or else the first. -/
def primaryType? (types : List (Node × String)) (stem : Option String) : Option (Node × String) :=
  (stem.bind fun stem => types.find? fun type => type.2 == stem).or types.head?

/-- The primary type of a file and its inner types; none where no type is declared. -/
def declaredTypes? (root : Node) (stem : Option String) : Option DeclaredTypes :=
  (primaryType? (topLevelTypes root) stem).map fun (declaration, name) =>
    { primary := name, inner := typesInBody "" declaration.children }

end JavaIndex.Java
