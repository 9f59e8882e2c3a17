import JavaIndex.Java.Token

/-!
# Syntax trees

A tree has named nodes, which carry a kind, and bare tokens, which do not. Named
nodes are leaves over one token or branches over a list of nodes. The tokens of a
tree, left to right, are the part of the source that it stands for.

## Main definitions

* `Java.Kind` — the kinds of named nodes
* `Java.Node` — the trees
* `Java.Node.tokens`, `Java.Node.text` — the tokens of a tree and its source text
* `Java.Node.namedChildren` — the children that carry a kind
-/

namespace JavaIndex.Java

/-- The kinds of named nodes. -/
inductive Kind where
  | program
  -- names
  | identifier
  | scopedIdentifier
  | asterisk
  -- declarations
  | packageDeclaration
  | importDeclaration
  | moduleDeclaration
  | moduleDirective
  | classDeclaration
  | interfaceDeclaration
  | enumDeclaration
  | recordDeclaration
  | annotationTypeDeclaration
  | modifiers
  | annotationUse
  | annotationArguments
  | typeParameters
  | typeParameter
  | typeBound
  | superclass
  | superInterfaces
  | permits
  | throws
  | classBody
  | interfaceBody
  | enumBody
  | enumBodyDeclarations
  | annotationTypeBody
  | enumConstant
  | fieldDeclaration
  | methodDeclaration
  | constructorDeclaration
  | compactConstructor
  | constructorBody
  | constructorInvocation
  | staticInitializer
  | annotationElement
  | variableDeclarator
  | formalParameters
  | formalParameter
  | spreadParameter
  | receiverParameter
  -- types
  | voidType
  | integralType
  | floatingPointType
  | booleanType
  | typeIdentifier
  | scopedTypeIdentifier
  | genericType
  | arrayType
  | annotatedType
  | typeArguments
  | wildcard
  | dimensions
  -- statements
  | block
  | localVariable
  | statement
  | catchClause
  | catchParameter
  | finallyClause
  | resources
  | switchBlock
  | switchGroup
  | switchRule
  | switchLabel
  -- expressions and patterns
  | expression
  | lambda
  | parameterNames
  | cast
  | parenthesized
  | switchExpression
  | objectCreation
  | arrayCreation
  | arrayInitializer
  | argumentList
  | classLiteral
  | methodReference
  | literal
  | typePattern
  | recordPattern
  | patternComponent
  | guard
  deriving DecidableEq, Repr

namespace Kind

/-- Whether nodes of this kind declare a type. -/
def declaresType : Kind → Bool
  | classDeclaration | interfaceDeclaration | enumDeclaration | recordDeclaration
  | annotationTypeDeclaration => true
  | _ => false

/-- Whether nodes of this kind hold the members of a type declaration. -/
def isTypeBody : Kind → Bool
  | classBody | interfaceBody | enumBody | annotationTypeBody => true
  | _ => false

end Kind

/-- Syntax trees. -/
inductive Node where
  /-- A keyword, an operator or a separator. -/
  | bare (token : Token)
  | leaf (kind : Kind) (token : Token)
  | branch (kind : Kind) (children : List Node)
  deriving Repr

namespace Node

/-- The kind of a named node. -/
def kind? : Node → Option Kind
  | bare _ => none
  | leaf kind _ => some kind
  | branch kind _ => some kind

/-- The nodes right below. -/
def children : Node → List Node
  | branch _ children => children
  | _ => []

/-- Whether a node carries a kind. -/
def isNamed (node : Node) : Bool :=
  node.kind?.isSome

/-- The named nodes right below, in order. -/
def namedChildren (node : Node) : List Node :=
  node.children.filter isNamed

mutual

/-- The tokens of a tree, left to right. -/
def tokens : Node → List Token
  | bare token => [token]
  | leaf _ token => [token]
  | branch _ children => tokensOfList children

/-- The tokens of a list of trees, left to right. -/
def tokensOfList : List Node → List Token
  | [] => []
  | node :: rest => node.tokens ++ tokensOfList rest

end

/-- The source text from the first token to the last, with the gaps in between. -/
def spell : List Token → String
  | [] => ""
  | first :: rest => rest.foldl (fun text token => text ++ token.gap ++ token.text) first.text

/-- The source text of a tree. -/
def text (node : Node) : String :=
  spell node.tokens

mutual

/-- The number of nodes in a tree. -/
def size : Node → Nat
  | bare _ => 1
  | leaf _ _ => 1
  | branch _ children => 1 + sizeOfList children

/-- The number of nodes in a list of trees. -/
def sizeOfList : List Node → Nat
  | [] => 0
  | node :: rest => node.size + sizeOfList rest

end

end Node

end JavaIndex.Java
