import JavaIndex.Java.Rules.Statements

/-!
# Rules for declarations

Packages, imports, modules, and the five kinds of type declarations with their
members.

## Main definitions

* `Java.Rules.declaration` — the declarations that may stand as statements
* `Java.Rules.typeDeclaration` — classes, interfaces, enums, records and annotation types
* `Java.Rules.classBody`, `Java.Rules.interfaceBody`, `Java.Rules.enumBody`,
  `Java.Rules.annotationTypeBody` — their members
-/

namespace JavaIndex.Java.Rules

open Grammar

/-! ### Packages, imports and modules -/

/-- The package of a file. -/
def packageDeclaration : Grammar Symbol :=
  node .packageDeclaration [annotations, word "package", qualifiedName, mark ";"]

/-- The import of a type, of members, or of all that a package holds. -/
def importDeclaration : Grammar Symbol :=
  node .importDeclaration [word "import", optional (word "static"), qualifiedName,
    optional (both (mark ".") (leaf .asterisk (.mark "*"))), mark ";"]

/-- What a module requires, exports, opens, uses and provides. -/
def moduleDirective : Grammar Symbol :=
  let targets (intro : String) := both (word intro) (separated "," qualifiedName)
  node .moduleDirective [oneOf [
    row [word "requires", many (anyWord ["transitive", "static"]), qualifiedName],
    row [anyWord ["exports", "opens"], qualifiedName, optional (targets "to")],
    row [word "uses", qualifiedName],
    row [word "provides", qualifiedName, targets "with"]], mark ";"]

/-- A module. -/
def moduleDeclaration : Grammar Symbol :=
  node .moduleDeclaration [annotations, optional (word "open"), word "module", qualifiedName,
    openBrace, many moduleDirective, closeBrace]

/-! ### Parameters and methods -/

/-- The parameter that stands for the object itself. -/
def receiverParameter : Grammar Symbol :=
  node .receiverParameter [annotations, unannotatedType modifierWords,
    many (both (identifier ["this"]) (mark ".")), word "this"]

/-- One parameter, or the last one that takes all further arguments. -/
def formalParameter : Grammar Symbol :=
  level (row [optional (rule .modifiers), unannotatedType (modifierWords ++ expressionWords),
    either (row [mark "...", annotations, variableDeclarator, close .spreadParameter])
      (both (variableName ["this"]) (close .formalParameter))])

/-- Parameters in parentheses. -/
def formalParameters : Grammar Symbol :=
  node .formalParameters [mark "(",
    either (both receiverParameter (optional (both (mark ",") (listOf formalParameter))))
      (listOf formalParameter),
    mark ")"]

/-- The exceptions a method may raise. -/
def throwsClause : Grammar Symbol :=
  optional (node .throws [word "throws", separated "," (rule .type)])

/-- A method after its modifiers; `keywords` are possible in front of its type. -/
def methodRest (keywords : List String) : Grammar Symbol :=
  row [optional (both (rule .typeParameters) annotations), unannotatedType keywords, anyName,
    rule .formalParameters, optional (rule .dimensions), throwsClause,
    either (rule .block) (mark ";"), close .methodDeclaration]

/-- A field or constant after its modifiers. -/
def fieldRest (keywords : List String) : Grammar Symbol :=
  row [unannotatedType keywords, variableDeclarators, mark ";", close .fieldDeclaration]

/-! ### Type declarations -/

/-- The types listed after a keyword. -/
def typesAfter (kind : Kind) (keyword : String) : Grammar Symbol :=
  optional (node kind [word keyword, separated "," (rule .type)])

/-- The type a class extends. -/
def superclass : Grammar Symbol :=
  optional (node .superclass [word "extends", rule .type])

/-- A class after its modifiers. -/
def classRest : Grammar Symbol :=
  row [word "class", anyName, optional (rule .typeParameters), superclass,
    typesAfter .superInterfaces "implements", typesAfter .permits "permits", rule .classBody,
    close .classDeclaration]

/-- An interface after its modifiers. -/
def interfaceRest : Grammar Symbol :=
  row [word "interface", anyName, optional (rule .typeParameters),
    typesAfter .superInterfaces "extends", typesAfter .permits "permits", rule .interfaceBody,
    close .interfaceDeclaration]

/-- An enum after its modifiers. -/
def enumRest : Grammar Symbol :=
  row [word "enum", anyName, typesAfter .superInterfaces "implements", rule .enumBody,
    close .enumDeclaration]

/-- A record after its modifiers. -/
def recordRest : Grammar Symbol :=
  row [word "record", anyName, optional (rule .typeParameters), rule .formalParameters,
    typesAfter .superInterfaces "implements", rule .classBody, close .recordDeclaration]

/-- An annotation type after its modifiers. -/
def annotationTypeRest : Grammar Symbol :=
  row [mark "@interface", anyName, rule .annotationTypeBody, close .annotationTypeDeclaration]

/-- Something declared after modifiers. -/
def modified (rests : List (Grammar Symbol)) : Grammar Symbol :=
  level (both (optional (rule .modifiers)) (oneOf rests))

/-- Any type declaration. -/
def typeDeclaration : Grammar Symbol :=
  modified [classRest, interfaceRest, enumRest, recordRest, annotationTypeRest]

/-- The declarations that may stand as statements. -/
def declaration : Grammar Symbol :=
  oneOf [importDeclaration, packageDeclaration, moduleDeclaration, typeDeclaration]

/-! ### Members -/

/-- The keywords possible where a member of a type starts. -/
def memberTypeKeywords : List String :=
  modifierWords ++ ["class", "interface", "enum"]

/-- The call of another constructor at the start of a constructor. -/
def constructorInvocation : Grammar Symbol :=
  node .constructorInvocation [
    either
      (both (optional (rule .typeArguments)) (anyWord ["this", "super"]))
      (row [primary false, mark ".", optional (rule .typeArguments), word "super"]),
    rule .arguments, mark ";"]

/-- The statements of a constructor. -/
def constructorBody : Grammar Symbol :=
  node .constructorBody [openBrace, optional constructorInvocation, many (rule .statement),
    closeBrace]

/-- A constructor after its modifiers. -/
def constructorRest (keywords : List String) : Grammar Symbol :=
  row [optional (rule .typeParameters), identifier (keywords ++ typeWords),
    rule .formalParameters, throwsClause, constructorBody, close .constructorDeclaration]

/-- A constructor of a record that leaves out its parameters. -/
def compactConstructorRest (keywords : List String) : Grammar Symbol :=
  row [identifier (keywords ++ typeWords), rule .block, close .compactConstructor]

/-- A member of a class, an enum or a record. -/
def classMember : Grammar Symbol :=
  let keywords := memberTypeKeywords ++ ["record", "sealed"]
  oneOf [
    mark ";",
    rule .block,
    node .staticInitializer [word "static", rule .block],
    modified [classRest, interfaceRest, enumRest, recordRest, annotationTypeRest,
      constructorRest keywords, compactConstructorRest keywords, methodRest keywords,
      fieldRest keywords]]

/-- The members of a class or a record. -/
def classBody : Grammar Symbol :=
  node .classBody [openBrace, many classMember, closeBrace]

/-- The members of an interface. -/
def interfaceBody : Grammar Symbol :=
  let keywords := memberTypeKeywords ++ ["record", "sealed"]
  node .interfaceBody [openBrace,
    many (either (mark ";") (modified [classRest, interfaceRest, enumRest, recordRest,
      annotationTypeRest, methodRest keywords, fieldRest keywords])),
    closeBrace]

/-- A constant of an enum, with its arguments and its own members. -/
def enumConstant : Grammar Symbol :=
  node .enumConstant [optional (rule .modifiers), identifier modifierWords,
    optional (rule .arguments), optional (rule .classBody)]

/-- The constants of an enum and, after a semicolon, its members. -/
def enumBody : Grammar Symbol :=
  node .enumBody [openBrace, listOf enumConstant, optional (mark ","),
    optional (node .enumBodyDeclarations [mark ";", many classMember]), closeBrace]

/-- An element of an annotation type after its modifiers. -/
def annotationElementRest (keywords : List String) : Grammar Symbol :=
  row [unannotatedType keywords, anyName, mark "(", mark ")", optional (rule .dimensions),
    optional (both (word "default") (rule .elementValue)), mark ";", close .annotationElement]

/-- The members of an annotation type. -/
def annotationTypeBody : Grammar Symbol :=
  let keywords := memberTypeKeywords ++ ["sealed"]
  node .annotationTypeBody [openBrace,
    many (either (mark ";") (modified [classRest, interfaceRest, enumRest, annotationTypeRest,
      annotationElementRest keywords, fieldRest keywords])),
    closeBrace]

/-! ### Files -/

/-- A file: statements, and methods outside of any type. -/
def program : Grammar Symbol :=
  many (either (rule .statement) (modified [methodRest typeInStatementKeywords]))

end JavaIndex.Java.Rules
