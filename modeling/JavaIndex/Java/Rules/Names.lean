import JavaIndex.Java.Grammar

/-!
# Rules for names and annotations

A word is a keyword only where the grammar can use it as one; everywhere else it
is a name. The rules for names therefore list the keywords that are possible at
their place. A few words (`record`, `sealed`, `yield`, …) are keywords in front
of a declaration or a statement and still name variables and methods.

## Main definitions

* `Java.Symbol` — the names of the recursive rules
* `Java.Rules.identifier`, `Java.Rules.qualifiedName` — simple and dotted names
* `Java.Rules.annotationUse` — an annotation with its arguments
-/

namespace JavaIndex.Java

/-- The names of the recursive rules. In the label of a switch branch an arrow ends
the expression, so expressions there have rules of their own. -/
inductive Symbol where
  | program
  | annotationUse
  | annotationArguments
  | elementValue
  | type
  | dimensions
  | typeArguments
  | typeParameters
  | formalParameters
  | expression (inLabel : Bool)
  | operand (inLabel : Bool)
  | arguments
  | arrayInitializer
  | recordPattern
  | switchBlock
  | block
  | statement
  | modifiers
  | classBody
  | interfaceBody
  | enumBody
  | annotationTypeBody
  deriving DecidableEq, Repr

namespace Rules

open Grammar

/-! ### Words -/

/-- The primitive types and `void`. -/
def typeWords : List String :=
  ["byte", "short", "int", "long", "char", "float", "double", "boolean", "void"]

/-- The words that start an expression of their own. -/
def expressionWords : List String :=
  ["this", "super", "new", "switch", "true", "false", "null"]

/-- The modifiers that never name anything. -/
def modifierWords : List String :=
  ["public", "protected", "private", "abstract", "static", "final", "strictfp", "default",
    "synchronized", "native", "transient", "volatile"]

/-- The words that are keywords in front of a declaration or a statement, and names elsewhere. -/
def softWords : List String :=
  ["open", "module", "record", "with", "sealed", "yield"]

/-- The keywords possible where an expression names a variable. -/
def variableKeywords : List String :=
  typeWords ++ expressionWords

/-- The keywords possible after a dot. -/
def memberKeywords : List String :=
  ["class", "this", "super", "new"]

/-! ### Names -/

/-- A name at a place where the given keywords are possible. -/
def identifier (keywords : List String) : Grammar Symbol :=
  leaf .identifier (.name keywords)

/-- A name at a place without keywords. -/
def anyName : Grammar Symbol :=
  identifier []

/-- A dotted name. -/
def qualifiedName : Grammar Symbol :=
  level (both anyName (many (row [mark ".", anyName, close .scopedIdentifier])))

/-- An opening brace. -/
def openBrace : Grammar Symbol := mark "\x7b"

/-- A closing brace. -/
def closeBrace : Grammar Symbol := mark "\x7d"

/-! ### Annotations -/

/-- An annotation and, if it has any, its arguments. -/
def annotationUse : Grammar Symbol :=
  node .annotationUse [mark "@", qualifiedName, optional (rule .annotationArguments)]

/-- Annotations in a row. -/
def annotations : Grammar Symbol :=
  many (rule .annotationUse)

/-- Arguments by name, or one value alone. -/
def annotationArguments : Grammar Symbol :=
  node .annotationArguments [mark "(",
    either
      (both (listOf (row [identifier variableKeywords, mark "=", rule .elementValue])) (mark ")"))
      (both (rule .elementValue) (mark ")"))]

/-- A value in an annotation: a list in braces, an annotation or an expression. -/
def elementValue : Grammar Symbol :=
  oneOf [
    node .arrayInitializer
      [openBrace, listOf (rule .elementValue), optional (mark ","), closeBrace],
    rule .annotationUse,
    rule (.expression false)]

/-- Modifiers and annotations in front of a declaration. -/
def modifiers : Grammar Symbol :=
  node .modifiers [oneOrMore (oneOf [
    rule .annotationUse,
    anyWord modifierWords,
    word "sealed",
    row [word "non", glued "-", glued "sealed"]])]

end Rules

end JavaIndex.Java
