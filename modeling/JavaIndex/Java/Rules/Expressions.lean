import JavaIndex.Java.Rules.Types

/-!
# Rules for expressions

Operators are read as a flat sequence of operands: their precedence neither
changes which sources are accepted nor the order in which types are mentioned.
Three decisions do matter.

* A parenthesized plain name in front of an operand is a cast, unless the operand
  starts with a sign that may as well be a binary operator: `(A) x` and `(A) !x`
  are casts, `(A) - x` is a subtraction.
* A name in front of `::` is an expression. Only a type that cannot be one (with
  type arguments, dimensions or a keyword) is read as a type there.
* An assignment needs a variable, a field or an array element on its left.

## Main definitions

* `Java.Rules.expression`, `Java.Rules.operand` — expressions, and in labels those
  that an arrow ends
* `Java.Rules.primary` — names, literals, calls, creations and accesses
* `Java.Rules.recordPattern` — patterns that take records apart
-/

namespace JavaIndex.Java.Rules

open Grammar

/-! ### Parts -/

/-- The keywords possible where an expression may start with a type. -/
def typeInExpressionKeywords : List String :=
  expressionWords ++ softWords

/-- Arguments of a call. -/
def arguments : Grammar Symbol :=
  node .argumentList [mark "(", listOf (rule (.expression false)), mark ")"]

/-- An expression in parentheses. -/
def parenthesized : Grammar Symbol :=
  node .parenthesized [mark "(", rule (.expression false), mark ")"]

/-- A list of values in braces. -/
def arrayInitializer : Grammar Symbol :=
  node .arrayInitializer [openBrace,
    listOf (either (rule .arrayInitializer) (rule (.expression false))),
    optional (mark ","), closeBrace]

/-- A text, with the expressions embedded in it. -/
def textLiteral : Grammar Symbol :=
  either (leaf .literal (.ofSort .text))
    (node .literal [bare (.ofSort .textOpen), rule (.expression false),
      many (both (bare (.ofSort .textMiddle)) (rule (.expression false))),
      bare (.ofSort .textClose)])

/-- Numbers, characters, texts, truth values and `null`. -/
def literal : Grammar Symbol :=
  oneOf [leaf .literal (.ofSort .number), leaf .literal (.ofSort .character), textLiteral,
    anyWord ["true", "false", "null"]]

/-! ### Operators -/

/-- The operators that assign. -/
def assignmentOperator : Grammar Symbol :=
  oneOf [
    anyMark ["=", "+=", "-=", "*=", "/=", "&=", "|=", "^=", "%=", "<<="],
    row [mark ">", glued ">", glued "="],
    row [mark ">", glued ">", glued ">", glued "="]]

/-- An assignment to what stands in front. -/
def assignment (inLabel : Bool) : Grammar Symbol :=
  both assignmentOperator (rule (.expression inLabel))

/-- The operators between two operands. -/
def binaryOperator : Grammar Symbol :=
  oneOf [
    anyMark ["+", "-", "*", "/", "%", "==", "!=", "&&", "||", "<=", "<<", "<", "&", "|", "^"],
    row [mark ">", glued ">", glued ">"],
    row [mark ">", glued ">"],
    row [mark ">", glued "="],
    mark ">"]

/-! ### Primary expressions -/

/-- The size of one dimension of a new array. -/
def sizedDimension : Grammar Symbol :=
  row [annotations, mark "[", rule (.expression false), mark "]"]

/-- The creation of an object or an array. -/
def creation : Grammar Symbol :=
  level (row [word "new", annotations, optional (rule .typeArguments), annotations, simpleType [],
    oneOf [
      row [rule .arguments, optional (rule .classBody), close .objectCreation],
      row [rule .dimensions, rule .arrayInitializer, close .arrayCreation],
      row [oneOrMore sizedDimension, optional (rule .dimensions), close .arrayCreation]]])

/-- What follows `::`. -/
def referenceTail : Grammar Symbol :=
  row [mark "::", optional (rule .typeArguments), either (word "new") anyName]

/-- A class literal, or a method reference on a type that is no expression. -/
def typeExpression : Grammar Symbol :=
  row [
    ahead (oneOf [
      both (bare (.name (variableKeywords ++ softWords))) (anyMark [".", "<", "[", "@"]),
      anyWord typeWords,
      mark "@"]),
    absent (both plainName (mark "::")),
    level (both (anyType typeInExpressionKeywords) (either
      (row [mark ".", word "class", close .classLiteral])
      (both referenceTail (close .methodReference))))]

/-- A member selected after a dot. -/
def member (inLabel : Bool) : Grammar Symbol :=
  oneOf [
    row [rule .typeArguments, anyName, rule .arguments],
    both (word "this") (optional (assignment inLabel)),
    both (identifier memberKeywords)
      (optional (either (rule .arguments) (assignment inLabel)))]

/-- A member of a superclass. -/
def superMember (inLabel : Bool) : Grammar Symbol :=
  row [word "super", mark ".", member inLabel]

/-- What a primary expression starts with. -/
def primaryStart (inLabel : Bool) : Grammar Symbol :=
  oneOf [
    literal,
    both (word "super") (either referenceTail
      (both (mark ".") (either (superMember inLabel) (member inLabel)))),
    word "this",
    creation,
    parenthesized,
    typeExpression,
    both (identifier variableKeywords)
      (optional (either (rule .arguments) (assignment inLabel)))]

/-- What a primary expression goes on with. -/
def primarySuffix (inLabel : Bool) : Grammar Symbol :=
  oneOf [
    both (mark ".") (oneOf [creation, superMember inLabel, member inLabel, textLiteral]),
    row [mark "[", rule (.expression false), mark "]", optional (assignment inLabel)],
    referenceTail]

/-- Names, literals, calls, creations and accesses. -/
def primary (inLabel : Bool) : Grammar Symbol :=
  both (primaryStart inLabel) (many (primarySuffix inLabel))

/-! ### Lambdas and casts -/

/-- A lambda with its parameters named, declared or only listed. -/
def lambda : Grammar Symbol :=
  node .lambda [
    oneOf [
      identifier variableKeywords,
      node .parameterNames [mark "(", separated "," (identifier variableKeywords), mark ")"],
      rule .formalParameters],
    mark "->",
    either (rule .block) (rule (.expression false))]

/-- A token that starts an operand and cannot be a binary operator. -/
def operandStart : Grammar Symbol :=
  oneOf [bare (.name ["instanceof"]), bare (.ofSort .number), bare (.ofSort .character),
    bare (.ofSort .text), bare (.ofSort .textOpen), mark "("]

/-- What makes a parenthesized plain name in front of it a cast. -/
def castOperandStart : Grammar Symbol :=
  oneOf [
    operandStart,
    anyMark ["!", "~"],
    both (anyMark ["++", "--"]) (either operandStart (anyMark ["!", "~"]))]

/-- A plain name in parentheses. -/
def parenthesizedName : Grammar Symbol :=
  row [mark "(", plainName, mark ")"]

/-- A cast to a type, or to several at once. -/
def cast (inLabel : Bool) : Grammar Symbol :=
  node .cast [
    either (absent parenthesizedName) (ahead (both parenthesizedName castOperandStart)),
    mark "(",
    anyType typeInExpressionKeywords,
    either (mark ")")
      (row [oneOrMore (both (mark "&") (rule .type)), mark ")", ahead operandStart]),
    rule (.operand inLabel)]

/-- A switch, as an expression or as a statement. -/
def switchExpression : Grammar Symbol :=
  node .switchExpression [word "switch", parenthesized, rule .switchBlock]

/-! ### Whole expressions -/

/-- One operand with its signs. -/
def operand (inLabel : Bool) : Grammar Symbol :=
  row [
    many (anyMark ["+", "-", "!", "~", "++", "--"]),
    oneOf ((if inLabel then [] else [lambda]) ++
      [cast inLabel, switchExpression, primary inLabel]),
    many (anyMark ["++", "--"])]

/-- A test for a type, which may name the value or take it apart. -/
def typeTest : Grammar Symbol :=
  row [word "instanceof", optional (word "final"),
    either (rule .recordPattern)
      (both (rule .type) (optional (identifier ["instanceof"])))]

/-- An expression. -/
def expression (inLabel : Bool) : Grammar Symbol :=
  node .expression [
    rule (.operand inLabel),
    many (oneOf [
      both binaryOperator (rule (.operand inLabel)),
      row [mark "?", rule (.expression false), mark ":", rule (.operand inLabel)],
      typeTest])]

/-! ### Patterns -/

/-- A generic type that a record pattern names. -/
def genericName : Grammar Symbol :=
  level (row [
    leaf .typeIdentifier (.name variableKeywords),
    many (row [mark ".", leaf .typeIdentifier (.name memberKeywords),
      close .scopedTypeIdentifier]),
    rule .typeArguments,
    close .genericType])

/-- One component of a record pattern. -/
def patternComponent : Grammar Symbol :=
  either (node .patternComponent [unannotatedType expressionWords, anyName])
    (node .patternComponent [word "_"])

/-- A pattern that takes a record apart. -/
def recordPattern : Grammar Symbol :=
  node .recordPattern [
    either genericName (identifier variableKeywords),
    mark "(", listOf (either (rule .recordPattern) patternComponent), mark ")"]

/-- A pattern that tests a type and names the value. -/
def typePattern : Grammar Symbol :=
  node .typePattern [unannotatedType typeInExpressionKeywords, anyName]

end JavaIndex.Java.Rules
