import JavaIndex.Java.Rules.Expressions

/-!
# Rules for statements

A statement that can be read as the declaration of a variable is one: `a < b > c;`
declares `c`. The words that start a statement or a declaration are keywords at
its first place, so no variable of such a name can be used there.

## Main definitions

* `Java.Rules.statement`, `Java.Rules.block` — statements
* `Java.Rules.switchBlock` — the branches of a switch
* `Java.Rules.localVariable` — the declaration of variables
-/

namespace JavaIndex.Java.Rules

open Grammar

/-- The keywords that start a statement or a declaration and never name anything there. -/
def statementKeywords : List String :=
  modifierWords ++ ["class", "interface", "enum", "import", "package", "if", "while", "for", "do",
    "try", "return", "break", "continue", "throw", "assert"]

/-- The keywords possible where a statement starts with a type. -/
def typeInStatementKeywords : List String :=
  statementKeywords ++ expressionWords ++ softWords

/-! ### Variables -/

/-- The name of a declared variable, with dimensions. -/
def variableName (keywords : List String) : Grammar Symbol :=
  both (identifier keywords) (optional (rule .dimensions))

/-- A declared variable with its value. -/
def variableDeclarator : Grammar Symbol :=
  node .variableDeclarator [variableName [],
    optional (both (mark "=") (either (rule .arrayInitializer) (rule (.expression false))))]

/-- Declared variables. -/
def variableDeclarators : Grammar Symbol :=
  separated "," variableDeclarator

/-- The declaration of local variables. -/
def localVariable : Grammar Symbol :=
  node .localVariable [optional (rule .modifiers), unannotatedType typeInStatementKeywords,
    variableDeclarators, mark ";"]

/-! ### Simple statements -/

/-- An expression that stands as a statement. -/
def expressionStatement : Grammar Symbol :=
  node .statement [rule (.expression false), mark ";"]

/-- A statement that raises an exception. -/
def throwStatement : Grammar Symbol :=
  node .statement [word "throw", rule (.expression false), mark ";"]

/-- Statements in braces. -/
def block : Grammar Symbol :=
  node .block [openBrace, many (rule .statement), closeBrace]

/-! ### Switches -/

/-- The label of a switch branch. -/
def switchLabel : Grammar Symbol :=
  let guard := optional (node .guard [word "when", rule (.expression true)])
  either
    (node .switchLabel [word "case",
      either
        (row [either (rule .recordPattern) typePattern, guard, ahead (anyMark ["->", ":"])])
        (row [separated "," (rule (.expression true)), guard])])
    (node .switchLabel [word "default"])

/-- The branches of a switch, all with arrows or all with colons. -/
def switchBlock : Grammar Symbol :=
  let branch := node .switchRule [switchLabel, mark "->",
    oneOf [rule .block, throwStatement, expressionStatement]]
  let group := node .switchGroup [oneOrMore (both switchLabel (mark ":")), many (rule .statement)]
  either (node .switchBlock [openBrace, many branch, closeBrace])
    (node .switchBlock [openBrace, many group, closeBrace])

/-! ### Compound statements -/

/-- A handler of exceptions. -/
def catchClause : Grammar Symbol :=
  node .catchClause [word "catch", mark "(",
    node .catchParameter [optional (rule .modifiers),
      separated "|" (unannotatedType modifierWords), variableName []],
    mark ")", rule .block]

/-- What is done in any case. -/
def finallyClause : Grammar Symbol :=
  node .finallyClause [word "finally", rule .block]

/-- A field, reached through any primary expression. -/
def fieldAccess : Grammar Symbol :=
  let dot := both (mark ".") (either (both (identifier memberKeywords) (absent (mark "(")))
    (word "this"))
  let onward := ahead (anyMark [".", "[", "::"])
  row [
    either (both (word "super") (optional (both (mark ".") (word "super"))))
      (primaryStart false),
    many (both (primarySuffix false) onward),
    dot]

/-- A resource: declared here, or a variable or field from before. -/
def resource : Grammar Symbol :=
  oneOf [
    node .localVariable [optional (rule .modifiers),
      unannotatedType (modifierWords ++ expressionWords), variableName [], mark "=",
      rule (.expression false)],
    node .expression [fieldAccess],
    identifier variableKeywords]

/-- A block with its resources, handlers and cleanup. -/
def tryStatement : Grammar Symbol :=
  let handled := either (both (many catchClause) finallyClause) (oneOrMore catchClause)
  let resources := node .resources [mark "(", separated ";" resource, optional (mark ";"), mark ")"]
  both (word "try") (either
    (both (rule .block) handled)
    (row [resources, rule .block, many catchClause, optional finallyClause]))

/-- The three kinds of loop headers, each with its body. -/
def forStatement : Grammar Symbol :=
  let header := oneOf [
    row [optional (rule .modifiers), unannotatedType typeInStatementKeywords, variableName [],
      mark ":", rule (.expression false)],
    row [either localVariable (both (listOf (rule (.expression false))) (mark ";")),
      optional (rule (.expression false)), mark ";", listOf (rule (.expression false))]]
  row [word "for", mark "(", header, mark ")", rule .statement]

/-- Statements that start with a keyword. -/
def keywordStatement : Grammar Symbol :=
  node .statement [oneOf [
    row [word "if", parenthesized, rule .statement,
      optional (both (word "else") (rule .statement))],
    row [word "while", parenthesized, rule .statement],
    forStatement,
    row [word "do", rule .statement, word "while", parenthesized, mark ";"],
    tryStatement,
    row [word "return", optional (rule (.expression false)), mark ";"],
    row [anyWord ["break", "continue"], optional anyName, mark ";"],
    row [word "throw", rule (.expression false), mark ";"],
    row [word "assert", rule (.expression false),
      optional (both (mark ":") (rule (.expression false))), mark ";"],
    row [word "yield", rule (.expression false), mark ";"],
    row [word "synchronized", parenthesized, rule .block]]]

/-- A statement with a label. -/
def labeledStatement : Grammar Symbol :=
  node .statement [identifier (typeInStatementKeywords ++ typeWords), mark ":", rule .statement]

/-- Any statement; `declaration` are the declarations that may stand as one. -/
def statement (declaration : Grammar Symbol) : Grammar Symbol :=
  oneOf [
    mark ";",
    rule .block,
    keywordStatement,
    switchExpression,
    declaration,
    labeledStatement,
    localVariable,
    both (absent (anyWord statementKeywords)) expressionStatement]

end JavaIndex.Java.Rules
