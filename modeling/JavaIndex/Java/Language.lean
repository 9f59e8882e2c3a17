import JavaIndex.Java.Rules.Declarations
import JavaIndex.Error

/-!
# The language

The rules tied together, and the parser they make: a source is in the language
when it consists of tokens and the rule for files matches all of them.

## Main definitions

* `Java.rules` — what each rule stands for
* `Java.parseTokens` — the tree of a whole file of tokens
* `Java.parse` — the tree of a source, or where it leaves the language
-/

namespace JavaIndex.Java

/-- What each rule stands for. -/
def rules : Symbol → Grammar Symbol
  | .program => Rules.program
  | .annotationUse => Rules.annotationUse
  | .annotationArguments => Rules.annotationArguments
  | .elementValue => Rules.elementValue
  | .type => Rules.anyType []
  | .dimensions => Rules.dimensions
  | .typeArguments => Rules.typeArguments
  | .typeParameters => Rules.typeParameters
  | .formalParameters => Rules.formalParameters
  | .expression inLabel => Rules.expression inLabel
  | .operand inLabel => Rules.operand inLabel
  | .arguments => Rules.arguments
  | .arrayInitializer => Rules.arrayInitializer
  | .recordPattern => Rules.recordPattern
  | .switchBlock => Rules.switchBlock
  | .block => Rules.block
  | .statement => Rules.statement Rules.declaration
  | .modifiers => Rules.modifiers
  | .classBody => Rules.classBody
  | .interfaceBody => Rules.interfaceBody
  | .enumBody => Rules.enumBody
  | .annotationTypeBody => Rules.annotationTypeBody

/-- The tree of a file, or the tokens from the first statement on that is none. -/
def parseTokens (tokens : List Token) : Except (List Token) Node :=
  match Grammar.parse rules .program tokens with
  | some (nodes, []) => .ok (.branch .program nodes)
  | some (_, rest) => .error rest
  | none => .error tokens

/-- The line and the column, counted from one, right after the given characters. -/
def positionAfter (read : List Char) : Nat × Nat :=
  (1 + read.count '\n', 1 + (read.reverse.takeWhile (· ≠ '\n')).length)

/-- The number of characters that tokens and the gaps in front of them take. -/
def extent (tokens : List Token) : Nat :=
  tokens.foldl (fun total token => total + token.gap.length + token.text.length) 0

/-- The error for a source that leaves the language after the given number of characters: the
end of its tokens or the start of the top-level statement that cannot be read. This is an
approximation. The tree is not mended to go on reading, so neither the kind, which is `ERROR`
also where something is merely missing, nor the position is that of the first faulty node of a
mended tree. Nothing but the text of the error depends on them. -/
def malformedAfter (source : List Char) (read : Nat) : ParseError :=
  let (line, column) := positionAfter (source.take read)
  .malformed line column "ERROR"

/-- The tree of a source, or where it leaves the language. -/
def parse (source : String) : Except ParseError Node :=
  let chars := source.toList
  match tokenize chars with
  | .error unread => .error (malformedAfter chars (chars.length - unread.length))
  | .ok tokens =>
    match parseTokens tokens with
    | .ok tree => .ok tree
    | .error rest => .error (malformedAfter chars (extent tokens - extent rest))

end JavaIndex.Java
