import JavaIndex.Text.Identifier

/-!
# Tokens of Java sources

A source is a sequence of tokens with gaps between them; a gap holds white space
and comments. Words are not divided into keywords and identifiers here: whether a
word is a keyword depends on where it stands, and the grammar decides that. The
sign `>` is always a token of its own, so that closing type arguments and the
shift operators can share it; an operator made of several tokens has no gaps
inside.

A text literal with embedded expressions is cut at them, so that each embedded
expression is lexed like any other.

## Main definitions

* `Java.Token` — a token with the gap in front of it
* `Java.lexemeLength?` — the longest token at the front of a source
* `Java.tokenize` — the tokens of a source, or how much of it was left unread
-/

namespace JavaIndex.Java

/-- The sorts of tokens. -/
inductive TokenSort where
  | word
  | number
  | character
  /-- A whole text literal. -/
  | text
  /-- A text literal up to its first embedded expression. -/
  | textOpen
  /-- A text literal between two embedded expressions. -/
  | textMiddle
  /-- A text literal after its last embedded expression. -/
  | textClose
  /-- An operator or a separator. -/
  | mark
  deriving DecidableEq, Repr

/-- A token and the gap in front of it. -/
structure Token where
  sort : TokenSort
  text : String
  gap : String
  deriving DecidableEq, Repr

/-! ### Gaps -/

/-- The white space of the language. -/
def isSpace (c : Char) : Bool :=
  c = ' ' || (0x9 ≤ c.toNat && c.toNat ≤ 0xd)

/-- Reads to the end of a block comment, which has to be there; what was read is
put on the reversed `taken`. -/
def closeComment (taken : List Char) : List Char → Option (List Char × List Char)
  | [] => none
  | '*' :: '/' :: rest => some ('/' :: '*' :: taken, rest)
  | c :: rest => closeComment (c :: taken) rest

/-- Reads white space and comments, at most `fuel` pieces of them; what was read is
put on the reversed `taken`. -/
def readGap : Nat → List Char → List Char → List Char × List Char
  | 0, taken, source => (taken, source)
  | fuel + 1, taken, source =>
    match source with
    | '/' :: '/' :: rest =>
      let (line, after) := rest.span (· ≠ '\n')
      readGap fuel (line.reverse ++ ('/' :: '/' :: taken)) after
    | '/' :: '*' :: rest =>
      match closeComment ('*' :: '/' :: taken) rest with
      | some (taken, after) => readGap fuel taken after
      | none => (taken, source)
    | c :: rest => if isSpace c then readGap fuel (c :: taken) rest else (taken, source)
    | [] => (taken, [])

/-! ### Numbers -/

/-- Digits that may be separated by single underscores, once a first one was read. -/
def digitsAfter (digit : Char → Bool) : List Char → Nat
  | [] => 0
  | c :: rest =>
    if digit c then 1 + digitsAfter digit rest
    else if c = '_' && rest.head?.any digit then 1 + digitsAfter digit rest
    else 0

/-- The length of a run of digits separated by single underscores. -/
def digitsLength (digit : Char → Bool) : List Char → Nat
  | [] => 0
  | c :: rest => if digit c then 1 + digitsAfter digit rest else 0

/-- Digits that may be separated by several underscores; `pending` underscores were
read since the last digit. -/
def looseDigits (pending : Nat) : List Char → Nat
  | [] => 0
  | c :: rest =>
    if Text.isDecimalDigit c then pending + 1 + looseDigits 0 rest
    else if c = '_' then looseDigits (pending + 1) rest
    else 0

/-- The length of a decimal number: a zero, or digits that start with another one,
of which only the first may not be followed by several underscores. -/
def decimalLength : List Char → Nat
  | '0' :: _ => 1
  | c :: rest =>
    if Text.isDecimalDigit c then
      match rest with
      | '_' :: d :: more => if Text.isDecimalDigit d then 3 + looseDigits 0 more else 1
      | _ => 1 + looseDigits 0 rest
    else 0
  | [] => 0

/-- Hexadecimal digits. -/
def isHexDigit (c : Char) : Bool :=
  Text.isDecimalDigit c || ('a' ≤ c && c ≤ 'f') || ('A' ≤ c && c ≤ 'F')

/-- Octal digits. -/
def isOctalDigit (c : Char) : Bool := '0' ≤ c && c ≤ '7'

/-- Binary digits. -/
def isBinaryDigit (c : Char) : Bool := c = '0' || c = '1'

/-- One if the next character is among `letters`, else zero. -/
def oneIfAmong (letters : List Char) : List Char → Nat
  | c :: _ => if letters.contains c then 1 else 0
  | [] => 0

/-- The length of an exponent, mark and sign included; zero where there is none. -/
def exponentLength (marks : List Char) (digits : List Char → Nat) (source : List Char) : Nat :=
  if oneIfAmong marks source = 0 then 0
  else
    let sign := oneIfAmong ['+', '-'] (source.drop 1)
    match digits (source.drop (1 + sign)) with
    | 0 => 0
    | n => 1 + sign + n

/-- A decimal exponent. -/
def decimalExponent (source : List Char) : Nat :=
  exponentLength ['e', 'E'] (digitsLength Text.isDecimalDigit) source

/-- `first`, if it read something, and then `next`, which may read nothing. -/
def andThen (first : Nat) (next : List Char → Nat) (source : List Char) : Nat :=
  if first = 0 then 0 else first + next (source.drop first)

/-- The suffix of a long integer. -/
def longSuffix : List Char → Nat := oneIfAmong ['l', 'L']

/-- The suffix of a floating-point number. -/
def floatSuffix : List Char → Nat := oneIfAmong ['f', 'F', 'd', 'D']

/-- A decimal exponent and the suffix of a floating-point number, either of which may be missing. -/
def floatTail (source : List Char) : Nat :=
  let exponent := decimalExponent source
  exponent + floatSuffix (source.drop exponent)

/-- Integers after a prefix such as `0x`. -/
def prefixedInteger (letters : List Char) (digit : Char → Bool) : List Char → Nat
  | '0' :: c :: rest =>
    if letters.contains c then
      match digitsLength digit rest with
      | 0 => 0
      | n => 2 + n + longSuffix (rest.drop n)
    else 0
  | _ => 0

/-- Octal integers that start with a bare zero. -/
def bareOctal : List Char → Nat
  | '0' :: rest =>
    match digitsLength isOctalDigit rest with
    | 0 => 0
    | n => 1 + n + longSuffix (rest.drop n)
  | _ => 0

/-- Floating-point numbers with a point. -/
def pointedFloat (source : List Char) : Nat :=
  let whole := digitsLength Text.isDecimalDigit source
  match source.drop whole with
  | '.' :: rest =>
    let fraction := digitsLength Text.isDecimalDigit rest
    if whole = 0 && fraction = 0 then 0
    else whole + 1 + fraction + floatTail (rest.drop fraction)
  | _ => 0

/-- Floating-point numbers without a point, made so by an exponent or a suffix. -/
def plainFloat (source : List Char) : Nat :=
  let whole := decimalLength source
  if whole = 0 then 0
  else
    match floatTail (source.drop whole) with
    | 0 => 0
    | n => whole + n

/-- Hexadecimal floating-point numbers, whose exponent may be missing. -/
def hexFloat : List Char → Nat
  | '0' :: c :: rest =>
    if c = 'x' || c = 'X' then
      let whole := digitsLength isHexDigit rest
      let point := oneIfAmong ['.'] (rest.drop whole)
      let fraction := if point = 0 then 0 else digitsLength isHexDigit (rest.drop (whole + 1))
      let body := whole + point + fraction
      if whole = 0 && fraction = 0 then 0
      else
        let after := rest.drop body
        let exponent := exponentLength ['p', 'P'] decimalLength after
        let suffix := if exponent = 0 then 0 else floatSuffix (after.drop exponent)
        2 + body + exponent + suffix
    else 0
  | _ => 0

/-- The length of the longest number at the front. -/
def numberLength (source : List Char) : Nat :=
  let decimal := andThen (decimalLength source) longSuffix source
  [prefixedInteger ['x', 'X'] isHexDigit source, prefixedInteger ['o', 'O'] isOctalDigit source,
    prefixedInteger ['b', 'B'] isBinaryDigit source, bareOctal source, pointedFloat source,
    plainFloat source, hexFloat source].foldl max decimal

/-! ### Literals of characters and texts -/

/-- The length of the rest of a character literal, its closing quote included. -/
def characterTail (length : Nat) : List Char → Option Nat
  | [] => none
  | '\\' :: _ :: rest => characterTail (length + 2) rest
  | c :: rest =>
    if c = '\'' then (if length = 0 then none else some (length + 1))
    else if c = '\n' || c = '\\' then none
    else characterTail (length + 1) rest

/-- The two ways to write a text: between single or between triple quotes. -/
inductive Quote where
  | single
  | triple
  deriving DecidableEq, Repr

/-- Whether the escape that starts with `c` and goes on with `rest` is complete. -/
def isEscape (c : Char) (rest : List Char) : Bool :=
  if c = 'x' then (rest.take 2).length = 2 && (rest.take 2).all isHexDigit
  else if c = 'u' then
    match rest with
    | '\x7b' :: more =>
      let digits := more.takeWhile isHexDigit
      !digits.isEmpty && (more.drop digits.length).head? == some '\x7d'
    | _ => (rest.take 4).length = 4 && (rest.take 4).all isHexDigit
  else true

/-- The length of a text from inside it to its closing quote, or to the embedded
expression that interrupts it; the flag says that the text was closed. -/
def textTail (quote : Quote) (length : Nat) : List Char → Option (Bool × Nat)
  | [] => none
  | '\\' :: c :: rest =>
    if c = '\x7b' then some (false, length + 2)
    else if quote = .triple || isEscape c rest then textTail quote (length + 2) rest
    else none
  | '"' :: rest =>
    match quote with
    | .single => some (true, length + 1)
    | .triple =>
      if rest.head? = some '"' && rest.tail.head? = some '"' then some (true, length + 3)
      else textTail quote (length + 1) rest
  | c :: rest => if c = '\\' then none else textTail quote (length + 1) rest

/-- The quote a text starts with, and its length. -/
def openQuote : List Char → Option (Quote × Nat)
  | '"' :: '"' :: '"' :: _ => some (.triple, 3)
  | '"' :: _ => some (.single, 1)
  | _ => none

/-! ### Marks -/

/-- Operators and separators, longer ones before their own beginnings. -/
def marks : List String := [
  "@interface", "...", "<<=", "->", "::", "++", "--", "&&", "||", "==", "!=", "<=", "+=", "-=",
  "*=", "/=", "&=", "|=", "^=", "%=", "<<", "(", ")", "\x7b", "\x7d", "[", "]", ";", ",", ".",
  "@", "=", ">", "<", "!", "~", "?", ":", "+", "-", "*", "/", "&", "|", "^", "%"]

/-- The length of the longest mark at the front. -/
def markLength? (source : List Char) : Option Nat :=
  (marks.find? fun mark => mark.toList.isPrefixOf source).map String.length

/-! ### Tokens -/

/-- The sort and length of the longest token at the front of a source. -/
def lexemeLength? (source : List Char) : Option (TokenSort × Nat) :=
  match source with
  | [] => none
  | c :: rest =>
    if Text.isIdentifierStart c then
      some (.word, 1 + (rest.takeWhile Text.isIdentifierPart).length)
    else if c = '\'' then
      (characterTail 0 rest).map fun n => (.character, 1 + n)
    else if c = '"' then
      (openQuote source).bind fun (quote, opening) =>
        (textTail quote opening (source.drop opening)).map fun (closed, n) =>
          (if closed then .text else .textOpen, n)
    else
      match numberLength source with
      | 0 => (markLength? source).map fun n => (.mark, n)
      | n => some (.number, n)

/-- An embedded expression that is being read: how the text around it is quoted, and
how many braces are open inside. -/
structure Embedding where
  quote : Quote
  braces : Nat

/-- The embeddings after a brace or the beginning of a text was read. -/
def Embedding.after (stack : List Embedding) (sort : TokenSort) (lexeme : List Char) :
    List Embedding :=
  match sort, stack with
  | .textOpen, _ =>
    match openQuote lexeme with
    | some (quote, _) => ⟨quote, 0⟩ :: stack
    | none => stack
  | .textClose, _ :: outer => outer
  | .mark, top :: outer =>
    if lexeme = ['\x7b'] then { top with braces := top.braces + 1 } :: outer
    else if lexeme = ['\x7d'] then { top with braces := top.braces - 1 } :: outer
    else stack
  | _, _ => stack

/-- The next token where texts may be interrupted: a closing brace that ends an
embedded expression resumes the text around it. -/
def nextLexeme? (stack : List Embedding) (source : List Char) : Option (TokenSort × Nat) :=
  match stack, source with
  | ⟨quote, 0⟩ :: _, '\x7d' :: rest =>
    (textTail quote 1 rest).map fun (closed, n) => (if closed then .textClose else .textMiddle, n)
  | _, _ => lexemeLength? source

/-- Reads tokens until the source ends; the tokens read are put on the reversed
`taken`. Fails with the characters in front of which no token was found. -/
def readTokens : Nat → List Embedding → List Token → List Char → List Char →
    Except (List Char) (List Token)
  | 0, _, _, _, source => .error source
  | fuel + 1, stack, taken, gap, source =>
    let (gap, source) := readGap fuel gap source
    match source with
    | [] => .ok taken.reverse
    | _ =>
      match nextLexeme? stack source with
      | none => .error source
      | some (sort, length) =>
        let (lexeme, rest) := source.splitAt length
        let token : Token := ⟨sort, String.ofList lexeme, String.ofList gap.reverse⟩
        readTokens fuel (Embedding.after stack sort lexeme) (token :: taken) [] rest

/-- The tokens of a source. A byte order mark in front counts as part of the first
gap. Fails with the characters in front of which no token was found. -/
def tokenize (source : List Char) : Except (List Char) (List Token) :=
  match source with
  | '\ufeff' :: rest => readTokens (rest.length + 2) [] [] ['\ufeff'] rest
  | _ => readTokens (source.length + 2) [] [] [] source

end JavaIndex.Java
