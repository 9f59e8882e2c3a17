/-!
# Scalars in settings text

Reading single values out of settings text, character by character: plain ones,
which end where the text around them begins, and quoted ones, which end at their
quote. Both may go on over several lines; a single line end between two words
counts as a blank, further ones as line ends.

## Main definitions

* `Yaml.Cursor` — the text still to be read, and where in the lines it starts
* `Yaml.skipSpace` — the cursor past blanks, line ends and comments
* `Yaml.Scalar`, `Yaml.readScalar` — a single value, and how it is read
-/

namespace JavaIndex.Yaml

/-- The text still to be read. -/
structure Cursor where
  rest : List Char
  line : Nat
  column : Nat
  /-- Whether the line has nothing but its indentation so far. -/
  fresh : Bool

/-- What is read inside brackets ignores indentation. -/
inductive Context where
  | block
  | flow
  deriving DecidableEq, Repr

/-- Whether a token ends here: at a blank, a line end or the end of the text. -/
def endsToken : List Char → Bool
  | [] => true
  | c :: _ => c == ' ' || c == '\t' || c == '\n'

/-- Whether a line that starts or ends a document begins here. -/
def isDocumentMark (column : Nat) : List Char → Bool
  | a :: b :: c :: rest =>
    column == 0 && a == b && b == c && (a == '-' || a == '.') && endsToken rest
  | _ => false

namespace Cursor

/-- Whether the text is read, or a line that starts or ends a document begins. -/
def atEnd (cursor : Cursor) : Bool :=
  cursor.rest.isEmpty || isDocumentMark cursor.column cursor.rest

/-- The cursor after a token of so many characters on one line. -/
def past (cursor : Cursor) (count : Nat) : Cursor :=
  ⟨cursor.rest.drop count, cursor.line, cursor.column + count, false⟩

/-- Whether a token of one given character stands here. -/
def at? (cursor : Cursor) (mark : Char) : Bool :=
  match cursor.rest with
  | c :: rest => c == mark && endsToken rest
  | [] => false

end Cursor

/-- Skips blanks, line ends and comments. Tabs do not indent. -/
def skipSpaceFrom (context : Context) (inComment : Bool) (line column : Nat) (fresh : Bool) :
    List Char → Cursor
  | [] => ⟨[], line, column, fresh⟩
  | c :: rest =>
    if c = '\n' then skipSpaceFrom context false (line + 1) 0 true rest
    else if inComment then skipSpaceFrom context true line (column + 1) fresh rest
    else if c = ' ' || (c = '\t' && (context = .flow || !fresh)) then
      skipSpaceFrom context false line (column + 1) fresh rest
    else if c = '#' then skipSpaceFrom context true line (column + 1) fresh rest
    else ⟨c :: rest, line, column, fresh⟩

/-- The cursor past blanks, line ends and comments. -/
def skipSpace (context : Context) (cursor : Cursor) : Cursor :=
  skipSpaceFrom context false cursor.line cursor.column cursor.fresh cursor.rest

/-- A single value. -/
structure Scalar where
  text : String
  /-- Whether it was written without quotes. -/
  plain : Bool
  deriving DecidableEq, Repr

/-- What stands between two words of a value. -/
inductive Gap where
  | none
  /-- Blanks, the last one first. -/
  | blanks (reversed : List Char)
  /-- So many line ends. -/
  | breaks (count : Nat)
  /-- A line end that was taken back, and so many after it. -/
  | joined (count : Nat)

namespace Gap

/-- What a gap adds to the text, last character first. -/
def fold : Gap → List Char
  | none => []
  | blanks reversed => reversed
  | breaks count => if count ≤ 1 then [' '] else List.replicate (count - 1) '\n'
  | joined count => List.replicate count '\n'

/-- The gap with a blank added; blanks around line ends do not count. -/
def blank (c : Char) : Gap → Gap
  | none => blanks [c]
  | blanks reversed => blanks (c :: reversed)
  | gap => gap

/-- The gap with a line end added. -/
def lineEnd : Gap → Gap
  | none => breaks 1
  | blanks _ => breaks 1
  | breaks count => breaks (count + 1)
  | joined count => joined (count + 1)

/-- Whether a line has ended in the gap. -/
def isBroken : Gap → Bool
  | breaks _ => true
  | joined _ => true
  | _ => false

end Gap

/-! ### Plain values -/

/-- Characters that open, close or separate inside brackets. -/
def isFlowMark (c : Char) : Bool :=
  c == ',' || c == '[' || c == ']' || c == '\x7b' || c == '\x7d'

/-- Whether a plain value may start here. -/
def startsPlain (context : Context) : List Char → Bool
  | [] => false
  | '-' :: rest => !(endsToken rest)
  | '?' :: rest => context = .block && !endsToken rest
  | ':' :: rest => context = .block && !endsToken rest
  | c :: _ => !(" \t\n,[]\x7b\x7d#&*!|>'\"%@\x60".toList.contains c)

/-- Whether a plain value ends before this text, which does not start with a blank. -/
def endsPlain (context : Context) (least column : Nat) (gap : Gap) (text : List Char) : Bool :=
  match text with
  | [] => true
  | c :: rest =>
    (c == ':' && endsToken rest) || (context = .flow && isFlowMark c) ||
      match gap with
      | .none => false
      | .blanks _ => c == '#'
      | _ => c == '#' || isDocumentMark column text || (context = .block && column < least)

/-- Whether a colon right before a bracket or a comma makes the text unreadable. -/
def strayColon (context : Context) : List Char → Bool
  | ':' :: c :: _ => context = .flow && (isFlowMark c || c == '?')
  | _ => false

/-- Reads on in a plain value whose lines start at column `least` or later; `read` is
what was read so far, last character first. -/
def readPlainFrom (context : Context) (least : Nat) (read : List Char) (gap : Gap)
    (line column : Nat) : List Char → Except String (Scalar × Cursor)
  | [] => .ok (⟨String.ofList read.reverse, true⟩, ⟨[], line, column, gap.isBroken⟩)
  | c :: rest =>
    if c = '\n' then readPlainFrom context least read gap.lineEnd (line + 1) 0 rest
    else if c = ' ' || c = '\t' then
      if c = '\t' && gap.isBroken && column < least then .error "a tab cannot indent"
      else readPlainFrom context least read (gap.blank c) line (column + 1) rest
    else if endsPlain context least column gap (c :: rest) then
      .ok (⟨String.ofList read.reverse, true⟩, ⟨c :: rest, line, column, gap.isBroken⟩)
    else if strayColon context (c :: rest) then .error "unexpected colon"
    else readPlainFrom context least (c :: gap.fold ++ read) .none line (column + 1) rest

/-! ### Quoted values -/

/-- Where in a quoted value the reader stands. -/
inductive QuoteState where
  | text
  | escape
  /-- Inside a character code with so many digits to come. -/
  | code (left value : Nat)

/-- The character that a letter after a backslash stands for. -/
def escapedChar? (c : Char) : Option Char :=
  match c with
  | '0' => some '\x00'
  | 'a' => some '\x07'
  | 'b' => some '\x08'
  | 't' => some '\t'
  | '\t' => some '\t'
  | 'n' => some '\n'
  | 'v' => some '\x0b'
  | 'f' => some '\x0c'
  | 'r' => some '\r'
  | 'e' => some '\x1b'
  | ' ' => some ' '
  | '"' => some '"'
  | '/' => some '/'
  | '\\' => some '\\'
  | 'N' => some '\u0085'
  | '_' => some '\u00a0'
  | 'L' => some '\u2028'
  | 'P' => some '\u2029'
  | _ => none

/-- The number of digits of the character code that a letter announces. -/
def codeLength? (c : Char) : Option Nat :=
  match c with
  | 'x' => some 2
  | 'u' => some 4
  | 'U' => some 8
  | _ => none

/-- The value of a hexadecimal digit. -/
def digitValue? (c : Char) : Option Nat :=
  if '0' ≤ c && c ≤ '9' then some (c.toNat - 48)
  else if 'a' ≤ c && c ≤ 'f' then some (c.toNat - 87)
  else if 'A' ≤ c && c ≤ 'F' then some (c.toNat - 55)
  else none

/-- Reads on in a quoted value; only between double quotes are there escapes. -/
def readQuotedFrom (quote : Char) (state : QuoteState) (read : List Char) (gap : Gap)
    (line column : Nat) : List Char → Except String (Scalar × Cursor)
  | [] => .error "unclosed quote"
  | c :: rest =>
    match state with
    | .escape =>
      if c = '\n' then readQuotedFrom quote .text (gap.fold ++ read) (.joined 0) (line + 1) 0 rest
      else
        match escapedChar? c, codeLength? c with
        | some value, _ =>
          readQuotedFrom quote .text (value :: gap.fold ++ read) .none line (column + 1) rest
        | none, some digits =>
          readQuotedFrom quote (.code digits 0) (gap.fold ++ read) .none line (column + 1) rest
        | none, none => .error "unknown escape"
    | .code left value =>
      match digitValue? c with
      | none => .error "a character code needs more digits"
      | some digit =>
        let value := 16 * value + digit
        if 1 < left then
          readQuotedFrom quote (.code (left - 1) value) read .none line (column + 1) rest
        else if (0xd800 ≤ value && value ≤ 0xdfff) || 0x110000 ≤ value then
          .error "invalid character code"
        else readQuotedFrom quote .text (Char.ofNat value :: read) .none line (column + 1) rest
    | .text =>
      if c = '\n' then readQuotedFrom quote .text read gap.lineEnd (line + 1) 0 rest
      else if c = ' ' || c = '\t' then
        readQuotedFrom quote .text read (gap.blank c) line (column + 1) rest
      else if isDocumentMark column (c :: rest) then .error "the document ends inside a quote"
      else if c = '\\' && quote = '"' then
        readQuotedFrom quote .escape read gap line (column + 1) rest
      else if c ≠ quote then
        readQuotedFrom quote .text (c :: gap.fold ++ read) .none line (column + 1) rest
      else
        match rest with
        | next :: rest' =>
          if next = quote && quote = '\'' then
            readQuotedFrom quote .text (c :: gap.fold ++ read) .none line (column + 2) rest'
          else
            .ok (⟨String.ofList (gap.fold ++ read).reverse, false⟩,
              ⟨rest, line, column + 1, false⟩)
        | [] =>
          .ok (⟨String.ofList (gap.fold ++ read).reverse, false⟩, ⟨[], line, column + 1, false⟩)

/-- Reads a plain or quoted value; its further lines start at column `least` or later. -/
def readScalar (context : Context) (least : Nat) (cursor : Cursor) :
    Except String (Scalar × Cursor) :=
  match cursor.rest with
  | '"' :: rest => readQuotedFrom '"' .text [] .none cursor.line (cursor.column + 1) rest
  | '\'' :: rest => readQuotedFrom '\'' .text [] .none cursor.line (cursor.column + 1) rest
  | rest =>
    if startsPlain context rest && !isDocumentMark cursor.column rest then
      readPlainFrom context least [] .none cursor.line cursor.column rest
    else .error "expected a value"

end JavaIndex.Yaml
