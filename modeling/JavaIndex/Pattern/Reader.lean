import JavaIndex.Pattern.Basic

/-!
# Reading patterns

The written form of patterns: literals, `.`, classes in brackets, groups,
alternatives, repetition, anchors, and flags such as `(?i)`. Look-around and
back-references are refused.

## Main definitions

* `Pattern.Flags` — how letters, dots and line ends are read
* `Pattern.read` — the pattern a text stands for, or why it stands for none
-/

namespace JavaIndex.Pattern

/-- How the pattern that follows is read. -/
structure Flags where
  /-- Letters match in either case. -/
  anyCase : Bool := false
  /-- A dot matches line ends too. -/
  dotAll : Bool := false
  /-- `^` and `$` match at lines. -/
  multiline : Bool := false
  /-- Blanks and comments in the pattern mean nothing. -/
  spaced : Bool := false

/-! ### Characters -/

/-- The value of a hexadecimal digit. -/
def hexValue? (c : Char) : Option Nat :=
  if '0' ≤ c && c ≤ '9' then some (c.toNat - 48)
  else if 'a' ≤ c && c ≤ 'f' then some (c.toNat - 87)
  else if 'A' ≤ c && c ≤ 'F' then some (c.toNat - 55)
  else none

/-- The character that hexadecimal digits stand for. -/
def charOfHex? (digits : List Char) : Option Char :=
  match digits.mapM hexValue? with
  | some (first :: rest) =>
    let code := (first :: rest).foldl (fun value digit => value * 16 + digit) 0
    if code < 0xd800 || (0xdfff < code && code < 0x110000) then some (Char.ofNat code) else none
  | _ => none

/-- A character by its code: so many digits, or any number of them in braces. -/
def readCode (digits : Nat) (source : List Char) : Except String (Char × List Char) :=
  let (code, rest) := match source with
    | '\x7b' :: rest =>
      let inside := rest.takeWhile (· ≠ '\x7d')
      (inside, rest.drop (inside.length + 1))
    | _ => if source.length < digits then ([], source) else source.splitAt digits
  match charOfHex? code with
  | some c => .ok (c, rest)
  | none => .error "invalid character code"

/-- A letter that names one character after a backslash. -/
def namedChar? : Char → Option Char
  | 'a' => some '\x07'
  | 'f' => some '\x0c'
  | 't' => some '\t'
  | 'n' => some '\n'
  | 'r' => some '\r'
  | 'v' => some '\x0b'
  | _ => none

/-- A letter that names a set of characters after a backslash. -/
def namedSet? : Char → Option CharSet
  | 'd' => some .digit
  | 'D' => some (.compl .digit)
  | 's' => some .blank
  | 'S' => some (.compl .blank)
  | 'w' => some .word
  | 'W' => some (.compl .word)
  | _ => none

/-- A letter that names a condition after a backslash. -/
def namedAnchor? : Char → Option Anchor
  | 'A' => some .textStart
  | 'z' => some .textEnd
  | 'b' => some .wordBoundary
  | 'B' => some .noWordBoundary
  | '<' => some .wordStart
  | '>' => some .wordEnd
  | _ => none

/-- A name in braces that says more about a word boundary. -/
def boundary? : String → Option Anchor
  | "start" => some .wordStart
  | "end" => some .wordEnd
  | "start-half" => some .noWordBefore
  | "end-half" => some .noWordAfter
  | _ => none

/-- Reads a condition after its backslash, if there is one. Braces that start with a
letter say more about a word boundary; others repeat it. -/
def readAnchor? : List Char → Except String (Option (Anchor × List Char))
  | 'b' :: '\x7b' :: c :: rest =>
    if Text.isLatinLetter c || c = '-' then
      let name := (c :: rest).takeWhile (· ≠ '\x7d')
      match boundary? (String.ofList name), (c :: rest).drop name.length with
      | some condition, _ :: rest => .ok (some (condition, rest))
      | _, _ => .error "unrecognized word boundary"
    else .ok (some (.wordBoundary, '\x7b' :: c :: rest))
  | c :: rest => .ok ((namedAnchor? c).map fun condition => (condition, rest))
  | [] => .ok none

/-- Whether a character stands for itself after a backslash. -/
def standsForItself (c : Char) : Bool :=
  c.toNat < 128 && !Text.isLatinLetter c && !Text.isDecimalDigit c && c ≠ '<' && c ≠ '>'

/-- What one escape stands for where a character or a set may stand. -/
inductive Escaped where
  | char (c : Char)
  | set (set : CharSet)

/-- Reads an escape after its backslash. -/
def readEscape : List Char → Except String (Escaped × List Char)
  | [] => .error "trailing backslash"
  | 'x' :: rest => (readCode 2 rest).map fun (c, rest) => (.char c, rest)
  | 'u' :: rest => (readCode 4 rest).map fun (c, rest) => (.char c, rest)
  | 'U' :: rest => (readCode 8 rest).map fun (c, rest) => (.char c, rest)
  | c :: rest =>
    match namedSet? c, namedChar? c with
    | some members, _ => .ok (.set members, rest)
    | none, some character => .ok (.char character, rest)
    | none, none =>
      if standsForItself c then .ok (.char c, rest)
      else if Text.isDecimalDigit c then .error "backreferences are not supported"
      else .error "unrecognized escape sequence"

/-! ### Classes -/

/-- The members of a named class. -/
def posixClass? (name : String) : Option CharSet :=
  let decimal := CharSet.range '0' '9'
  let lower := CharSet.range 'a' 'z'
  let upper := CharSet.range 'A' 'Z'
  let alpha := CharSet.union lower upper
  let graph := CharSet.range '!' '~'
  match name with
  | "alnum" => some (.union alpha decimal)
  | "alpha" => some alpha
  | "ascii" => some (.range '\x00' '\x7f')
  | "blank" => some (.union (.single ' ') (.single '\t'))
  | "cntrl" => some (.union (.range '\x00' '\x1f') (.single '\x7f'))
  | "digit" => some decimal
  | "graph" => some graph
  | "lower" => some lower
  | "print" => some (.range ' ' '~')
  | "punct" => some (.minus graph (.union alpha decimal))
  | "space" => some (.union (.single ' ') (.range '\t' '\r'))
  | "upper" => some upper
  | "word" => some (.union (.union alpha decimal) (.single '_'))
  | "xdigit" => some (.union decimal (.union (.range 'a' 'f') (.range 'A' 'F')))
  | _ => none

/-- A named class such as `[:alpha:]`, after its opening bracket. -/
def readPosix? : List Char → Option (CharSet × List Char)
  | ':' :: rest =>
    let (negated, rest) := match rest with
      | '^' :: rest => (true, rest)
      | _ => (false, rest)
    let name := rest.takeWhile (· ≠ ':')
    match rest.drop name.length with
    | ':' :: ']' :: rest =>
      (posixClass? (String.ofList name)).map fun set => (if negated then .compl set else set, rest)
    | _ => none
  | _ => none

/-- One end of a range, or a set. -/
def readClassItem : List Char → Except String (Escaped × List Char)
  | [] => .error "unclosed character class"
  | '\\' :: rest => readEscape rest
  | c :: rest => .ok (.char c, rest)

/-- The set that one item alone stands for. -/
def Escaped.toSet : Escaped → CharSet
  | .char c => .single c
  | .set members => members

/-- One member of a class: a character, a range or a set. -/
def readClassMember (source : List Char) : Except String (CharSet × List Char) := do
  let (item, rest) ← readClassItem source
  match rest with
  | '-' :: next :: more =>
    if next = ']' || next = '-' then return (item.toSet, rest)
    else
      let (other, rest) ← readClassItem (next :: more)
      match item, other with
      | .char first, .char last =>
        if last < first then throw "invalid character class range"
        else return (.range first last, rest)
      | _, _ => throw "invalid range boundary"
  | _ => return (item.toSet, rest)

/-- The set with all case variants, where they are wanted. -/
def foldSet (anyCase : Bool) (set : CharSet) : CharSet :=
  if anyCase then .anyCase set else set

/-- How the set read so far goes together with the next one. -/
inductive Joining where
  | union
  | inter
  | minus
  | exclusive

/-- Two sets joined, each with its case variants where they are wanted. -/
def Joining.apply (anyCase : Bool) (joining : Joining) (left right : CharSet) : CharSet :=
  let left := foldSet anyCase left
  let right := foldSet anyCase right
  match joining with
  | union => .union left right
  | inter => .inter left right
  | minus => .minus left right
  | exclusive => .exclusive left right

mutual

/-- Reads a class after its opening bracket. Case variants are added before the class
is negated. -/
def readClass (anyCase : Bool) : Nat → List Char → Except String (CharSet × List Char)
  | 0, _ => .error "unclosed character class"
  | fuel + 1, source => do
    let (negated, source) := match source with
      | '^' :: rest => (true, rest)
      | _ => (false, source)
    let dashes := source.takeWhile (· = '-')
    let source := source.drop dashes.length
    let start := if dashes.isEmpty then CharSet.none else .single '-'
    let (set, rest) ← match source with
      | ']' :: rest =>
        if dashes.isEmpty then readMembers anyCase fuel .union .none (.single ']') rest
        else .ok (foldSet anyCase start, rest)
      | _ => readMembers anyCase fuel .union .none start source
    return (if negated then .compl set else set, rest)

/-- Reads the members of a class up to its closing bracket. The sets of earlier
operators are joined with the members read since. -/
def readMembers (anyCase : Bool) : Nat → Joining → CharSet → CharSet → List Char →
    Except String (CharSet × List Char)
  | 0, _, _, _, _ => .error "unclosed character class"
  | fuel + 1, joining, earlier, current, source =>
    match source with
    | [] => .error "unclosed character class"
    | ']' :: rest => .ok (joining.apply anyCase earlier current, rest)
    | '&' :: '&' :: rest =>
      readMembers anyCase fuel .inter (joining.apply anyCase earlier current) .none rest
    | '-' :: '-' :: rest =>
      readMembers anyCase fuel .minus (joining.apply anyCase earlier current) .none rest
    | '~' :: '~' :: rest =>
      readMembers anyCase fuel .exclusive (joining.apply anyCase earlier current) .none rest
    | '[' :: rest =>
      match readPosix? rest with
      | some (set, rest) => readMembers anyCase fuel joining earlier (.union current set) rest
      | none => do
        let (set, rest) ← readClass anyCase fuel rest
        readMembers anyCase fuel joining earlier (.union current set) rest
    | _ => do
      let (set, rest) ← readClassMember source
      readMembers anyCase fuel joining earlier (.union current set) rest

end

/-! ### Repetition -/

/-- A decimal number with blanks around it. -/
def readNumber (source : List Char) : Except String (Nat × List Char) :=
  let source := source.dropWhile (· = ' ')
  let digits := source.takeWhile Text.isDecimalDigit
  if digits.isEmpty then .error "repetition quantifier expects a valid decimal"
  else
    let value := digits.foldl (fun value c => value * 10 + (c.toNat - 48)) 0
    if value < 4294967296 then .ok (value, (source.drop digits.length).dropWhile (· = ' '))
    else .error "decimal literal invalid"

/-- A repetition in braces after the opening one: its least and greatest number. -/
def readCount (source : List Char) : Except String ((Nat × Option Nat) × List Char) := do
  let (least, rest) ← readNumber source
  match rest with
  | '\x7d' :: rest => return ((least, some least), rest)
  | ',' :: '\x7d' :: rest => return ((least, none), rest)
  | ',' :: rest =>
    let (most, rest) ← readNumber rest
    match rest with
    | '\x7d' :: rest =>
      if most < least then throw "invalid repetition count range"
      else return ((least, some most), rest)
    | _ => throw "unclosed counted repetition"
  | _ => throw "unclosed counted repetition"

/-- The quantifier at the front, if there is one. -/
def readQuantifier? : List Char → Except String (Option ((Nat × Option Nat) × List Char))
  | '*' :: rest => .ok (some ((0, none), rest))
  | '+' :: rest => .ok (some ((1, none), rest))
  | '?' :: rest => .ok (some ((0, some 1), rest))
  | '\x7b' :: rest => (readCount rest).map some
  | _ => .ok none

/-- Applies all quantifiers that follow a pattern. -/
def readQuantifiers : Nat → Pattern → List Char → Except String (Pattern × List Char)
  | 0, pattern, source => .ok (pattern, source)
  | fuel + 1, pattern, source => do
    match ← readQuantifier? source with
    | none => return (pattern, source)
    | some ((least, most), rest) =>
      let rest := match rest with
        | '?' :: more => more
        | _ => rest
      readQuantifiers fuel (.times pattern least most) rest

/-! ### Groups -/

/-- The flags in front of `)` or `:`, and whether a body follows. -/
def readFlags (flags : Flags) (seen : List Char) (on : Bool) :
    List Char → Except String ((Flags × Bool) × List Char)
  | [] => .error "unclosed group"
  | ')' :: rest =>
    if seen.isEmpty || seen.head? = some '-' then .error "missing flags"
    else .ok ((flags, false), rest)
  | ':' :: rest =>
    if seen.head? = some '-' then .error "dangling flag negation operator"
    else .ok ((flags, true), rest)
  | '-' :: rest =>
    if on then readFlags flags ('-' :: seen) false rest else .error "repeated flag negation"
  | c :: rest =>
    if seen.contains c then .error "duplicate flag"
    else
      match c with
      | 'i' => readFlags { flags with anyCase := on } (c :: seen) on rest
      | 's' => readFlags { flags with dotAll := on } (c :: seen) on rest
      | 'm' => readFlags { flags with multiline := on } (c :: seen) on rest
      | 'x' => readFlags { flags with spaced := on } (c :: seen) on rest
      | 'u' | 'U' | 'R' => readFlags flags (c :: seen) on rest
      | _ => .error "unrecognized flag"

/-- What an opening parenthesis starts. -/
inductive Opening where
  /-- A group with a body, read with these flags, and its name if it has one. -/
  | group (flags : Flags) (name : Option String)
  /-- Flags for what follows. -/
  | flags (flags : Flags)

/-- Reads the name of a group up to its closing angle. -/
def readGroupName (source : List Char) : Except String (String × List Char) :=
  let name := source.takeWhile (· ≠ '>')
  let starts := name.head?.any fun c => c = '_' || (Text.isWordChar c && !Text.isAnyDigit c)
  let continues := name.all fun c => Text.isWordChar c || c = '.' || c = '[' || c = ']'
  match source.drop name.length with
  | '>' :: rest =>
    if starts && continues then .ok (String.ofList name, rest) else .error "invalid group name"
  | _ => .error "unclosed group name"

/-- Reads what follows an opening parenthesis. -/
def readOpening (flags : Flags) : List Char → Except String (Opening × List Char)
  | '?' :: '=' :: _ => .error "look-around is not supported"
  | '?' :: '!' :: _ => .error "look-around is not supported"
  | '?' :: '<' :: '=' :: _ => .error "look-around is not supported"
  | '?' :: '<' :: '!' :: _ => .error "look-around is not supported"
  | '?' :: 'P' :: '<' :: rest =>
    (readGroupName rest).map fun (name, rest) => (.group flags (some name), rest)
  | '?' :: '<' :: rest =>
    (readGroupName rest).map fun (name, rest) => (.group flags (some name), rest)
  | '?' :: rest => do
    let ((inner, hasBody), rest) ← readFlags flags [] true rest
    return (if hasBody then .group inner none else .flags inner, rest)
  | rest => .ok (.group flags none, rest)

/-- The part that stands in a group. -/
def inGroup (name : Option String) (body : Pattern) : Pattern :=
  match name with
  | some name => .named name body
  | none => body

/-- A character, in either case where the flags say so. -/
def oneChar (flags : Flags) (c : Char) : Pattern :=
  .one (foldSet flags.anyCase (.single c))

/-- What a dot stands for. -/
def dot (flags : Flags) : Pattern :=
  .one (if flags.dotAll then .compl .none else .compl (.single '\n'))

/-- Drops blanks and comments where they mean nothing. -/
def skipSpace (flags : Flags) : Nat → List Char → List Char
  | 0, source => source
  | fuel + 1, source =>
    if flags.spaced then
      match source with
      | '#' :: rest => skipSpace flags fuel (rest.dropWhile (· ≠ '\n'))
      | c :: rest => if Text.isBlank c then skipSpace flags fuel rest else source
      | [] => []
    else source

/-! ### Whole patterns -/

mutual

/-- Reads alternatives up to a closing parenthesis or the end; what was read of the
current alternative is `current`, and `earlier` are the ones before. -/
def readAlternatives : Nat → Flags → Option Pattern → Pattern → List Char →
    Except String (Pattern × List Char)
  | 0, _, _, _, _ => .error "pattern too deep"
  | fuel + 1, flags, earlier, current, source =>
    let joined := match earlier with
      | some earlier => Pattern.either earlier current
      | none => current
    match skipSpace flags fuel source with
    | [] => .ok (joined, [])
    | ')' :: rest => .ok (joined, ')' :: rest)
    | '|' :: rest => readAlternatives fuel flags (some joined) .empty rest
    | '(' :: rest => do
      match ← readOpening flags rest with
      | (.flags flags, rest) => readAlternatives fuel flags earlier current rest
      | (.group inner name, rest) =>
        let (body, rest) ← readAlternatives fuel inner none .empty rest
        match rest with
        | ')' :: rest =>
          let group := inGroup name body
          let (item, rest) ← readQuantifiers fuel group (skipSpace flags fuel rest)
          readAlternatives fuel flags earlier (.both current item) rest
        | _ => throw "unclosed group"
    | c :: rest => do
      let (item, rest) ← readItem fuel flags c rest
      let (item, rest) ← readQuantifiers fuel item (skipSpace flags fuel rest)
      readAlternatives fuel flags earlier (.both current item) rest

/-- Reads one item that starts with `c`. -/
def readItem : Nat → Flags → Char → List Char → Except String (Pattern × List Char)
  | 0, _, _, _ => .error "pattern too deep"
  | fuel + 1, flags, c, rest => do
    match c with
    | '*' | '+' | '?' | '\x7b' => throw "repetition operator missing expression"
    | '.' => return (dot flags, rest)
    | '^' => return (.anchor (if flags.multiline then .lineStart else .textStart), rest)
    | '$' => return (.anchor (if flags.multiline then .lineEnd else .textEnd), rest)
    | '[' => (readClass flags.anyCase fuel rest).map fun (set, rest) => (.one set, rest)
    | '\\' =>
      match ← readAnchor? rest with
      | some (condition, rest) => return (.anchor condition, rest)
      | none =>
        match ← readEscape rest with
        | (.char c, rest) => return (oneChar flags c, rest)
        | (.set members, rest) => return (.one members, rest)
    | _ => return (oneChar flags c, rest)

end

/-- The pattern a text stands for, or why it stands for none. -/
def read (text : String) : Except String Pattern :=
  match readAlternatives (2 * text.length + 4) {} none .empty text.toList with
  | .error reason => .error reason
  | .ok (pattern, []) =>
    if pattern.names.Nodup then .ok pattern else .error "duplicate group name"
  | .ok (_, _) => .error "unopened group"

end JavaIndex.Pattern
