import JavaIndex.Yaml.Scalar

/-!
# Settings documents

One mapping whose values are single values or lists of single values, written
with indentation or with brackets. Anything nested deeper is refused, and so is
everything that is not such a mapping. A document without content has no entries.

## Main definitions

* `Yaml.Value` — nothing at all, a single value, or a list of texts
* `Yaml.read` — the entries of a document in order
-/

namespace JavaIndex.Yaml

/-- The value of an entry. -/
inductive Value where
  | missing
  | scalar (scalar : Scalar)
  | list (items : List String)
  deriving DecidableEq, Repr

/-- The entries of a mapping, in order. -/
abbrev Entries := List (String × Value)

/-! ### In brackets -/

/-- Reads the items of a list up to its closing bracket; `read` are the items so far,
the last one first. -/
def readItems (least : Nat) : Nat → List String → Cursor → Except String (List String × Cursor)
  | 0, _, _ => .error "list too long"
  | fuel + 1, read, cursor =>
    let cursor := skipSpace .flow cursor
    match cursor.rest with
    | ']' :: _ => .ok (read.reverse, cursor.past 1)
    | _ => do
      let (item, cursor) ← readScalar .flow least cursor
      let cursor := skipSpace .flow cursor
      match cursor.rest with
      | ',' :: _ => readItems least fuel (item.text :: read) (cursor.past 1)
      | ']' :: _ => .ok ((item.text :: read).reverse, cursor.past 1)
      | _ => .error "expected a comma or a closing bracket"

/-- Reads a single value or a bracketed list. -/
def readInline (context : Context) (least : Nat) (cursor : Cursor) :
    Except String (Value × Cursor) :=
  match cursor.rest with
  | '[' :: _ =>
    (readItems least (cursor.rest.length + 1) [] (cursor.past 1)).map fun (items, cursor) =>
      (.list items, cursor)
  | _ => (readScalar context least cursor).map fun (scalar, cursor) => (.scalar scalar, cursor)

/-- Reads the value behind a key in braces, where there may be none. -/
def readFlowValue (key : Cursor) (cursor : Cursor) : Except String (Value × Cursor) :=
  match cursor.rest with
  | ':' :: _ =>
    if key.line ≠ cursor.line then .error "a key and its colon share a line"
    else
      let cursor := skipSpace .flow (cursor.past 1)
      match cursor.rest with
      | ',' :: _ => .ok (.missing, cursor)
      | '\x7d' :: _ => .ok (.missing, cursor)
      | _ => readInline .flow 0 cursor
  | _ => .ok (.missing, cursor)

/-- Reads the entries of a mapping up to its closing brace. -/
def readFlowEntries : Nat → Entries → Cursor → Except String (Entries × Cursor)
  | 0, _, _ => .error "mapping too long"
  | fuel + 1, read, cursor =>
    let cursor := skipSpace .flow cursor
    match cursor.rest with
    | '\x7d' :: _ => .ok (read.reverse, cursor.past 1)
    | _ => do
      let start := cursor
      let (key, cursor) ← readScalar .flow 0 cursor
      let (value, cursor) ← readFlowValue start (skipSpace .flow cursor)
      let read := (key.text, value) :: read
      let cursor := skipSpace .flow cursor
      match cursor.rest with
      | ',' :: _ => readFlowEntries fuel read (cursor.past 1)
      | '\x7d' :: _ => .ok (read.reverse, cursor.past 1)
      | _ => .error "expected a comma or a closing brace"

/-! ### By indentation -/

/-- The cursor at the next token of a block, which has to start a line. -/
def nextLine (cursor : Cursor) : Except String Cursor :=
  let next := skipSpace .block cursor
  if next.atEnd || next.fresh then .ok next else .error "unexpected text after a value"

/-- Reads the item behind a dash in the given column. -/
def readBlockItem (column : Nat) (dash : Cursor) : Except String (String × Cursor) :=
  let cursor := skipSpace .block { dash.past 1 with fresh := true }
  if cursor.atEnd then .ok ("", cursor)
  else if cursor.line ≠ dash.line && cursor.column ≤ column then .ok ("", cursor)
  else
    match readScalar .block (column + 1) cursor with
    | .error reason => .error reason
    | .ok (item, cursor) => (nextLine cursor).map fun cursor => (item.text, cursor)

/-- Reads the items of a list whose dashes stand in the given column. -/
def readBlockItems (column : Nat) :
    Nat → List String → Cursor → Except String (List String × Cursor)
  | 0, _, _ => .error "list too long"
  | fuel + 1, read, cursor =>
    if cursor.column = column && cursor.at? '-' && !cursor.atEnd then
      match readBlockItem column cursor with
      | .error reason => .error reason
      | .ok (item, cursor) => readBlockItems column fuel (item :: read) cursor
    else .ok (read.reverse, cursor)

/-- Reads the value behind a key in the given column, where there may be none. -/
def readBlockValue (column : Nat) (colon : Cursor) : Except String (Value × Cursor) :=
  let cursor := skipSpace .block (colon.past 1)
  let inline := do
    let (value, cursor) ← readInline .block (column + 1) cursor
    return (value, ← nextLine cursor)
  if cursor.atEnd then .ok (.missing, cursor)
  else if cursor.line = colon.line then inline
  else if cursor.at? '-' && column ≤ cursor.column then do
    let (items, after) ← readBlockItems cursor.column (cursor.rest.length + 1) [] cursor
    if column < after.column && !after.atEnd then throw "unexpected indentation"
    else return (.list items, after)
  else if cursor.column ≤ column then .ok (.missing, cursor)
  else inline

/-- Reads the entries of a mapping whose keys stand in the given column. -/
def readBlockEntries (column : Nat) : Nat → Entries → Cursor → Except String (Entries × Cursor)
  | 0, _, _ => .error "mapping too long"
  | fuel + 1, read, cursor =>
    if cursor.atEnd then .ok (read.reverse, cursor)
    else if cursor.column ≠ column then .error "unexpected indentation"
    else do
      let (key, colon) ← readScalar .block (column + 1) cursor
      let colon := if key.plain then colon else skipSpace .block colon
      if colon.at? ':' && colon.line = cursor.line then
        let (value, cursor) ← readBlockValue column colon
        readBlockEntries column fuel ((key.text, value) :: read) cursor
      else throw "expected a colon"

/-! ### Documents -/

/-- Reads what may follow the content of a document: marks of its end, and nothing else. -/
def readEnd : Nat → Cursor → Except String Unit
  | 0, _ => .error "document too long"
  | fuel + 1, cursor =>
    let cursor := skipSpace .block cursor
    match cursor.rest with
    | [] => .ok ()
    | '.' :: _ =>
      if isDocumentMark cursor.column cursor.rest then readEnd fuel (cursor.past 3)
      else .error "unexpected text after the document"
    | _ => .error "unexpected text after the document"

/-- Reads the content of a document, which starts at the cursor. -/
def readContent (fuel : Nat) (cursor : Cursor) : Except String (Entries × Cursor) :=
  match cursor.rest with
  | '\x7b' :: _ => readFlowEntries fuel [] (cursor.past 1)
  | _ =>
    if cursor.atEnd then .error "expected a mapping"
    else if cursor.fresh then readBlockEntries cursor.column fuel [] cursor
    else .error "a mapping starts on a line of its own"

/-- Whether a character may stand in a document at all. -/
def isReadable (c : Char) : Bool :=
  let n := c.toNat
  n = 9 || n = 10 || n = 13 || (0x20 ≤ n && n ≤ 0x7e) || n = 0x85 ||
    (0xa0 ≤ n && n ≤ 0xfffd && n ≠ 0xfeff) || 0x10000 ≤ n

/-- The characters with every line ended in the same way. -/
def unifyLines : List Char → List Char
  | '\r' :: '\n' :: rest => '\n' :: unifyLines rest
  | '\r' :: rest => '\n' :: unifyLines rest
  | '\u0085' :: rest => '\n' :: unifyLines rest
  | c :: rest => c :: unifyLines rest
  | [] => []

/-- The characters without a mark of byte order in front. -/
def dropByteOrderMark : List Char → List Char
  | '\ufeff' :: rest => rest
  | chars => chars

/-- The entries of a document in order. -/
def read (text : String) : Except String Entries :=
  let chars := unifyLines (dropByteOrderMark text.toList)
  let fuel := chars.length + 1
  if !chars.all isReadable then .error "control characters are not allowed"
  else
    let start := skipSpace .block ⟨chars, 0, 0, true⟩
    if start.rest.isEmpty then .ok []
    else if isDocumentMark start.column start.rest && start.rest.head? = some '-' then do
      let cursor := skipSpace .block (start.past 3)
      let (entries, cursor) ← if cursor.atEnd then pure ([], cursor) else readContent fuel cursor
      readEnd fuel cursor
      return entries
    else do
      let (entries, cursor) ← readContent fuel start
      readEnd fuel cursor
      return entries

end JavaIndex.Yaml
