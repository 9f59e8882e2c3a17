import JavaIndex.Spelling

/-!
# Paths

A path is kept as it was spelled and compared by its components: repeated and
trailing slashes do not count, a `.` counts only in front, and `..` is never
folded. The order puts the root first, then a leading `.`, then `..`, then names
by their bytes.

## Main definitions

* `Path`, `Path.text`, `Path.components` — the spelling, as it is shown, and what it
  stands for
* `Path.compare` — the order by components
* `Path.fileName?`, `Path.stem?`, `Path.extension?` — the last name and its parts
* `Path.join` — a name below a path
* `Path.withExtension` — the path with the extension of its file name replaced
-/

namespace JavaIndex

/-- One step of a path. -/
inductive Component where
  | root
  | current
  | parent
  | name (spelling : Spelling)
  deriving DecidableEq, Repr

namespace Component

/-- The order of components: the root, a leading `.`, `..`, then names by their bytes. -/
def compare : Component → Component → Ordering
  | root, root => .eq
  | root, _ => .lt
  | _, root => .gt
  | current, current => .eq
  | current, _ => .lt
  | _, current => .gt
  | parent, parent => .eq
  | parent, _ => .lt
  | _, parent => .gt
  | name left, name right => Ord.compare left right

/-- Lists of components in lexicographic order. -/
def compareLists : List Component → List Component → Ordering
  | [], [] => .eq
  | [], _ :: _ => .lt
  | _ :: _, [] => .gt
  | a :: as, b :: bs => (a.compare b).then (compareLists as bs)

end Component

/-- A path as it was spelled. -/
structure Path where
  spelling : Spelling
  deriving DecidableEq, Repr

namespace Path

/-- The byte between the names of a path. -/
def slash : UInt8 := 0x2f

/-- The byte in front of an extension. -/
def dot : UInt8 := 0x2e

/-- The path as it is shown. -/
def text (path : Path) : String :=
  path.spelling.shown

/-- What two spellings of the same path share. -/
abbrev Key := List Component

/-- Whether the path starts at the root. -/
def isAbsolute (path : Path) : Bool :=
  path.spelling.head? == some slash

/-- The pieces between slashes. -/
def pieces (spelling : Spelling) : List Spelling :=
  Text.splitIn slash spelling

/-- One piece between slashes; empty pieces and inner dots stand for nothing. -/
def componentOf (piece : Spelling) : Option Component :=
  if piece = [] then none
  else if piece = [dot] then none
  else if piece = [dot, dot] then some .parent
  else some (.name piece)

/-- The components of a path, front to back. -/
def components (path : Path) : Key :=
  let front :=
    if path.isAbsolute then [Component.root]
    else if (pieces path.spelling).head? = some [dot] then [Component.current]
    else []
  front ++ (pieces path.spelling).filterMap componentOf

/-- The order of paths, component by component. -/
def compare (left right : Path) : Ordering :=
  Component.compareLists left.components right.components

/-- Whether a path comes strictly before another. -/
def before (left right : Path) : Bool :=
  left.compare right == .lt

/-- The name a path ends in; `..` and the root are no names. -/
def fileName? (path : Path) : Option Spelling :=
  match path.components.getLast? with
  | some (.name spelling) => some spelling
  | _ => none

/-- A file name cut at its last dot, unless that dot is in front. -/
def cutExtension (name : Spelling) : Spelling × Option Spelling :=
  match Text.cutLastIn dot name with
  | some (stem, extension) => if stem = [] then (name, none) else (stem, some extension)
  | none => (name, none)

/-- The file name without its extension. -/
def stem? (path : Path) : Option Spelling :=
  path.fileName?.map fun name => (cutExtension name).1

/-- The file name without its extension, if that is a text. -/
def stemText? (path : Path) : Option String :=
  path.stem?.bind Spelling.text?

/-- The part of the file name after its last dot. -/
def extension? (path : Path) : Option Spelling :=
  path.fileName?.bind fun name => (cutExtension name).2

/-- The path of `piece` below `path`; an absolute piece replaces the path. -/
def join (path : Path) (piece : Spelling) : Path :=
  if piece.head? = some slash then ⟨piece⟩
  else if path.spelling = [] then ⟨piece⟩
  else if path.spelling.getLast? = some slash then ⟨path.spelling ++ piece⟩
  else ⟨path.spelling ++ slash :: piece⟩

/-- The bytes left after the trailing slashes and `/.` pieces are dropped. -/
def trimTail (spelling : Spelling) : Spelling :=
  let rec go : Spelling → Spelling
    | [] => []
    | last :: front =>
      if last = slash || (last = dot && front.head? = some slash) then go front
      else last :: front
  (go spelling.reverse).reverse

/-- The path with the extension of its file name replaced; a path that ends in no
name is left alone. -/
def withExtension (path : Path) (extension : Spelling) : Path :=
  match path.fileName? with
  | none => path
  | some name =>
    let kept := trimTail path.spelling
    let front := kept.take (kept.length - name.length)
    ⟨front ++ (cutExtension name).1 ++ dot :: extension⟩

end Path

end JavaIndex
