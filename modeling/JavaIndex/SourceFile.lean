import JavaIndex.Path

/-!
# Source files

Which paths name Java sources, and which of those are left out: marker files,
which declare no type, and files that an exclusion rejects. An exclusion looks at
the path as it is shown.

## Main definitions

* `Path.isSourceFile`, `Path.isMarkerFile` — what the file name says
* `Exclusion` — a named condition on the text of paths
* `SkipReason`, `skipReason?` — why a source is left out
-/

namespace JavaIndex

/-- A letter of the basic alphabet in lower case; other characters as they are. -/
def lowerAscii (c : Char) : Char :=
  if 'A' ≤ c && c ≤ 'Z' then Char.ofNat (c.toNat + 32) else c

/-- The extension of Java sources. -/
def sourceExtension : String := "java"

/-- Files that describe a module or a package and declare no type. -/
def markerNames : List String := ["module-info.java", "package-info.java"]

namespace Path

/-- Whether the extension is that of Java sources, in any case. -/
def isSourceFile (path : Path) : Bool :=
  (path.extension?.bind Spelling.text?).any fun extension =>
    extension.toList.map lowerAscii == sourceExtension.toList

/-- Whether the path names a marker file. -/
def isMarkerFile (path : Path) : Bool :=
  (path.fileName?.bind Spelling.text?).any markerNames.contains

end Path

/-- A condition on the text of paths, and the text it was written as. -/
structure Exclusion where
  text : String
  rejects : String → Bool

/-- Why a source is left out. -/
inductive SkipReason where
  | markerFile
  | excluded (text : String)
  deriving DecidableEq, Repr

/-- Why a source is left out: as a marker file, or by the first exclusion in order
that rejects it. -/
def skipReason? (exclusions : List Exclusion) (path : Path) : Option SkipReason :=
  if path.isMarkerFile then some .markerFile
  else (exclusions.find? fun exclusion => exclusion.rejects path.text).map fun exclusion =>
    .excluded exclusion.text

end JavaIndex
