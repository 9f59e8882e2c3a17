import JavaIndex.FileTree
import JavaIndex.SourceFile

/-!
# Finding sources

The Java sources below a folder. Folders whose name is a text that starts with a
dot are passed over, the starting folder excepted; a name that is no text hides
nothing. What is found does not depend on the order in which folders list their
entries: the paths are put in order.

## Main definitions

* `filesBelow` — the paths of all files in the folders that are entered
* `Discovery` — the sources to be indexed and the number of those left out
* `discover` — the discovery below a folder
-/

namespace JavaIndex

/-- Whether a folder of this name is passed over. A name that is no text is not. -/
def isHidden (name : Spelling) : Bool :=
  name.text?.any fun text => text.toList.head? == some '.'

mutual

/-- The files at and below an entry of a folder. -/
def filesAt (folder : Path) : Entry → List Path
  | .file name _ => [folder.join name]
  | .folder name entries =>
    if isHidden name then [] else filesBelow (folder.join name) entries

/-- The files at and below the entries of a folder. -/
def filesBelow (folder : Path) : List Entry → List Path
  | [] => []
  | entry :: rest => filesAt folder entry ++ filesBelow folder rest

end

/-- What was found below a folder. -/
structure Discovery where
  /-- The sources to be indexed, in order. -/
  files : List Path
  /-- How many sources were left out. -/
  skipped : Nat
  deriving DecidableEq, Repr

/-- The paths in order. -/
def sortPaths (paths : List Path) : List Path :=
  paths.mergeSort fun left right => left.compare right != .gt

/-- The discovery below a folder with the given entries. -/
def discover (exclusions : List Exclusion) (folder : Path) (entries : List Entry) : Discovery :=
  let sources := (filesBelow folder entries).filter Path.isSourceFile
  let (kept, skipped) := sources.partition fun path => (skipReason? exclusions path).isNone
  ⟨sortPaths kept, skipped.length⟩

end JavaIndex
