import JavaIndex.Error

/-!
# File trees

The files of a machine, with a working folder among them. Entries of one folder
have different names, and no name is empty, holds a slash or is one of the two
dots; both facts are part of the type. A name need not be a text. Paths are
followed as the operating system does it: step by step, a relative path from the
working folder, where an empty step and `.` ask for a folder and stay, and `..`
goes back.

## Main definitions

* `Entry`, `FileTree` — files and folders, and all of them with a working folder
* `FileTree.lookup` — the entry at a path, or why there is none
* `FileTree.namesTo` — the names that lead from the root to a path
* `FileTree.isFolder`, `FileTree.isFile`, `FileTree.readFile` — what a path leads to
* `FileTree.write`, `FileTree.makeFolder`, `FileTree.mount`, `FileTree.delete` — the tree
  after a change
-/

namespace JavaIndex

/-- A file or a folder with its name. -/
inductive Entry where
  | file (name : Spelling) (bytes : ByteArray)
  | folder (name : Spelling) (entries : List Entry)

namespace Entry

/-- The name of an entry in its folder. -/
def name : Entry → Spelling
  | file name _ => name
  | folder name _ => name

/-- Whether a spelling can name an entry. -/
def isName (spelling : Spelling) : Bool :=
  spelling ≠ [] && spelling ≠ [Path.dot] && spelling ≠ [Path.dot, Path.dot] &&
    !spelling.contains Path.slash

mutual

/-- Whether all names at and below an entry are names, different within each folder. -/
def wellNamed : Entry → Bool
  | file name _ => isName name
  | folder name entries => isName name && wellNamedList entries

/-- Whether the entries of a folder are well named and have different names. -/
def wellNamedList : List Entry → Bool
  | [] => true
  | entry :: rest =>
    entry.wellNamed && !(rest.map Entry.name).contains entry.name && wellNamedList rest

end

/-- The entry of a name. -/
def find? (name : Spelling) (entries : List Entry) : Option Entry :=
  entries.find? fun entry => entry.name == name

/-- The entries without the one of a name. -/
def erase (name : Spelling) (entries : List Entry) : List Entry :=
  entries.filter fun entry => entry.name != name

/-- The entries with one put in, in place of the one of its name. -/
def replace (entry : Entry) (entries : List Entry) : List Entry :=
  entry :: erase entry.name entries

theorem wellNamedList_cons {entry : Entry} {rest : List Entry} :
    wellNamedList (entry :: rest) = true ↔
      entry.wellNamed = true ∧ entry.name ∉ rest.map Entry.name ∧ wellNamedList rest = true := by
  simp [wellNamedList, and_assoc]

theorem name_mem_of_mem_erase {name other : Spelling} {entries : List Entry}
    (mem : other ∈ (erase name entries).map Entry.name) : other ∈ entries.map Entry.name := by
  obtain ⟨entry, inErased, rfl⟩ := List.mem_map.mp mem
  exact List.mem_map_of_mem (List.mem_filter.mp inErased).1

theorem name_notMem_erase (name : Spelling) (entries : List Entry) :
    name ∉ (erase name entries).map Entry.name := by
  intro mem
  obtain ⟨entry, inErased, rfl⟩ := List.mem_map.mp mem
  simp [erase] at inErased

theorem wellNamedList_erase (name : Spelling) {entries : List Entry}
    (named : wellNamedList entries = true) : wellNamedList (erase name entries) = true := by
  induction entries with
  | nil => rfl
  | cons entry rest ih =>
    obtain ⟨entryNamed, fresh, restNamed⟩ := wellNamedList_cons.mp named
    by_cases same : entry.name = name
    · simpa [erase, same] using ih restNamed
    · have split : erase name (entry :: rest) = entry :: erase name rest := by
        simp [erase, same]
      rw [split, wellNamedList_cons]
      exact ⟨entryNamed, fun mem => fresh (name_mem_of_mem_erase mem), ih restNamed⟩

theorem wellNamedList_replace {entry : Entry} {entries : List Entry}
    (entryNamed : entry.wellNamed = true) (named : wellNamedList entries = true) :
    wellNamedList (replace entry entries) = true :=
  wellNamedList_cons.mpr
    ⟨entryNamed, name_notMem_erase entry.name entries, wellNamedList_erase entry.name named⟩

theorem wellNamed_of_find? {name : Spelling} {entries : List Entry} {entry : Entry}
    (named : wellNamedList entries = true) (found : find? name entries = some entry) :
    entry.wellNamed = true := by
  induction entries with
  | nil => simp [find?] at found
  | cons head rest ih =>
    obtain ⟨headNamed, _, restNamed⟩ := wellNamedList_cons.mp named
    by_cases same : head.name = name
    · simp [find?, same] at found
      exact found ▸ headNamed
    · refine ih restNamed ?_
      simpa [find?, same] using found

/-! ### Changes below a folder -/

/-- Puts an entry at the end of a chain of folders, which are made where they are
missing; nothing changes where a file stands in the way. -/
def place (entry : Entry) : List Spelling → List Entry → List Entry
  | [], entries => replace entry entries
  | step :: steps, entries =>
    if isName step then
      match find? step entries with
      | none => replace (folder step (place entry steps [])) entries
      | some (folder _ inner) => replace (folder step (place entry steps inner)) entries
      | some (file _ _) => entries
    else entries

/-- Takes the entry of a name out of the folder at the end of a chain. -/
def take (name : Spelling) : List Spelling → List Entry → List Entry
  | [], entries => erase name entries
  | step :: steps, entries =>
    if isName step then
      match find? step entries with
      | some (folder _ inner) => replace (folder step (take name steps inner)) entries
      | _ => entries
    else entries

theorem wellNamed_folder {name : Spelling} {entries : List Entry} :
    (folder name entries).wellNamed = true ↔
      isName name = true ∧ wellNamedList entries = true := by
  simp [wellNamed]

theorem wellNamedList_place {entry : Entry} (entryNamed : entry.wellNamed = true)
    (steps : List Spelling) {entries : List Entry} (named : wellNamedList entries = true) :
    wellNamedList (place entry steps entries) = true := by
  induction steps generalizing entries with
  | nil => exact wellNamedList_replace entryNamed named
  | cons step steps ih =>
    unfold place
    split
    · rename_i isStep
      split
      · exact wellNamedList_replace (wellNamed_folder.mpr ⟨isStep, ih rfl⟩) named
      · rename_i inner found
        have innerNamed := (wellNamed_folder.mp (wellNamed_of_find? named found)).2
        exact wellNamedList_replace (wellNamed_folder.mpr ⟨isStep, ih innerNamed⟩) named
      · exact named
    · exact named

theorem wellNamedList_take (name : Spelling) (steps : List Spelling) {entries : List Entry}
    (named : wellNamedList entries = true) : wellNamedList (take name steps entries) = true := by
  induction steps generalizing entries with
  | nil => exact wellNamedList_erase name named
  | cons step steps ih =>
    unfold take
    split
    · rename_i isStep
      split
      · rename_i inner found
        have innerNamed := (wellNamed_folder.mp (wellNamed_of_find? named found)).2
        exact wellNamedList_replace (wellNamed_folder.mpr ⟨isStep, ih innerNamed⟩) named
      · exact named
    · exact named

end Entry

/-- The files below the root, and the absolute path of the working folder. -/
structure FileTree where
  location : Path
  entries : List Entry
  named : Entry.wellNamedList entries = true

namespace FileTree

/-! ### Following paths -/

/-- The steps from the root that a path asks for. -/
def stepsTo (tree : FileTree) (path : Path) : List Spelling :=
  Path.pieces (tree.location.join path.spelling).spelling

/-- Follows the steps of a path from an entry, the folders behind it nearest first. -/
def follow (behind : List Entry) (entry : Entry) : List Spelling → Except IoFailure Entry
  | [] => .ok entry
  | step :: steps =>
    match entry with
    | .file _ _ => .error .notDirectory
    | .folder _ entries =>
      if step = [] || step = [Path.dot] then follow behind entry steps
      else if step = [Path.dot, Path.dot] then
        match behind with
        | [] => follow [] entry steps
        | back :: behind => follow behind back steps
      else
        match Entry.find? step entries with
        | none => .error .notFound
        | some child => follow (entry :: behind) child steps

/-- The entry at a path, or why there is none. -/
def lookup (tree : FileTree) (path : Path) : Except IoFailure Entry :=
  if path.spelling = [] then .error .notFound
  else follow [] (.folder [] tree.entries) (tree.stepsTo path)

/-- The names that lead from the root to where some steps end, the names of the folder
where they start given. -/
def namesAlong (names : List Spelling) : List Spelling → List Spelling
  | [] => names
  | step :: steps =>
    if step = [] || step = [Path.dot] then namesAlong names steps
    else if step = [Path.dot, Path.dot] then namesAlong names.dropLast steps
    else namesAlong (names ++ [step]) steps

/-- The names that lead from the root to a path. -/
def namesTo (tree : FileTree) (path : Path) : List Spelling :=
  namesAlong [] (tree.stepsTo path)

/-- The entries of the folder at a path. -/
def folderAt? (tree : FileTree) (path : Path) : Option (List Entry) :=
  match tree.lookup path with
  | .ok (.folder _ entries) => some entries
  | _ => none

/-- Whether there is a folder at a path. -/
def isFolder (tree : FileTree) (path : Path) : Bool :=
  (tree.folderAt? path).isSome

/-- Whether there is a file at a path. -/
def isFile (tree : FileTree) (path : Path) : Bool :=
  match tree.lookup path with
  | .ok (.file _ _) => true
  | _ => false

/-- The bytes of the file at a path. -/
def readFile (tree : FileTree) (path : Path) : Except IoFailure ByteArray :=
  match tree.lookup path with
  | .ok (.file _ bytes) => .ok bytes
  | .ok (.folder _ _) => .error .isDirectory
  | .error failure => .error failure

/-! ### Changes -/

/-- The folders and the last name that a path spells with names alone. -/
def target? (tree : FileTree) (path : Path) : Option (List Spelling × Spelling) :=
  let steps := (tree.stepsTo path).filter fun step => step ≠ [] && step ≠ [Path.dot]
  steps.getLast?.map fun last => (steps.dropLast, last)

/-- The tree with an entry of its own making at a path. -/
def placeAt (tree : FileTree) (path : Path) (make : Spelling → Entry)
    (named : ∀ name, Entry.isName name = true → (make name).wellNamed = true) : FileTree :=
  match tree.target? path with
  | none => tree
  | some (folders, name) =>
    if isName : Entry.isName name = true then
      ⟨tree.location, Entry.place (make name) folders tree.entries,
        Entry.wellNamedList_place (named name isName) folders tree.named⟩
    else tree

/-- The tree with a file at a path, the folders above it made where needed. A path
where a folder stands is left alone. -/
def write (tree : FileTree) (path : Path) (bytes : ByteArray) : FileTree :=
  if tree.isFolder path then tree
  else tree.placeAt path (.file · bytes) fun _ isName => by simpa [Entry.wellNamed] using isName

/-- The tree with a folder at a path. A path where something stands is left alone. -/
def makeFolder (tree : FileTree) (path : Path) : FileTree :=
  if tree.isFolder path || tree.isFile path then tree
  else tree.placeAt path (.folder · []) fun _ isName => by
    simpa [Entry.wellNamed, Entry.wellNamedList] using isName

/-- The tree with a folder at a path that has the given entries, if they are well named. -/
def mount (tree : FileTree) (path : Path) (entries : List Entry) : FileTree :=
  if named : Entry.wellNamedList entries = true then
    tree.placeAt path (.folder · entries) fun _ isName => Entry.wellNamed_folder.mpr ⟨isName, named⟩
  else tree

/-- The tree without what is at a path, if something is there; the root itself stays. -/
def delete (tree : FileTree) (path : Path) : FileTree :=
  match tree.lookup path, (tree.namesTo path).getLast? with
  | .ok _, some name =>
    ⟨tree.location, Entry.take name (tree.namesTo path).dropLast tree.entries,
      Entry.wellNamedList_take name _ tree.named⟩
  | _, _ => tree

/-- The working folder alone, without entries. -/
def empty (location : Path) : FileTree :=
  (⟨location, [], rfl⟩ : FileTree).makeFolder location

end FileTree

end JavaIndex
