import JavaIndex.Discovery
import JavaIndex.Proofs.PathOrder
import Mathlib.Data.List.Nodup

/-!
# What a discovery finds

The names in a folder differ, so the walk below a folder meets no path twice, even
if paths are compared by their components. Sorting then puts the files it keeps
in strictly increasing order.

## Main results

* `FileTree.wellNamed_folderAt?` — a folder of the tree is well named
* `nodup_filesBelow` — the walk meets no path twice
* `discover_files_increasing` — the files found are strictly increasing
-/

namespace JavaIndex

/-! ### Folders of a tree -/

namespace Entry

/-- Whether the entries in a folder are well named; a file has none. -/
def contentNamed : Entry → Prop
  | file _ _ => True
  | folder _ entries => wellNamedList entries = true

theorem contentNamed_of_wellNamed {entry : Entry} (named : entry.wellNamed = true) :
    entry.contentNamed := by
  cases entry with
  | file name bytes => trivial
  | folder name entries => exact (wellNamed_folder.mp named).2

end Entry

namespace FileTree

theorem contentNamed_follow {behind : List Entry} {entry found : Entry} {steps : List Spelling}
    (behindNamed : ∀ back ∈ behind, back.contentNamed) (named : entry.contentNamed)
    (reached : follow behind entry steps = .ok found) : found.contentNamed := by
  fun_induction follow behind entry steps with
  | case1 => exact (Except.ok.inj reached) ▸ named
  | case2 => exact absurd reached (by simp)
  | case3 behind step steps name entries stays ih => exact ih behindNamed named reached
  | case4 steps name entries _ ih => exact ih behindNamed named reached
  | case5 steps name entries back behind _ ih =>
    refine ih ?_ (behindNamed back List.mem_cons_self) reached
    exact fun other member => behindNamed other (List.mem_cons_of_mem _ member)
  | case6 => exact absurd reached (by simp)
  | case7 behind step steps name entries _ _ child atStep ih =>
    have childNamed := Entry.contentNamed_of_wellNamed (Entry.wellNamed_of_find? named atStep)
    refine ih ?_ childNamed reached
    rintro back (_ | ⟨_, member⟩)
    · exact named
    · exact behindNamed back member

theorem wellNamed_folderAt? {tree : FileTree} {path : Path} {entries : List Entry}
    (found : tree.folderAt? path = some entries) : Entry.wellNamedList entries = true := by
  unfold folderAt? lookup at found
  split at found
  · rename_i name inner reached
    split_ifs at reached
    have rootNamed : (Entry.folder [] tree.entries).contentNamed := tree.named
    have named : (Entry.folder name inner).contentNamed :=
      contentNamed_follow (by simp) rootNamed reached
    exact (Option.some.inj found) ▸ named
  · simp at found

/-- The one folder below the root, which is the working folder as well, lies at its name. -/
theorem folderAt?_only {name : Spelling} {entries : List Entry}
    (named : Entry.wellNamedList [.folder name entries] = true) :
    folderAt? ⟨⟨"/"⟩, [.folder name entries], named⟩ ⟨name⟩ = some entries := by
  obtain ⟨folderNamed, -⟩ := Entry.wellNamedList_cons.mp named
  obtain ⟨isName, -⟩ := Entry.wellNamed_folder.mp folderNamed
  obtain ⟨notEmpty, notCurrent, notParent, noSlash⟩ := Path.isName_iff.mp isName
  have joined : (Path.mk "/").join name = ⟨[] ++ Path.slash :: name⟩ := by
    rw [Path.join, if_neg (Path.head?_ne_slash noSlash)]
    rfl
  have steps : stepsTo ⟨⟨"/"⟩, [.folder name entries], named⟩ ⟨name⟩ = [[], name] := by
    rw [stepsTo, joined, Path.pieces_append, Path.pieces_of_notMem noSlash]
    rfl
  simp [folderAt?, lookup, steps, follow, notEmpty, notCurrent, notParent, Entry.find?, Entry.name]

end FileTree

/-! ### The walk below a folder -/

mutual

/-- The files at an entry lie below its name. -/
theorem components_of_mem_filesAt {folder path : Path} {entry : Entry}
    (named : entry.wellNamed = true) (found : path ∈ filesAt folder entry) :
    ∃ below, path.components = folder.components ++ .name entry.name :: below := by
  match entry with
  | .file name bytes =>
    rw [filesAt, List.mem_singleton] at found
    exact ⟨[], found ▸ Path.components_join folder named⟩
  | .folder name entries =>
    obtain ⟨isName, inner⟩ := Entry.wellNamed_folder.mp named
    rw [filesAt] at found
    split_ifs at found
    · simp at found
    · obtain ⟨child, -, below, spelled⟩ := components_of_mem_filesBelow inner found
      rw [Path.components_join folder isName, List.append_assoc] at spelled
      exact ⟨_, spelled⟩

/-- The files below a folder lie below the names of its entries. -/
theorem components_of_mem_filesBelow {folder path : Path} {entries : List Entry}
    (named : Entry.wellNamedList entries = true) (found : path ∈ filesBelow folder entries) :
    ∃ entry ∈ entries, ∃ below,
      path.components = folder.components ++ .name entry.name :: below := by
  match entries with
  | [] => simp [filesBelow] at found
  | entry :: rest =>
    obtain ⟨entryNamed, -, restNamed⟩ := Entry.wellNamedList_cons.mp named
    rw [filesBelow, List.mem_append] at found
    rcases found with here | there
    · exact ⟨entry, List.mem_cons_self, components_of_mem_filesAt entryNamed here⟩
    · obtain ⟨other, member, spelled⟩ := components_of_mem_filesBelow restNamed there
      exact ⟨other, List.mem_cons_of_mem _ member, spelled⟩

end

mutual

theorem nodup_filesAt (folder : Path) {entry : Entry} (named : entry.wellNamed = true) :
    ((filesAt folder entry).map Path.components).Nodup := by
  match entry with
  | .file name bytes => simp [filesAt]
  | .folder name entries =>
    rw [filesAt]
    split_ifs
    · simp
    · exact nodup_filesBelow (folder.join name) (Entry.wellNamed_folder.mp named).2

/-- The walk below a folder meets no path twice. -/
theorem nodup_filesBelow (folder : Path) {entries : List Entry}
    (named : Entry.wellNamedList entries = true) :
    ((filesBelow folder entries).map Path.components).Nodup := by
  match entries with
  | [] => simp [filesBelow]
  | entry :: rest =>
    obtain ⟨entryNamed, fresh, restNamed⟩ := Entry.wellNamedList_cons.mp named
    rw [filesBelow, List.map_append, List.nodup_append]
    refine ⟨nodup_filesAt folder entryNamed, nodup_filesBelow folder restNamed, ?_⟩
    -- Two paths with the same components would go through the same name of this folder.
    intro key here key' there same
    obtain ⟨path, pathHere, rfl⟩ := List.mem_map.mp here
    obtain ⟨path', pathThere, rfl⟩ := List.mem_map.mp there
    obtain ⟨below, spelled⟩ := components_of_mem_filesAt entryNamed pathHere
    obtain ⟨other, member, below', spelled'⟩ := components_of_mem_filesBelow restNamed pathThere
    rw [spelled, spelled'] at same
    have names : entry.name = other.name := by
      simpa using (List.cons.inj (List.append_cancel_left same)).1
    exact fresh (names ▸ List.mem_map_of_mem member)

end

/-! ### The files found -/

theorem pairwise_sortPaths (paths : List Path) : (sortPaths paths).Pairwise (· ≤ ·) := by
  have decides (left right : Path) : (left.compare right != .gt) = true ↔ left ≤ right := by
    rw [bne_iff_ne, Path.le_iff]
  have transitive (left middle right : Path) : (left.compare middle != .gt) = true →
      (middle.compare right != .gt) = true → (left.compare right != .gt) = true := by
    simpa only [decides] using le_trans
  have total (left right : Path) :
      ((left.compare right != .gt) || (right.compare left != .gt)) = true := by
    rw [Bool.or_eq_true, decides, decides]
    exact Path.le_total left right
  exact (List.pairwise_mergeSort transitive total paths).imp (decides _ _).mp

theorem perm_sortPaths (paths : List Path) : (sortPaths paths).Perm paths :=
  List.mergeSort_perm paths _

/-- Strictly increasing lists of the same paths are equal. -/
theorem eq_of_perm_of_increasing {paths others : List Path} (perm : paths.Perm others)
    (increasing : paths.Pairwise (· < ·)) (increasing' : others.Pairwise (· < ·)) :
    paths = others :=
  perm.eq_of_pairwise (fun _ _ _ _ below above => absurd above below.asymm) increasing increasing'

theorem discover_files (exclusions : List Exclusion) (folder : Path) (entries : List Entry) :
    (discover exclusions folder entries).files =
      sortPaths (((filesBelow folder entries).filter Path.isSourceFile).filter
        fun path => (skipReason? exclusions path).isNone) := by
  simp [discover, List.partition_eq_filter_filter]

/-- Sources that are met in the order of their paths are found in that order. -/
theorem discover_files_of_pairwise {exclusions : List Exclusion} {folder : Path}
    {entries : List Entry} {files : List Path}
    (kept : ((filesBelow folder entries).filter Path.isSourceFile).filter
      (fun path => (skipReason? exclusions path).isNone) = files)
    (sorted : files.Pairwise fun left right => (left.compare right != .gt) = true) :
    (discover exclusions folder entries).files = files := by
  rw [discover_files, kept]
  exact List.mergeSort_of_pairwise sorted

theorem nodup_discover_files (exclusions : List Exclusion) (folder : Path) {entries : List Entry}
    (named : Entry.wellNamedList entries = true) :
    ((discover exclusions folder entries).files.map Path.components).Nodup := by
  rw [discover_files, ((perm_sortPaths _).map Path.components).nodup_iff]
  exact (nodup_filesBelow folder named).sublist
    ((List.filter_sublist.trans List.filter_sublist).map _)

/-- The files found are strictly increasing. -/
theorem discover_files_increasing (exclusions : List Exclusion) (folder : Path)
    {entries : List Entry} (named : Entry.wellNamedList entries = true) :
    (discover exclusions folder entries).files.Pairwise (· < ·) := by
  have distinct := nodup_discover_files exclusions folder named
  rw [List.Nodup, List.pairwise_map] at distinct
  have sorted : (discover exclusions folder entries).files.Pairwise (· ≤ ·) := by
    rw [discover_files]
    exact pairwise_sortPaths _
  exact (sorted.and distinct).imp fun ⟨below, different⟩ =>
    Path.lt_of_le_of_components_ne below different

end JavaIndex
