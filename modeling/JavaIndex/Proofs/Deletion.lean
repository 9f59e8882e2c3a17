import JavaIndex.Proofs.Discovery
import Mathlib.Data.List.Induction

/-!
# Deleting a file

A file that is found below a folder is deleted from the tree. Then the folder is still
there, the same files but that one are found below it, and they read as before.

A path may take detours: it can enter folders and leave them again by `..`, and it does
so also after the deletion. The tree after the deletion is therefore compared with the
tree before it at every place, where a place is the list of names that leads to it from
the root (`pruned`).

## Main definitions

* `FileTree.walk` — what lies at a list of names, with the folders on the way
* `FileTree.pruned` — an entry as it is after a file was deleted
* `contentsBelow` — the files that are found below a folder, with their bytes
* `LiesBelow` — a file lies at a path, some names below a folder

## Main results

* `FileTree.follow_pruned` — a path leads to the same place after a file was deleted
* `mem_filesBelow` — the walk meets every file in the folders that are entered
* `FileTree.contents_delete` — the files below a folder after one of them was deleted
* `discover_delete` — the discovery after a file found was deleted
-/

namespace JavaIndex

/-! ### Entries of a folder -/

namespace Entry

variable {name step : Spelling} {entry child : Entry} {entries : List Entry}

theorem name_of_find? (found : find? name entries = some entry) : entry.name = name := by
  simpa using List.find?_some found

theorem isName_of_find? (named : wellNamedList entries = true)
    (found : find? name entries = some entry) : isName name = true := by
  have entryNamed := wellNamed_of_find? named found
  rw [← name_of_find? found]
  cases entry with
  | file name bytes => exact entryNamed
  | folder name entries => exact (wellNamed_folder.mp entryNamed).1

theorem find?_of_mem (named : wellNamedList entries = true) (member : entry ∈ entries) :
    find? entry.name entries = some entry := by
  induction entries with
  | nil => simp at member
  | cons head rest ih =>
    obtain ⟨-, fresh, restNamed⟩ := wellNamedList_cons.mp named
    rcases List.mem_cons.mp member with rfl | later
    · simp [find?]
    · have differs : head.name ≠ entry.name :=
        fun same => fresh (same ▸ List.mem_map_of_mem later)
      simpa [find?, differs] using ih restNamed later

theorem find?_erase (name other : Spelling) (entries : List Entry) :
    find? other (erase name entries) = if other = name then none else find? other entries := by
  unfold find? erase
  rw [List.find?_filter]
  split_ifs with same
  · simp [same]
  · congr 1
    funext entry
    by_cases here : entry.name = other
    · simp [here, same]
    · simp [here]

theorem find?_replace (entry : Entry) (other : Spelling) (entries : List Entry) :
    find? other (replace entry entries) =
      if other = entry.name then some entry else find? other entries := by
  by_cases same : other = entry.name
  · simp [replace, find?, same]
  · have skipped :
        find? other (replace entry entries) = find? other (erase entry.name entries) := by
      simp [replace, find?, Ne.symm same]
    rw [skipped, find?_erase, if_neg same, if_neg same]

/-- Taking something out below one name leaves the other names alone. -/
theorem find?_take_of_ne {next : Spelling} (differs : step ≠ next) {steps : List Spelling} :
    find? step (take name (next :: steps) entries) = find? step entries := by
  unfold take
  split_ifs
  · split
    · rw [find?_replace]
      exact if_neg differs
    · rfl
  · rfl

/-- An entry can be put in front of the others. -/
theorem perm_erase (named : wellNamedList entries = true) (member : entry ∈ entries) :
    entries.Perm (entry :: erase entry.name entries) := by
  induction entries with
  | nil => simp at member
  | cons head rest ih =>
    obtain ⟨-, fresh, restNamed⟩ := wellNamedList_cons.mp named
    rcases List.mem_cons.mp member with rfl | later
    · have kept : erase entry.name (entry :: rest) = rest := by
        have others : ∀ other ∈ rest, other.name ≠ entry.name :=
          fun other isOther same => fresh (same ▸ List.mem_map_of_mem isOther)
        simpa [erase] using others
      rw [kept]
    · have differs : head.name ≠ entry.name :=
        fun same => fresh (same ▸ List.mem_map_of_mem later)
      have kept : erase entry.name (head :: rest) = head :: erase entry.name rest := by
        simp [erase, differs]
      rw [kept]
      exact ((ih restNamed later).cons head).trans (.swap _ _ _)

end Entry

/-! ### A name below a folder -/

namespace Path

variable {name : Spelling}

/-- The pieces of a path with a name below it; a slash at the end leaves an empty piece. -/
theorem pieces_join (path : Path) (nonempty : path.spelling ≠ [])
    (isName : Entry.isName name = true) :
    ∃ steps, (pieces path.spelling = steps ∨ pieces path.spelling = steps ++ [[]]) ∧
      pieces (path.join name).spelling = steps ++ [name] := by
  obtain ⟨-, -, -, noSlash⟩ := isName_iff.mp isName
  have alone : pieces name = [name] := pieces_of_notMem noSlash
  have relative : name.head? ≠ some slash := head?_ne_slash noSlash
  unfold join
  simp only [relative, nonempty, if_false]
  split_ifs with ends
  · obtain ⟨front, cut⟩ := exists_front_of_slash ends
    refine ⟨pieces front, .inr ?_, ?_⟩
    · rw [cut, pieces_append]
      rfl
    · rw [cut, List.append_assoc, List.singleton_append, pieces_append, alone]
  · exact ⟨pieces path.spelling, .inl rfl, by rw [pieces_append, alone]⟩

/-- What stands in front of a piece that is joined to a path depends on the front of the
piece alone. -/
theorem join_append (path : Path) {piece : Spelling} (nonempty : piece ≠ []) :
    ∃ front, ∀ rest, path.join (piece ++ rest) = ⟨front ++ (piece ++ rest)⟩ := by
  obtain ⟨first, others, rfl⟩ := List.exists_cons_of_ne_nil nonempty
  unfold join
  simp only [List.cons_append, List.head?_cons]
  split_ifs with absolute isEmpty ends
  · exact ⟨[], fun rest => rfl⟩
  · exact ⟨[], fun rest => rfl⟩
  · exact ⟨path.spelling, fun rest => rfl⟩
  · exact ⟨path.spelling ++ [slash], by simp⟩

/-- A path with a name below it is the path, a slash if none is there, and the name. -/
theorem join_name (path : Path) (nonempty : path.spelling ≠ [])
    (isName : Entry.isName name = true) :
    path.join name =
      ⟨path.spelling ++
        ((if path.spelling.getLast? = some slash then [] else [slash]) ++ name)⟩ := by
  obtain ⟨-, -, -, noSlash⟩ := isName_iff.mp isName
  have relative : name.head? ≠ some slash := head?_ne_slash noSlash
  unfold join
  simp only [relative, nonempty, if_false]
  split_ifs
  · rfl
  · rfl

/-- A name below a path stays below it when the path is seen from a location. -/
theorem join_join (location path : Path) (nonempty : path.spelling ≠ [])
    (isName : Entry.isName name = true) :
    location.join (path.join name).spelling = (location.join path.spelling).join name := by
  obtain ⟨front, joined⟩ := join_append location nonempty
  have alone : location.join path.spelling = ⟨front ++ path.spelling⟩ := by
    simpa using joined []
  have nonempty' : (location.join path.spelling).spelling ≠ [] := by simp [alone, nonempty]
  have last : (front ++ path.spelling).getLast? = path.spelling.getLast? :=
    List.getLast?_append_of_ne_nil _ nonempty
  rw [join_name path nonempty isName, joined, join_name _ nonempty' isName, alone, last,
    List.append_assoc]

end Path

namespace FileTree

variable {tree : FileTree} {folder path root : Path} {name : Spelling} {entries : List Entry}
  {child : Entry}

theorem stepsTo_join (tree : FileTree) (nonempty : folder.spelling ≠ [])
    (isName : Entry.isName name = true) :
    ∃ steps, (tree.stepsTo folder = steps ∨ tree.stepsTo folder = steps ++ [[]]) ∧
      tree.stepsTo (folder.join name) = steps ++ [name] := by
  have nonempty' : (tree.location.join folder.spelling).spelling ≠ [] := by
    unfold Path.join
    split_ifs <;> simp [nonempty]
  unfold stepsTo
  rw [Path.join_join tree.location folder nonempty isName]
  exact Path.pieces_join _ nonempty' isName

theorem spelling_ne_nil (found : tree.folderAt? folder = some entries) : folder.spelling ≠ [] := by
  intro isEmpty
  simp [folderAt?, lookup, isEmpty] at found

theorem lookup_of_folderAt? (found : tree.folderAt? folder = some entries) :
    ∃ name, tree.lookup folder = .ok (.folder name entries) := by
  unfold folderAt? at found
  split at found
  · rename_i name inner reached
    exact ⟨name, Option.some.inj found ▸ reached⟩
  · cases found

/-- A last step that does not go back only depends on what was reached before it. -/
theorem follow_concat {step : Spelling} (forward : step ≠ [Path.dot, Path.dot])
    (behind : List Entry) (entry : Entry) (steps : List Spelling) :
    follow behind entry (steps ++ [step]) =
      (follow behind entry steps).bind fun found => follow [] found [step] := by
  fun_induction follow behind entry steps with
  | case1 behind entry =>
    cases entry with
    | file name bytes => rfl
    | folder name entries =>
      simp only [List.nil_append, Except.bind, follow, forward, if_false]
  | case2 => rfl
  | case3 behind first steps name entries stays ih =>
    simpa [follow, stays] using ih
  | case4 steps name entries goesOn ih => simpa [follow] using ih
  | case5 steps name entries back behind goesOn ih => simpa [follow] using ih
  | case6 behind first steps name entries goesOn isName missing =>
    simp [follow, goesOn, isName, missing, Except.bind]
  | case7 behind first steps name entries goesOn isName child found ih =>
    simpa [follow, goesOn, isName, found] using ih

/-- A slash at the end leaves a folder where it is. -/
theorem follow_of_slash {behind : List Entry} {entry found : Entry} {steps : List Spelling}
    (reached : follow behind entry (steps ++ [[]]) = .ok found) :
    follow behind entry steps = .ok found := by
  rw [follow_concat (by decide)] at reached
  cases before : follow behind entry steps with
  | error failure => simp [before, Except.bind] at reached
  | ok last =>
    cases last with
    | file name bytes => simp [before, Except.bind, follow] at reached
    | folder name entries => simpa [before, Except.bind, follow] using reached

theorem namesAlong_append (names before after : List Spelling) :
    namesAlong names (before ++ after) = namesAlong (namesAlong names before) after := by
  induction before generalizing names with
  | nil => rfl
  | cons step rest ih =>
    rw [List.cons_append, namesAlong, namesAlong]
    split_ifs <;> exact ih _

theorem namesAlong_back (names steps : List Spelling) :
    namesAlong names ([Path.dot, Path.dot] :: steps) = namesAlong names.dropLast steps := rfl

theorem namesTo_join (tree : FileTree) (nonempty : folder.spelling ≠ [])
    (isName : Entry.isName name = true) :
    tree.namesTo (folder.join name) = tree.namesTo folder ++ [name] := by
  obtain ⟨notEmpty, notCurrent, notParent, -⟩ := Path.isName_iff.mp isName
  obtain ⟨steps, ends, joined⟩ := tree.stepsTo_join nonempty isName
  rw [namesTo, namesTo, joined, namesAlong_append]
  rcases ends with ends | ends
  · simp [ends, namesAlong, notEmpty, notCurrent, notParent]
  · simp [ends, namesAlong_append, namesAlong, notEmpty, notCurrent, notParent]

/-- What a folder has under a name lies at the name joined to the folder's path. -/
theorem lookup_join (found : tree.folderAt? folder = some entries)
    (isName : Entry.isName name = true) (inside : Entry.find? name entries = some child) :
    tree.lookup (folder.join name) = .ok child := by
  obtain ⟨notEmpty, notCurrent, notParent, -⟩ := Path.isName_iff.mp isName
  obtain ⟨folderName, reached⟩ := lookup_of_folderAt? found
  have nonempty := spelling_ne_nil found
  obtain ⟨steps, ends, joined⟩ := tree.stepsTo_join nonempty isName
  have nonempty' : (folder.join name).spelling ≠ [] := by
    simp [Path.join_name folder nonempty isName, nonempty]
  have inFolder : follow [] (.folder [] tree.entries) steps = .ok (.folder folderName entries) := by
    rw [lookup, if_neg nonempty] at reached
    rcases ends with ends | ends
    · rw [ends] at reached
      exact reached
    · rw [ends] at reached
      exact follow_of_slash reached
  rw [lookup, if_neg nonempty', joined, follow_concat notParent, inFolder]
  simp [Except.bind, follow, notEmpty, notCurrent, notParent, inside]

/-! ### Places in the tree -/

/-- What lies at a list of names, with the folders on the way, the nearest first. -/
def walk (behind : List Entry) (entry : Entry) : List Spelling → Option (List Entry × Entry)
  | [] => some (behind, entry)
  | name :: names =>
    match entry with
    | .file _ _ => none
    | .folder _ entries =>
      match Entry.find? name entries with
      | none => none
      | some child => walk (entry :: behind) child names

theorem walk_append (behind : List Entry) (entry : Entry) (names others : List Spelling) :
    walk behind entry (names ++ others) =
      (walk behind entry names).bind fun reached => walk reached.1 reached.2 others := by
  fun_induction walk behind entry names with
  | case1 => rfl
  | case2 => rfl
  | case3 behind name names folderName entries missing => simp [walk, missing]
  | case4 behind name names folderName entries child found ih => simpa [walk, found] using ih

/-- One name more leads from a folder to one of its entries. -/
theorem walk_concat {entry child : Entry} {behind : List Entry} {names : List Spelling}
    {step : Spelling} : walk [] entry (names ++ [step]) = some (behind, child) ↔
      ∃ folders name entries, walk [] entry names = some (folders, .folder name entries) ∧
        Entry.find? step entries = some child ∧ behind = .folder name entries :: folders := by
  rw [walk_append]
  constructor
  · intro reached
    obtain ⟨⟨folders, last⟩, before, after⟩ := Option.bind_eq_some_iff.mp reached
    cases last with
    | file name bytes => simp [walk] at after
    | folder name entries =>
      cases found : Entry.find? step entries with
      | none => simp [walk, found] at after
      | some inner =>
        simp only [walk, found, Option.some.injEq, Prod.mk.injEq] at after
        exact ⟨folders, name, entries, before, after.2 ▸ found, after.1.symm⟩
  · rintro ⟨folders, name, entries, before, found, rfl⟩
    simp [before, walk, found]

theorem walk_of_behind_nil {entry last : Entry} {names : List Spelling}
    (reached : walk [] entry names = some ([], last)) : names = [] := by
  rcases List.eq_nil_or_concat names with nothing | ⟨front, step, rfl⟩
  · exact nothing
  · rw [List.concat_eq_append, walk_concat] at reached
    obtain ⟨folders, name, entries, -, -, nearest⟩ := reached
    cases nearest

/-- The nearest folder on the way lies at all names but the last. -/
theorem walk_back {entry last back : Entry} {behind : List Entry} {names : List Spelling}
    (reached : walk [] entry names = some (back :: behind, last)) :
    ∃ front step name entries, names = front ++ [step] ∧ back = .folder name entries ∧
      walk [] entry front = some (behind, .folder name entries) := by
  rcases List.eq_nil_or_concat names with rfl | ⟨front, step, rfl⟩
  · simp [walk] at reached
  · rw [List.concat_eq_append, walk_concat] at reached
    obtain ⟨folders, name, entries, before, -, nearest⟩ := reached
    obtain ⟨rfl, rfl⟩ := List.cons.inj nearest
    exact ⟨front, step, name, entries, List.concat_eq_append, rfl, before⟩

theorem contentNamed_walk {entry last : Entry} {behind folders : List Entry} {names : List Spelling}
    (named : entry.contentNamed) (reached : walk behind entry names = some (folders, last)) :
    last.contentNamed := by
  fun_induction walk behind entry names with
  | case1 behind entry =>
    obtain ⟨-, rfl⟩ := Prod.mk.inj (Option.some.inj reached)
    exact named
  | case2 => cases reached
  | case3 => cases reached
  | case4 behind name names folderName entries child found ih =>
    exact ih (Entry.contentNamed_of_wellNamed (Entry.wellNamed_of_find? named found)) reached

theorem wellNamedList_of_walk {entries inner behind : List Entry} {folderName : Spelling}
    {names : List Spelling} (named : Entry.wellNamedList entries = true)
    (reached : walk [] (.folder [] entries) names = some (behind, .folder folderName inner)) :
    Entry.wellNamedList inner = true := by
  have top : (Entry.folder [] entries).contentNamed := named
  exact contentNamed_walk top reached

/-- The steps of a path lead to the place that their names say. -/
theorem walk_of_follow {top entry found : Entry} {behind : List Entry} {names steps : List Spelling}
    (here : walk [] top names = some (behind, entry))
    (reached : follow behind entry steps = .ok found) :
    ∃ folders, walk [] top (namesAlong names steps) = some (folders, found) := by
  fun_induction follow behind entry steps generalizing names with
  | case1 behind entry => exact ⟨behind, Except.ok.inj reached ▸ here⟩
  | case2 => cases reached
  | case3 behind step steps name entries stays ih =>
    rw [namesAlong, if_pos stays]
    exact ih here reached
  | case4 steps name entries goesOn ih =>
    -- There is nothing behind the root, so `..` stays there.
    obtain rfl := walk_of_behind_nil here
    exact ih here reached
  | case5 steps name entries back behind goesOn ih =>
    obtain ⟨front, step, outerName, outer, rfl, rfl, before⟩ := walk_back here
    exact ih (by simpa using before) reached
  | case6 => cases reached
  | case7 behind step steps name entries goesOn forward child inside ih =>
    rw [namesAlong, if_neg goesOn, if_neg forward]
    exact ih (walk_concat.mpr ⟨behind, name, entries, here, inside, rfl⟩) reached

/-! ### The tree after a deletion -/

variable {folders names : List Spelling}

/-- The entry at a list of names after the one of a name was taken out of a folder. -/
def pruned (name : Spelling) (folders names : List Spelling) : Entry → Entry
  | .file fileName bytes => .file fileName bytes
  | .folder folderName entries =>
    if names <+: folders then
      .folder folderName (Entry.take name (folders.drop names.length) entries)
    else .folder folderName entries

theorem pruned_folder (name : Spelling) (names rest : List Spelling) (folderName : Spelling)
    (entries : List Entry) :
    pruned name (names ++ rest) names (.folder folderName entries) =
      .folder folderName (Entry.take name rest entries) := by
  simp [pruned]

theorem pruned_of_outside (outside : ¬ names <+: folders) (entry : Entry) :
    pruned name folders names entry = entry := by
  cases entry with
  | file fileName bytes => rfl
  | folder folderName entries => rw [pruned, if_neg outside]

/-- A deletion keeps the way from a folder to its entries, but for the one deleted. -/
theorem find?_pruned {step : Spelling} (folderName : Spelling)
    (named : Entry.wellNamedList entries = true) (inside : Entry.find? step entries = some child)
    (elsewhere : names ++ [step] ≠ folders ++ [name]) :
    ∃ entries', pruned name folders names (.folder folderName entries) =
        .folder folderName entries' ∧
      Entry.find? step entries' = some (pruned name folders (names ++ [step]) child) := by
  by_cases above : names <+: folders
  · obtain ⟨rest, rfl⟩ := above
    refine ⟨Entry.take name rest entries, pruned_folder _ _ _ _ _, ?_⟩
    cases rest with
    | nil =>
      have differs : step ≠ name := by simpa using elsewhere
      have outside : ¬ names ++ [step] <+: names ++ [] := by
        intro within
        simpa using within.length_le
      rw [pruned_of_outside outside, Entry.take, Entry.find?_erase, if_neg differs, inside]
    | cons next rest =>
      by_cases same : step = next
      · subst same
        have isName := Entry.isName_of_find? named inside
        cases child with
        | file fileName bytes => simp [Entry.take, isName, inside, pruned]
        | folder innerName inner =>
          have split : names ++ step :: rest = names ++ [step] ++ rest := by simp
          have sameName : innerName = step := Entry.name_of_find? inside
          simp only [Entry.take, isName, inside, if_true]
          rw [Entry.find?_replace, split, pruned_folder, sameName]
          exact if_pos rfl
      · have outside : ¬ names ++ [step] <+: names ++ next :: rest := by
          rw [List.prefix_append_right_inj, List.cons_prefix_cons]
          exact fun within => same within.1
        rw [pruned_of_outside outside, Entry.find?_take_of_ne same, inside]
  · have outside : ¬ names ++ [step] <+: folders :=
      fun within => above ((List.prefix_append _ _).trans within)
    refine ⟨entries, pruned_of_outside above _, ?_⟩
    rw [pruned_of_outside outside, inside]

/-- Whatever lies at some names is still there after a file was deleted elsewhere. -/
theorem walk_pruned {entries : List Entry} {fileName : Spelling} {bytes : ByteArray}
    (named : Entry.wellNamedList entries = true) {removed behind : List Entry} {entry : Entry}
    (isFile : walk [] (.folder [] entries) (folders ++ [name]) =
      some (removed, .file fileName bytes))
    (here : walk [] (.folder [] entries) names = some (behind, entry))
    (elsewhere : names ≠ folders ++ [name]) :
    ∃ behind', walk [] (.folder [] (Entry.take name folders entries)) names =
      some (behind', pruned name folders names entry) := by
  induction names using List.reverseRecOn generalizing behind entry with
  | nil =>
    obtain ⟨-, rfl⟩ := Prod.mk.inj (Option.some.inj here)
    exact ⟨[], by simp [walk, pruned]⟩
  | append_singleton names step ih =>
    obtain ⟨outer, folderName, inner, before, inside, -⟩ := walk_concat.mp here
    -- The file has no entries, so the way does not lead through it.
    have notFile : names ≠ folders ++ [name] := by
      rintro rfl
      rw [before] at isFile
      cases isFile
    have innerNamed := wellNamedList_of_walk named before
    obtain ⟨behind', before'⟩ := ih before notFile
    obtain ⟨inner', folder', inside'⟩ := find?_pruned folderName innerNamed inside elsewhere
    exact ⟨_, walk_concat.mpr ⟨behind', folderName, inner', folder' ▸ before', inside', rfl⟩⟩

theorem exists_pruned_folder (name : Spelling) (folders names : List Spelling)
    (folderName : Spelling) (entries : List Entry) :
    ∃ entries', pruned name folders names (.folder folderName entries) =
      .folder folderName entries' := by
  unfold pruned
  split_ifs
  · exact ⟨_, rfl⟩
  · exact ⟨_, rfl⟩

/-- A path that does not lead to the deleted file leads to the same place as before. -/
theorem follow_pruned {entries : List Entry} {fileName : Spelling} {bytes : ByteArray}
    (named : Entry.wellNamedList entries = true) {removed behind behind' : List Entry}
    {entry found : Entry} {steps : List Spelling}
    (isFile : walk [] (.folder [] entries) (folders ++ [name]) =
      some (removed, .file fileName bytes))
    (here : walk [] (.folder [] entries) names = some (behind, entry))
    (here' : walk [] (.folder [] (Entry.take name folders entries)) names =
      some (behind', pruned name folders names entry))
    (reached : follow behind entry steps = .ok found)
    (elsewhere : namesAlong names steps ≠ folders ++ [name]) :
    follow behind' (pruned name folders names entry) steps =
      .ok (pruned name folders (namesAlong names steps) found) := by
  fun_induction follow behind entry steps generalizing names behind' with
  | case1 behind entry =>
    rw [Except.ok.inj reached]
    rfl
  | case2 => cases reached
  | case3 behind step steps folderName inner stays ih =>
    rw [namesAlong, if_pos stays] at elsewhere ⊢
    have next := ih here here' reached elsewhere
    obtain ⟨inner', folder'⟩ := exists_pruned_folder name folders names folderName inner
    rw [folder'] at next ⊢
    simpa only [follow, stays, if_true] using next
  | case4 steps folderName inner _ ih =>
    obtain rfl := walk_of_behind_nil here
    obtain ⟨rfl, -⟩ := Prod.mk.inj (Option.some.inj here')
    rw [namesAlong_back, List.dropLast_nil] at elsewhere ⊢
    have next := ih here here' reached elsewhere
    obtain ⟨inner', folder'⟩ := exists_pruned_folder name folders [] folderName inner
    rw [folder'] at next ⊢
    simpa [follow] using next
  | case5 steps folderName inner back behind _ ih =>
    obtain ⟨front, last, outerName, outer, rfl, rfl, before⟩ := walk_back here
    rw [namesAlong_back, List.dropLast_concat] at elsewhere ⊢
    have notFile : front ≠ folders ++ [name] := by
      rintro rfl
      rw [before] at isFile
      cases isFile
    obtain ⟨further, before'⟩ := walk_pruned named isFile before notFile
    have next := ih before before' reached elsewhere
    obtain ⟨further', outerName', outer', before'', -, rfl⟩ := walk_concat.mp here'
    rw [before''] at before'
    obtain ⟨rfl, nearest⟩ := Prod.mk.inj (Option.some.inj before')
    obtain ⟨inner', folder'⟩ := exists_pruned_folder name folders (front ++ [last]) folderName inner
    rw [folder', nearest]
    simpa [follow] using next
  | case6 => cases reached
  | case7 behind step steps folderName inner goesOn forward child inside ih =>
    rw [namesAlong, if_neg goesOn, if_neg forward] at elsewhere ⊢
    have step' := walk_concat.mpr ⟨behind, folderName, inner, here, inside, rfl⟩
    have notFile : names ++ [step] ≠ folders ++ [name] := by
      intro atFile
      rw [atFile, isFile] at step'
      obtain ⟨-, rfl⟩ := Prod.mk.inj (Option.some.inj step')
      cases steps with
      | nil => exact elsewhere atFile
      | cons more rest => cases reached
    have innerNamed := wellNamedList_of_walk named here
    obtain ⟨inner', folder', inside'⟩ := find?_pruned folderName innerNamed inside notFile
    rw [folder'] at here'
    have next := ih step' (walk_concat.mpr ⟨behind', folderName, inner', here', inside', rfl⟩)
      reached elsewhere
    rw [folder']
    simpa only [follow, goesOn, forward, inside', if_false, Bool.false_eq_true] using next

/-- A folder after a file at some names below it was deleted. -/
theorem folderAt?_delete {fileName : Spelling} {bytes : ByteArray} {steps : List Spelling}
    (found : tree.folderAt? root = some entries)
    (isFile : tree.lookup path = .ok (.file fileName bytes))
    (below : tree.namesTo path = tree.namesTo root ++ steps ++ [name]) :
    (tree.delete path).folderAt? root = some (Entry.take name steps entries) := by
  obtain ⟨rootName, reached⟩ := lookup_of_folderAt? found
  have nonempty := spelling_ne_nil found
  have nonempty' : path.spelling ≠ [] := by
    intro isEmpty
    simp [lookup, isEmpty] at isFile
  have deleted : tree.delete path = ⟨tree.location,
      Entry.take name (tree.namesTo root ++ steps) tree.entries,
      Entry.wellNamedList_take name _ tree.named⟩ := by
    simp [delete, isFile, below]
  rw [lookup, if_neg nonempty] at reached
  rw [lookup, if_neg nonempty'] at isFile
  have start : walk [] (.folder [] tree.entries) [] = some ([], .folder [] tree.entries) := rfl
  have top : pruned name (tree.namesTo root ++ steps) [] (.folder [] tree.entries) =
      .folder [] (Entry.take name (tree.namesTo root ++ steps) tree.entries) := by
    simp [pruned]
  obtain ⟨removed, atFile⟩ := walk_of_follow start isFile
  have atFile' : walk [] (.folder [] tree.entries) (tree.namesTo root ++ steps ++ [name]) =
      some (removed, .file fileName bytes) := below ▸ atFile
  have elsewhere : namesAlong [] (tree.stepsTo root) ≠ tree.namesTo root ++ steps ++ [name] := by
    intro same
    have lengths := congrArg List.length same
    simp [namesTo] at lengths
  have reached' := follow_pruned tree.named atFile' start (by rw [top]; rfl) reached elsewhere
  rw [top] at reached'
  have inRoot : pruned name (tree.namesTo root ++ steps) (namesAlong [] (tree.stepsTo root))
      (.folder rootName entries) = .folder rootName (Entry.take name steps entries) :=
    pruned_folder name (tree.namesTo root) steps rootName entries
  rw [inRoot] at reached'
  have sameSteps : (tree.delete path).stepsTo root = tree.stepsTo root := by
    rw [stepsTo, stepsTo, deleted]
  rw [folderAt?, lookup, if_neg nonempty, sameSteps, deleted, reached']

end FileTree

/-! ### Files with their bytes -/

mutual

/-- The files at and below an entry of a folder, with their bytes. -/
def contentsAt (folder : Path) : Entry → List (Path × ByteArray)
  | .file name bytes => [(folder.join name, bytes)]
  | .folder name entries =>
    if isHidden name then [] else contentsBelow (folder.join name) entries

/-- The files at and below the entries of a folder, with their bytes. -/
def contentsBelow (folder : Path) : List Entry → List (Path × ByteArray)
  | [] => []
  | entry :: rest => contentsAt folder entry ++ contentsBelow folder rest

end

mutual

theorem paths_contentsAt (folder : Path) (entry : Entry) :
    (contentsAt folder entry).map Prod.fst = filesAt folder entry := by
  match entry with
  | .file name bytes => simp [contentsAt, filesAt]
  | .folder name entries =>
    rw [contentsAt, filesAt]
    split_ifs
    · rfl
    · exact paths_contentsBelow (folder.join name) entries

theorem paths_contentsBelow (folder : Path) (entries : List Entry) :
    (contentsBelow folder entries).map Prod.fst = filesBelow folder entries := by
  match entries with
  | [] => simp [contentsBelow, filesBelow]
  | entry :: rest =>
    rw [contentsBelow, filesBelow, List.map_append, paths_contentsAt folder entry,
      paths_contentsBelow folder rest]

end

theorem contentsBelow_eq (folder : Path) (entries : List Entry) :
    contentsBelow folder entries = entries.flatMap (contentsAt folder) := by
  induction entries with
  | nil => simp [contentsBelow]
  | cons entry rest ih => rw [contentsBelow, ih, List.flatMap_cons]

/-- A file with a name and bytes is found at a path, some names below a folder. -/
inductive LiesBelow (name : Spelling) (bytes : ByteArray) (path : Path) :
    Path → List Entry → List Spelling → Prop
  | here {folder : Path} {entries : List Entry} (member : .file name bytes ∈ entries)
    (spelled : folder.join name = path) : LiesBelow name bytes path folder entries []
  | deeper {folder : Path} {entries inner : List Entry} {step : Spelling} {steps : List Spelling}
    (member : .folder step inner ∈ entries) (entered : isHidden step = false)
    (further : LiesBelow name bytes path (folder.join step) inner steps) :
    LiesBelow name bytes path folder entries (step :: steps)

theorem LiesBelow.mono {name : Spelling} {bytes : ByteArray} {path folder : Path}
    {few many : List Entry} {steps : List Spelling}
    (lies : LiesBelow name bytes path folder few steps) (subset : few ⊆ many) :
    LiesBelow name bytes path folder many steps := by
  cases lies with
  | here member spelled => exact .here (subset member) spelled
  | deeper member entered further => exact .deeper (subset member) entered further

mutual

theorem liesBelow_of_mem_contentsAt {folder path : Path} {bytes : ByteArray} {entry : Entry}
    (found : (path, bytes) ∈ contentsAt folder entry) :
    ∃ name steps, LiesBelow name bytes path folder [entry] steps := by
  match entry with
  | .file name bytes' =>
    rw [contentsAt, List.mem_singleton, Prod.mk.injEq] at found
    obtain ⟨rfl, rfl⟩ := found
    exact ⟨name, [], .here List.mem_cons_self rfl⟩
  | .folder name entries =>
    rw [contentsAt] at found
    split_ifs at found with hidden
    · simp at found
    · obtain ⟨fileName, steps, lies⟩ := liesBelow_of_mem_contentsBelow found
      exact ⟨fileName, name :: steps, .deeper List.mem_cons_self (by simpa using hidden) lies⟩

/-- Every file found lies some names below the folder. -/
theorem liesBelow_of_mem_contentsBelow {folder path : Path} {bytes : ByteArray}
    {entries : List Entry} (found : (path, bytes) ∈ contentsBelow folder entries) :
    ∃ name steps, LiesBelow name bytes path folder entries steps := by
  match entries with
  | [] => simp [contentsBelow] at found
  | entry :: rest =>
    rw [contentsBelow, List.mem_append] at found
    rcases found with here | there
    · obtain ⟨name, steps, lies⟩ := liesBelow_of_mem_contentsAt here
      exact ⟨name, steps, lies.mono (by simp)⟩
    · obtain ⟨name, steps, lies⟩ := liesBelow_of_mem_contentsBelow there
      exact ⟨name, steps, lies.mono (by simp)⟩

end

namespace LiesBelow

variable {name : Spelling} {bytes : ByteArray} {path folder : Path} {entries : List Entry}
  {steps : List Spelling} {tree : FileTree}

theorem lookup (lies : LiesBelow name bytes path folder entries steps)
    (found : tree.folderAt? folder = some entries) :
    tree.lookup path = .ok (.file name bytes) ∧
      tree.namesTo path = tree.namesTo folder ++ steps ++ [name] := by
  induction lies with
  | here member spelled =>
    have named := FileTree.wellNamed_folderAt? found
    have inside := Entry.find?_of_mem named member
    have isName := Entry.isName_of_find? named inside
    subst spelled
    refine ⟨FileTree.lookup_join found isName inside, ?_⟩
    rw [List.append_nil]
    exact tree.namesTo_join (FileTree.spelling_ne_nil found) isName
  | @deeper folder entries inner step steps member entered further ih =>
    have named := FileTree.wellNamed_folderAt? found
    have inside : Entry.find? step entries = some (.folder step inner) :=
      Entry.find?_of_mem named member
    have isName := Entry.isName_of_find? named inside
    have reached := FileTree.lookup_join found isName inside
    have joined := tree.namesTo_join (FileTree.spelling_ne_nil found) isName
    obtain ⟨isFile, names⟩ := ih (by rw [FileTree.folderAt?, reached])
    refine ⟨isFile, ?_⟩
    rw [names, joined]
    simp

/-- Deleting a file takes it out of the files found, with its bytes, and leaves the others. -/
theorem perm_contents (lies : LiesBelow name bytes path folder entries steps)
    (named : Entry.wellNamedList entries = true) :
    (contentsBelow folder entries).Perm
      ((path, bytes) :: contentsBelow folder (Entry.take name steps entries)) := by
  induction lies with
  | here member spelled =>
    have front := Entry.perm_erase named member
    rw [contentsBelow_eq, contentsBelow_eq, Entry.take, ← spelled]
    exact front.flatMap_right _
  | @deeper folder entries inner step steps member entered further ih =>
    have front : entries.Perm (.folder step inner :: Entry.erase step entries) :=
      Entry.perm_erase named member
    have inside : Entry.find? step entries = some (.folder step inner) :=
      Entry.find?_of_mem named member
    have isName := Entry.isName_of_find? named inside
    have innerNamed := (Entry.wellNamed_folder.mp (Entry.wellNamed_of_find? named inside)).2
    have taken : Entry.take name (step :: steps) entries =
        .folder step (Entry.take name steps inner) :: Entry.erase step entries := by
      simp [Entry.take, isName, inside, Entry.replace, Entry.name]
    have opened (content : List Entry) : contentsAt folder (.folder step content) =
        contentsBelow (folder.join step) content := by
      rw [contentsAt, entered, if_neg Bool.false_ne_true]
    rw [contentsBelow_eq, contentsBelow_eq, taken, List.flatMap_cons, opened]
    refine (front.flatMap_right _).trans ?_
    rw [List.flatMap_cons, opened]
    exact (ih innerNamed).append_right _

end LiesBelow

/-- The walk meets the files that lie below the folder and no others. -/
theorem mem_filesBelow {folder path : Path} {entries : List Entry}
    (named : Entry.wellNamedList entries = true) :
    path ∈ filesBelow folder entries ↔
      ∃ name bytes steps, LiesBelow name bytes path folder entries steps := by
  rw [← paths_contentsBelow, List.mem_map]
  constructor
  · rintro ⟨⟨_, bytes⟩, found, rfl⟩
    obtain ⟨name, steps, lies⟩ := liesBelow_of_mem_contentsBelow found
    exact ⟨name, bytes, steps, lies⟩
  · rintro ⟨name, bytes, steps, lies⟩
    exact ⟨(path, bytes), (lies.perm_contents named).mem_iff.mpr List.mem_cons_self, rfl⟩

/-! ### Finding files after a deletion -/

variable {tree : FileTree} {root path file : Path} {entries : List Entry} {bytes : ByteArray}

theorem readFile_of_mem_contents (folder : tree.folderAt? root = some entries)
    (found : (path, bytes) ∈ contentsBelow root entries) : tree.readFile path = .ok bytes := by
  obtain ⟨name, steps, lies⟩ := liesBelow_of_mem_contentsBelow found
  rw [FileTree.readFile, (lies.lookup folder).1]

/-- After a file found below a folder was deleted, the folder is still there, and the other
files below it have the bytes they had. -/
theorem FileTree.contents_delete (folder : tree.folderAt? root = some entries)
    (found : file ∈ filesBelow root entries) :
    ∃ bytes entries', (tree.delete file).folderAt? root = some entries' ∧
      (contentsBelow root entries).Perm ((file, bytes) :: contentsBelow root entries') := by
  rw [← paths_contentsBelow] at found
  obtain ⟨⟨_, bytes⟩, content, rfl⟩ := List.mem_map.mp found
  obtain ⟨name, steps, lies⟩ := liesBelow_of_mem_contentsBelow content
  obtain ⟨isFile, names⟩ := lies.lookup folder
  exact ⟨bytes, Entry.take name steps entries, FileTree.folderAt?_delete folder isFile names,
    lies.perm_contents (FileTree.wellNamed_folderAt? folder)⟩

theorem discover_skipped (exclusions : List Exclusion) (folder : Path) (entries : List Entry) :
    (discover exclusions folder entries).skipped =
      (((filesBelow folder entries).filter Path.isSourceFile).filter
        fun path => !(skipReason? exclusions path).isNone).length := by
  simp [discover, List.partition_eq_filter_filter, Function.comp_def]

/-- Every source is found or left out. -/
theorem length_discover (exclusions : List Exclusion) (folder : Path) (entries : List Entry) :
    (discover exclusions folder entries).files.length +
        (discover exclusions folder entries).skipped =
      ((filesBelow folder entries).filter Path.isSourceFile).length := by
  rw [discover_files, (perm_sortPaths _).length_eq, discover_skipped]
  exact (List.length_eq_length_filter_add _).symm

/-- The sources that an exclusion or a marker name does not leave out. -/
def keptSources (exclusions : List Exclusion) (files : List Path) : List Path :=
  (files.filter Path.isSourceFile).filter fun path => (skipReason? exclusions path).isNone

theorem perm_discover_files (exclusions : List Exclusion) (folder : Path) (entries : List Entry) :
    (discover exclusions folder entries).files.Perm
      (keptSources exclusions (filesBelow folder entries)) := by
  rw [discover_files]
  exact perm_sortPaths _

/-- Where one of the files found is missing, the others are found in the same order, and no
more files are left out than before. -/
theorem discover_of_perm {exclusions : List Exclusion} {entries' : List Entry}
    (named : Entry.wellNamedList entries = true) (named' : Entry.wellNamedList entries' = true)
    (missing : (filesBelow root entries).Perm (file :: filesBelow root entries'))
    (found : file ∈ (discover exclusions root entries).files) :
    ∃ earlier later, (discover exclusions root entries).files = earlier ++ file :: later ∧
      discover exclusions root entries' =
        ⟨earlier ++ later, (discover exclusions root entries).skipped⟩ := by
  obtain ⟨earlier, later, split⟩ := List.append_of_mem found
  have increasing := discover_files_increasing exclusions root named
  have increasing' := discover_files_increasing exclusions root named'
  have among := (perm_discover_files exclusions root entries).mem_iff.mp found
  rw [keptSources, List.mem_filter, List.mem_filter] at among
  obtain ⟨⟨-, isSource⟩, kept⟩ := among
  have sources := missing.filter Path.isSourceFile
  rw [List.filter_cons_of_pos isSource] at sources
  have sameFiles : (discover exclusions root entries').files = earlier ++ later := by
    have files : (keptSources exclusions (filesBelow root entries)).Perm
        (file :: keptSources exclusions (filesBelow root entries')) := by
      have filtered := sources.filter fun path => (skipReason? exclusions path).isNone
      simpa only [keptSources, List.filter_cons, kept, if_true] using filtered
    have perm : (file :: (discover exclusions root entries').files).Perm
        (file :: (earlier ++ later)) := by
      have middle : (earlier ++ file :: later).Perm (file :: (earlier ++ later)) :=
        List.perm_middle
      refine .trans ?_ middle
      rw [← split]
      exact ((perm_discover_files exclusions root entries').cons file).trans
        (files.symm.trans (perm_discover_files exclusions root entries).symm)
    have remaining : (earlier ++ later).Pairwise (· < ·) := by
      rw [split] at increasing
      exact increasing.sublist ((List.Sublist.refl earlier).append (List.sublist_cons_self _ _))
    exact eq_of_perm_of_increasing perm.cons_inv increasing' remaining
  have sameSkipped : (discover exclusions root entries').skipped =
      (discover exclusions root entries).skipped := by
    have skipped := sources.filter fun path => !(skipReason? exclusions path).isNone
    simp only [List.filter_cons, kept, Bool.not_true, Bool.false_eq_true, if_false] at skipped
    rw [discover_skipped, discover_skipped, skipped.length_eq]
  refine ⟨earlier, later, split, ?_⟩
  rw [← sameFiles, ← sameSkipped]

/-- After a file found was deleted, the same files but that one are found, in the same order;
they read as before, and as many files are left out. -/
theorem discover_delete {exclusions : List Exclusion} (folder : tree.folderAt? root = some entries)
    (found : file ∈ (discover exclusions root entries).files) :
    ∃ earlier later entries', (tree.delete file).folderAt? root = some entries' ∧
      (discover exclusions root entries).files = earlier ++ file :: later ∧
      discover exclusions root entries' =
        ⟨earlier ++ later, (discover exclusions root entries).skipped⟩ ∧
      ∀ path ∈ earlier ++ later, (tree.delete file).readFile path = tree.readFile path := by
  have among := (perm_discover_files exclusions root entries).mem_iff.mp found
  have walked : file ∈ filesBelow root entries :=
    List.mem_of_mem_filter (List.mem_of_mem_filter among)
  obtain ⟨bytes, entries', folder', contents⟩ := FileTree.contents_delete folder walked
  have missing := contents.map Prod.fst
  rw [List.map_cons, paths_contentsBelow, paths_contentsBelow] at missing
  obtain ⟨earlier, later, split, found'⟩ := discover_of_perm (FileTree.wellNamed_folderAt? folder)
    (FileTree.wellNamed_folderAt? folder') missing found
  refine ⟨earlier, later, entries', folder', split, found', fun path member => ?_⟩
  have remaining : path ∈ (discover exclusions root entries').files := by
    rw [found']
    exact member
  have among' := (perm_discover_files exclusions root entries').mem_iff.mp remaining
  have walked' : path ∈ filesBelow root entries' :=
    List.mem_of_mem_filter (List.mem_of_mem_filter among')
  rw [← paths_contentsBelow] at walked'
  obtain ⟨⟨_, content⟩, after, rfl⟩ := List.mem_map.mp walked'
  have before := contents.mem_iff.mpr (List.mem_cons_of_mem _ after)
  rw [readFile_of_mem_contents folder' after, readFile_of_mem_contents folder before]

end JavaIndex
