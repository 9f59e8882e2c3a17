import JavaIndex.Index.Basic
import JavaIndex.Proofs.Outlines
import JavaIndex.Proofs.Tables
import Mathlib.Data.List.Nodup

/-!
# The two phases of a build

The first phase enters the outlines that can be built, in the order of their files,
and gives them consecutive numbers. The second phase leaves the tables alone and
fills the cells of the records, each of them once.

## Main definitions

* `outlinesOf`, `failuresOf` — the outlines that can be built from a list of files, and what
  there is to report of the others
* `numbered` — records with consecutive numbers

## Main results

* `Index.enterFiles_tables`, `Index.enterFiles_cells` — what the first phase leaves behind
* `Index.settle_tables`, `Index.settleAll_tables` — the second phase keeps the tables
* `Index.usedBy?_settleAll` — the second phase resolves every record it is given
-/

namespace JavaIndex

/-- The outlines that can be built from a list of files, in order. -/
def outlinesOf (parser : Parser) (tree : FileTree) (files : List Path) : List Outline :=
  files.filterMap fun path => (Outline.ofFile parser tree path).toOption

/-- What there is to report of a file by the result of working on it. -/
def FileError.ofResult? {α : Type} (path : Path) : Except (Failure Error) α → Option FileError
  | .error failure => some (ofFailure path failure)
  | .ok _ => none

/-- What there is to report of the files in a list whose outlines cannot be built, in order. -/
def failuresOf (parser : Parser) (tree : FileTree) (files : List Path) : List FileError :=
  files.filterMap fun path => FileError.ofResult? path (Outline.ofFile parser tree path)

/-- Records with the given outlines and consecutive numbers. -/
def numbered (first : Nat) : List Outline → List Record
  | [] => []
  | outline :: rest => { outline with number := first } :: numbered (first + 1) rest

theorem mem_outlinesOf {parser : Parser} {tree : FileTree} {files : List Path} {outline : Outline} :
    outline ∈ outlinesOf parser tree files ↔
      ∃ path ∈ files, Outline.ofFile parser tree path = .ok outline := by
  have built (path : Path) : (Outline.ofFile parser tree path).toOption = some outline ↔
      Outline.ofFile parser tree path = .ok outline := by
    cases Outline.ofFile parser tree path <;> simp [Except.toOption]
  simp only [outlinesOf, List.mem_filterMap, built]

/-- The outlines lie at files of the list, in the same order. -/
theorem paths_outlinesOf (parser : Parser) (tree : FileTree) (files : List Path) :
    ((outlinesOf parser tree files).map Outline.path).Sublist files := by
  induction files with
  | nil => exact List.Sublist.slnil
  | cons path rest ih =>
    rw [outlinesOf, List.filterMap_cons]
    cases built : Outline.ofFile parser tree path with
    | error failure => exact ih.cons path
    | ok outline =>
      rw [Except.toOption, List.map_cons, Outline.path_ofFile built]
      exact ih.cons_cons path

/-- A file that gives no outline is reported. -/
theorem length_outlinesOf (parser : Parser) (tree : FileTree) (files : List Path) :
    files.length - (failuresOf parser tree files).length =
      (outlinesOf parser tree files).length := by
  have all : (failuresOf parser tree files).length + (outlinesOf parser tree files).length =
      files.length := by
    induction files with
    | nil => rfl
    | cons path rest ih =>
      rw [failuresOf, outlinesOf, List.filterMap_cons, List.filterMap_cons, List.length_cons, ← ih]
      cases Outline.ofFile parser tree path with
      | error failure => exact Nat.succ_add _ _
      | ok outline => rfl
  omega

theorem toOutline_numbered (first : Nat) (outlines : List Outline) :
    (numbered first outlines).map Record.toOutline = outlines := by
  induction outlines generalizing first with
  | nil => rfl
  | cons outline rest ih => rw [numbered, List.map_cons, ih]

theorem number_numbered (first : Nat) (outlines : List Outline) :
    (numbered first outlines).map Record.number = List.range' first outlines.length := by
  induction outlines generalizing first with
  | nil => rfl
  | cons outline rest ih => rw [numbered, List.map_cons, ih, List.length_cons, List.range'_succ]

namespace Index

variable {index : Index} {tree : FileTree} {files : List Path} {record : Record}

/-! ### Entering files -/

/-- The index with outlines entered one after the other. -/
def addOutlines (index : Index) (outlines : List Outline) : Index :=
  outlines.foldl (fun index outline => index.addRecord (index.nextRecord outline)) index

theorem enterFiles_snd (index : Index) (tree : FileTree) (files : List Path) :
    (index.enterFiles tree files).2 =
      index.addOutlines (outlinesOf index.config.parser tree files) := by
  induction files generalizing index with
  | nil => rfl
  | cons path rest ih =>
    rw [enterFiles, outlinesOf, List.filterMap_cons]
    cases built : Outline.ofFile index.config.parser tree path with
    | error failure => exact ih index
    | ok outline => exact ih (index.addRecord (index.nextRecord outline))

theorem enterFiles_fst (index : Index) (tree : FileTree) (files : List Path) :
    (index.enterFiles tree files).1 = failuresOf index.config.parser tree files := by
  induction files generalizing index with
  | nil => rfl
  | cons path rest ih =>
    rw [enterFiles, failuresOf, List.filterMap_cons]
    cases built : Outline.ofFile index.config.parser tree path with
    | error failure => exact congrArg (_ :: ·) (ih index)
    | ok outline => exact ih (index.addRecord (index.nextRecord outline))

theorem addOutlines_config (index : Index) (outlines : List Outline) :
    (index.addOutlines outlines).config = index.config := by
  induction outlines generalizing index with
  | nil => rfl
  | cons outline rest ih => exact ih (index.addRecord (index.nextRecord outline))

theorem addOutlines_tables (index : Index) (outlines : List Outline) :
    (index.addOutlines outlines).tables =
      (numbered index.cells.size outlines).foldl Tables.insert index.tables := by
  induction outlines generalizing index with
  | nil => rfl
  | cons outline rest ih =>
    have size : (index.addRecord (index.nextRecord outline)).cells.size =
        index.cells.size + 1 := Array.size_push _
    have next := ih (index.addRecord (index.nextRecord outline))
    rw [size] at next
    exact next

theorem addOutlines_cells (index : Index) (outlines : List Outline) :
    (index.addOutlines outlines).cells =
      index.cells ++ Array.replicate outlines.length none := by
  induction outlines generalizing index with
  | nil => simp [addOutlines]
  | cons outline rest ih =>
    have next := ih (index.addRecord (index.nextRecord outline))
    change ((index.addRecord (index.nextRecord outline)).addOutlines rest).cells = _
    rw [next]
    apply Array.toList_inj.mp
    simp [addRecord, List.replicate_succ]

/-- The first phase enters the outlines that can be built under consecutive numbers. -/
theorem enterFiles_tables (index : Index) (tree : FileTree) (files : List Path) :
    (index.enterFiles tree files).2.tables =
      (numbered index.cells.size (outlinesOf index.config.parser tree files)).foldl
        Tables.insert index.tables := by
  rw [enterFiles_snd, addOutlines_tables]

/-- The first phase leaves the cells of its records empty. -/
theorem enterFiles_cells (index : Index) (tree : FileTree) (files : List Path)
    (entered : record ∈ numbered index.cells.size (outlinesOf index.config.parser tree files)) :
    (index.enterFiles tree files).2.cells[record.number]? = some none := by
  have among := List.mem_map_of_mem (f := Record.number) entered
  rw [number_numbered, List.mem_range'_1] at among
  rw [enterFiles_snd, addOutlines_cells, Array.getElem?_append_right among.1,
    Array.getElem?_replicate, if_pos (by omega)]

/-! ### Resolving records -/

theorem noteUsed_tables (index : Index) (record : Record) (types : TypeSet) :
    (index.noteUsed record types).tables = index.tables := by
  unfold noteUsed
  split <;> rfl

theorem callPostProcessor_tables (index : Index) (record : Record) :
    (index.callPostProcessor record).2.tables = index.tables := by
  unfold callPostProcessor
  split <;> rfl

theorem callPostProcessor_cells (index : Index) (record : Record) :
    (index.callPostProcessor record).2.cells = index.cells := by
  unfold callPostProcessor
  split <;> rfl

@[simp] theorem settle_tables (index : Index) (record : Record) :
    (index.settle record).2.tables = index.tables := by
  rw [settle, callPostProcessor_tables, noteUsed_tables]

theorem noteUsed_config (index : Index) (record : Record) (types : TypeSet) :
    (index.noteUsed record types).config = index.config := by
  unfold noteUsed
  split <;> rfl

theorem callPostProcessor_config (index : Index) (record : Record) :
    (index.callPostProcessor record).2.config = index.config := by
  unfold callPostProcessor
  split <;> rfl

theorem settle_config (index : Index) (record : Record) :
    (index.settle record).2.config = index.config := by
  rw [settle, callPostProcessor_config, noteUsed_config]

/-- Noting the types of a record fills its own cell if that is empty, and no other. -/
theorem noteUsed_cells (index : Index) (record : Record) (types : TypeSet) (number : Nat) :
    (index.noteUsed record types).cells[number]? =
      if number = record.number ∧ index.cells[number]? = some none then some (some types)
      else index.cells[number]? := by
  unfold noteUsed usedBy?
  cases cell : index.cells[record.number]? with
  | none =>
    have outside : index.cells.size ≤ record.number := Array.getElem?_eq_none_iff.mp cell
    rw [if_neg]
    · simp [Array.setIfInBounds_eq_of_size_le outside]
    · rintro ⟨rfl, isEmpty⟩
      simp [cell] at isEmpty
  | some used? =>
    cases used? with
    | none =>
      have inside : record.number < index.cells.size := (Array.getElem?_eq_some_iff.mp cell).1
      simp only [Option.join_some, Array.getElem?_setIfInBounds, inside, if_true]
      by_cases same : number = record.number
      · simp only [same, cell, and_self, if_true]
      · simp only [same, Ne.symm same, false_and, if_false]
    | some known =>
      rw [if_neg]
      · rfl
      · rintro ⟨rfl, isEmpty⟩
        simp [cell] at isEmpty

theorem settle_cells (index : Index) (record : Record) (number : Nat) :
    (index.settle record).2.cells[number]? =
      if number = record.number ∧ index.cells[number]? = some none then
        some (some (record.resolveWith index.known))
      else index.cells[number]? := by
  rw [settle, callPostProcessor_cells, noteUsed_cells]

theorem settle_size (index : Index) (record : Record) :
    (index.settle record).2.cells.size = index.cells.size := by
  rw [settle, callPostProcessor_cells]
  unfold noteUsed
  split
  · exact Array.size_setIfInBounds
  · rfl

theorem settleAll_cons (index : Index) (record : Record) (rest : List Record) :
    (index.settleAll (record :: rest)).2 = ((index.settle record).2.settleAll rest).2 := by
  rw [settleAll]
  split <;> rename_i settled <;> rw [settled]

@[simp] theorem settleAll_tables (index : Index) (records : List Record) :
    (index.settleAll records).2.tables = index.tables := by
  induction records generalizing index with
  | nil => rfl
  | cons record rest ih => rw [settleAll_cons, ih, settle_tables]

theorem settleAll_config (index : Index) (records : List Record) :
    (index.settleAll records).2.config = index.config := by
  induction records generalizing index with
  | nil => rfl
  | cons record rest ih => rw [settleAll_cons, ih, settle_config]

theorem settleAll_size (index : Index) (records : List Record) :
    (index.settleAll records).2.cells.size = index.cells.size := by
  induction records generalizing index with
  | nil => rfl
  | cons record rest ih => rw [settleAll_cons, ih, settle_size]

@[simp] theorem known_settle (index : Index) (record : Record) :
    (index.settle record).2.known = index.known := by
  rw [known, known, settle_tables]

/-- A cell that is filled, or that belongs to none of the records, stays as it is. -/
theorem settleAll_cells {records : List Record} {number : Nat} (index : Index)
    (kept : number ∉ records.map Record.number ∨ index.cells[number]? ≠ some none) :
    (index.settleAll records).2.cells[number]? = index.cells[number]? := by
  induction records generalizing index with
  | nil => rfl
  | cons record rest ih =>
    have untouched : (index.settle record).2.cells[number]? = index.cells[number]? := by
      rw [settle_cells, if_neg]
      rintro ⟨same, isEmpty⟩
      simp [same] at kept
      exact kept (same ▸ isEmpty)
    rw [settleAll_cons, ih, untouched]
    rw [untouched]
    exact kept.imp_left fun outside member => outside (List.mem_cons_of_mem _ member)

/-- The second phase resolves every record whose cell is empty, against the tables as they
are. -/
theorem usedBy?_settleAll {records : List Record} (index : Index)
    (member : record ∈ records) (distinct : (records.map Record.number).Nodup)
    (fresh : index.cells[record.number]? = some none) :
    (index.settleAll records).2.usedBy? record = some (record.resolveWith index.known) := by
  induction records generalizing index with
  | nil => simp at member
  | cons first rest ih =>
    obtain ⟨notLater, restDistinct⟩ := List.nodup_cons.mp distinct
    rw [settleAll_cons]
    rcases List.mem_cons.mp member with rfl | later
    · -- The record has its turn, and no later one touches a full cell.
      have filled : (index.settle record).2.cells[record.number]? =
          some (some (record.resolveWith index.known)) := by
        rw [settle_cells, if_pos ⟨rfl, fresh⟩]
      rw [usedBy?, settleAll_cells _ (.inr (by simp [filled])), filled]
      rfl
    · -- Its turn comes later; until then its cell stays empty and the names stay known.
      have different : record.number ≠ first.number :=
        fun same => notLater (same ▸ List.mem_map_of_mem later)
      have stillEmpty : (index.settle first).2.cells[record.number]? = some none := by
        rw [settle_cells, if_neg (fun both => different both.1), fresh]
      rw [ih (index.settle first).2 later restDistinct stillEmpty, known_settle]

end Index

end JavaIndex
