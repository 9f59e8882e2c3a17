import JavaIndex.Proofs.Build
import JavaIndex.Proofs.Deletion

/-!
# Files that fail alone

A file whose outline cannot be built is reported and has no other effect: a build gives
the index that it would give if the file were not there. Both phases see the files only
through the outlines that can be built, so they cannot tell a file that fails from one
that is missing.

## Main results

* `Index.enterFiles_congr` — the first phase depends on the outlines alone
* `outlinesOf_of_failing`, `failuresOf_of_failing` — a failing file among others
* `Index.build_delete` — a build without a failing file
-/

namespace JavaIndex

variable {parser : Parser} {tree other : FileTree} {file : Path} {files earlier later : List Path}
  {failure : Failure Error}

/-! ### The same files in another tree -/

theorem Outline.ofFile_congr (same : tree.readFile file = other.readFile file) :
    ofFile parser tree file = ofFile parser other file := by
  have source : sourceOf tree file = sourceOf other file := by
    rw [sourceOf, sourceOf, same]
  rw [ofFile, ofFile, source]

theorem outlinesOf_congr (same : ∀ path ∈ files, tree.readFile path = other.readFile path) :
    outlinesOf parser tree files = outlinesOf parser other files := by
  refine List.filterMap_congr fun path member => ?_
  rw [Outline.ofFile_congr (same path member)]

theorem failuresOf_congr (same : ∀ path ∈ files, tree.readFile path = other.readFile path) :
    failuresOf parser tree files = failuresOf parser other files := by
  refine List.filterMap_congr fun path member => ?_
  rw [Outline.ofFile_congr (same path member)]

/-! ### A file that fails -/

theorem outlinesOf_of_failing (fails : Outline.ofFile parser tree file = .error failure) :
    outlinesOf parser tree (earlier ++ file :: later) =
      outlinesOf parser tree (earlier ++ later) := by
  have nothing : (Outline.ofFile parser tree file).toOption = none := by rw [fails]; rfl
  rw [outlinesOf, outlinesOf, List.filterMap_append, List.filterMap_append, List.filterMap_cons,
    nothing]

theorem failuresOf_append (parser : Parser) (tree : FileTree) (earlier later : List Path) :
    failuresOf parser tree (earlier ++ later) =
      failuresOf parser tree earlier ++ failuresOf parser tree later :=
  List.filterMap_append

theorem failuresOf_of_failing (fails : Outline.ofFile parser tree file = .error failure) :
    failuresOf parser tree (earlier ++ file :: later) =
      failuresOf parser tree earlier ++
        FileError.ofFailure file failure :: failuresOf parser tree later := by
  have reported : FileError.ofResult? file (Outline.ofFile parser tree file) =
      some (FileError.ofFailure file failure) := by rw [fails]; rfl
  rw [failuresOf_append]
  exact congrArg (_ ++ ·) (List.filterMap_cons_some reported)

@[simp] theorem FileError.path_ofFailure (file : Path) (failure : Failure Error) :
    (ofFailure file failure).path = file := by
  cases failure <;> rfl

namespace Index

variable {index : Index} {root : Path} {entries : List Entry} {others : List Path}

/-- What the first phase enters depends on the outlines that can be built, and on nothing
else. -/
theorem enterFiles_congr (same : outlinesOf index.config.parser tree files =
    outlinesOf index.config.parser other others) :
    (index.enterFiles tree files).2 = (index.enterFiles other others).2 := by
  rw [enterFiles_snd, enterFiles_snd, same]

/-- A file whose outline cannot be built leaves no trace in a build but the report of its
failure. Without the file the same build gives the same index, with the same record of what
happened, and the same statistics less the report, which stands among those of the first
phase in the order of the files. -/
theorem build_delete (index : Index) (folder : tree.folderAt? root = some entries)
    (found : file ∈ (discover index.config.exclusions root entries).files)
    (fails : Outline.ofFile index.config.parser tree file = .error failure) :
    ∃ (stats : Stats) (built : Index) (before after panics : List FileError)
      (entries' : List Entry),
      (tree.delete file).folderAt? root = some entries' ∧
      index.build (tree.delete file) root =
        (.ok { stats with errors := before ++ after ++ panics }, built) ∧
      index.build tree root =
        (.ok { stats with errors :=
          before ++ FileError.ofFailure file failure :: after ++ panics }, built) ∧
      (index.reset.enterFiles (tree.delete file)
        (discover index.config.exclusions root entries').files).1 = before ++ after ∧
      (index.reset.enterFiles tree (discover index.config.exclusions root entries).files).1 =
        before ++ FileError.ofFailure file failure :: after ∧
      (FileError.ofFailure file failure).path = file := by
  obtain ⟨earlier, later, entries', folder', split, found', reads⟩ :=
    discover_delete folder found
  have outlines : outlinesOf index.config.parser (tree.delete file) (earlier ++ later) =
      outlinesOf index.config.parser tree (earlier ++ file :: later) := by
    rw [outlinesOf_of_failing fails, outlinesOf_congr reads]
  have failures : failuresOf index.config.parser (tree.delete file) (earlier ++ later) =
      failuresOf index.config.parser tree earlier ++ failuresOf index.config.parser tree later := by
    rw [failuresOf_congr reads, failuresOf_append]
  have entered : (index.reset.enterFiles (tree.delete file) (earlier ++ later)).2 =
      (index.reset.enterFiles tree (earlier ++ file :: later)).2 := enterFiles_congr outlines
  let phase := (index.reset.enterFiles tree (earlier ++ file :: later)).2
  refine ⟨index.buildStats tree (discover index.config.exclusions root entries),
    index.afterPhases tree (discover index.config.exclusions root entries).files,
    failuresOf index.config.parser tree earlier, failuresOf index.config.parser tree later,
    (phase.settleAll phase.tables.sortedRecords).1.2, entries', folder', ?_, ?_, ?_, ?_,
    FileError.path_ofFailure file failure⟩
  · rw [build_of_folder index folder', found', split]
    simp only [buildStats, afterPhases, split, outlines, failures, entered, phase]
  · rw [build_of_folder index folder]
    simp only [buildStats, split, failuresOf_of_failing fails, phase]
  · rw [found', enterFiles_fst]
    exact failures
  · rw [split, enterFiles_fst]
    exact failuresOf_of_failing fails

/-- The parser panics on a file between two others. -/
theorem build_delete_panicking :
    let sources : List Entry :=
      [.folder "b" [.file "C.java" "package b; class C \x7b\x7d".toUTF8,
          .file "Broken.java" "PANIC".toUTF8],
        .folder "a" [.file "A.java" "package a; import b.*; class A \x7b C c; \x7d".toUTF8]]
    let tree : FileTree := ⟨⟨"/"⟩, [.folder "src" sources], by decide⟩
    let parser : Parser := fun source =>
      if source = "PANIC" then .error (.panic (.text "parser crashed")) else Java.parser source
    let config : Config := { parser, postProcessor := some fun _ _ => none }
    let index : Index := ⟨config, 1, Tables.empty, #[], []⟩
    let file : Path := ⟨"src/b/Broken.java"⟩
    let report := FileError.ofFailure file (.panic (.text "parser crashed"))
    ∃ (stats : Stats) (built : Index) (before after panics : List FileError)
      (entries' : List Entry),
      (tree.delete file).folderAt? ⟨"src"⟩ = some entries' ∧
      index.build (tree.delete file) ⟨"src"⟩ =
        (.ok { stats with errors := before ++ after ++ panics }, built) ∧
      index.build tree ⟨"src"⟩ =
        (.ok { stats with errors := before ++ report :: after ++ panics }, built) ∧
      (index.reset.enterFiles (tree.delete file) (discover [] ⟨"src"⟩ entries').files).1 =
        before ++ after ∧
      (index.reset.enterFiles tree (discover [] ⟨"src"⟩ sources).files).1 =
        before ++ report :: after ∧
      report.path = file := by
  intro sources tree parser config index file report
  have fileSteps : tree.stepsTo file = ([[], "src", "b", "Broken.java"] : List Spelling) := by
    decide
  have folder : tree.folderAt? ⟨"src"⟩ = some sources := FileTree.folderAt?_only tree.named
  have found : file ∈ (discover config.exclusions ⟨"src"⟩ sources).files := by
    rw [(perm_discover_files config.exclusions ⟨"src"⟩ sources).mem_iff]
    decide
  have bytes : tree.readFile file = .ok "PANIC".toUTF8 := by
    rw [FileTree.readFile, FileTree.lookup, fileSteps]
    rfl
  have text : String.fromUTF8? "PANIC".toUTF8 = some "PANIC" := by decide
  have fails : Outline.ofFile parser tree file = .error (.panic (.text "parser crashed")) := by
    rw [Outline.ofFile, Outline.sourceOf, bytes]
    simp only [text]
    rfl
  exact build_delete index folder found fails

end Index

end JavaIndex
