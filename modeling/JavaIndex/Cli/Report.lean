import JavaIndex.Cli.Arguments
import JavaIndex.Cli.Json
import JavaIndex.Cli.Style
import JavaIndex.Index.Queries

/-!
# What the commands print

The answers of the program, line by line: the counts of a build, the packages,
what the file of a type declares and uses, and errors with their causes.

## Main definitions

* `Output` — the exit code and the lines of both channels
* `buildIndex` — the index that the options ask for, with its statistics
* `respond` — the output of a command once the index is built
* `stopOutput` — the output where nothing is to be done
-/

namespace JavaIndex.Cli

/-- What the program leaves behind. -/
structure Output where
  /-- Zero for success. -/
  exitCode : Nat
  out : List Line
  err : List Line
  deriving DecidableEq, Repr

/-- The mark in front of the items of a list. -/
def bullet : String := "•"

/-- At most so many items of a list are shown. -/
def maxItems : Nat := 25

/-- At most so many errors of a build are shown. -/
def maxErrors : Nat := 5

/-- The items of a list behind bullets; what is too many is counted. -/
def itemLines (items : List Line) : List Line :=
  if items.isEmpty then [[plain "    ", dimmed "none"]]
  else
    (items.take maxItems).map (fun item => [plain "    ", dimmed bullet, plain " "] ++ item) ++
      if maxItems < items.length then
        [[plain "    ", dimmed bullet,
          plain (" ... and " ++ toString (items.length - maxItems) ++ " more")]]
      else []

/-- The name of a package; the default package has none of its own. -/
def packageLabel (name : String) : Piece :=
  if name = "" then { text := "<default>", style := { italic := true } } else plain name

/-- The style in which a tag is shown. -/
def tagStyle : TypeTag → Style
  | .primitive => { dimmed := true }
  | .boxedPrimitive => { dimmed := true }
  | .stdlibGuess => { colour := some .blue }
  | .projectReference => { colour := some .green }
  | .unknown => { colour := some .yellow }

/-- A tag in brackets. -/
def tagLabel (tag : TypeTag) : Piece :=
  { text := "[" ++ tag.label ++ "]", style := tagStyle tag }

/-- So many hundredths with two places behind the point. -/
def hundredths (count : Nat) : String :=
  let fraction := count % 100
  toString (count / 100) ++ "." ++ (if fraction < 10 then "0" else "") ++ toString fraction

/-- So many nanoseconds in words; a half is rounded up. -/
def elapsedText (nanoseconds : Nat) : String :=
  let (unit, name) :=
    if 1000000000 ≤ nanoseconds then (1000000000, "s")
    else if 1000000 ≤ nanoseconds then (1000000, "ms")
    else if 1000 ≤ nanoseconds then (1000, "µs")
    else (1, "ns")
  hundredths ((nanoseconds * 100 + unit / 2) / unit) ++ name

/-! ### Building -/

/-- The index that the options ask for, with its statistics. -/
def buildIndex (tree : FileTree) (cores : Nat) (workspace : Path) (options : Options) :
    Except Error (Stats × Index) := do
  let settings ← Settings.load tree workspace
  let config ← (settings.merge options.exclude options.threads).toConfig
  let index ← Index.create config cores
  let (outcome, index) := index.build tree workspace
  return (← outcome, index)

/-! ### Commands -/

/-- The first errors of a build. -/
def errorLines (errors : List FileError) : List Line :=
  if errors.isEmpty then []
  else
    [[], [strong .red "Errors", plain (" (" ++ toString errors.length ++ "):")]] ++
      (errors.take maxErrors).map (fun error =>
        [plain "  ", coloured .red bullet,
          plain (" " ++ error.path.text ++ ": " ++ error.message)]) ++
      if maxErrors < errors.length then
        [[plain ("  ... and " ++ toString (errors.length - maxErrors) ++ " more")]]
      else []

/-- The counts of a build that took the given time. -/
def statsLines (stats : Stats) (index : Index) (elapsed : String) : List Line :=
  [[],
    [strong .green "Indexed",
      plain (" " ++ toString stats.filesIndexed ++ " files, registered " ++
        toString stats.typesRegistered ++ " types, resolved " ++
        toString stats.referencesResolved ++ " references")],
    [dimmed "Packages",
      plain (": " ++ toString index.packageNames.length ++ " (" ++ toString index.workers ++
        " workers)")],
    [dimmed "Duration", plain (": " ++ elapsed)]] ++
    (if 0 < stats.filesSkipped then
      [[coloured .yellow "Skipped",
        plain (": " ++ toString stats.filesSkipped ++ " files (marker files or excluded)")]]
    else []) ++
    errorLines stats.errors

/-- The line that announces a build. -/
def announcement (workspace : Path) : Line :=
  [strong .cyan "Indexing", plain (" " ++ workspace.text ++ "...")]

/-- A number of files in words. -/
def fileCountText (count : Nat) : String :=
  "(" ++ toString count ++ " " ++ (if count = 1 then "file" else "files") ++ ")"

/-- The packages with the number of files in each. -/
def packageLines (index : Index) : List Line :=
  let packages := index.packageCounts
  if packages.isEmpty then [[dimmed "No packages indexed"]]
  else
    [strong .cyan "Packages", plain (" (" ++ toString packages.length ++ "):")] ::
      packages.map fun (name, count) =>
        [plain "  ", dimmed bullet, plain " ", packageLabel name, plain " ",
          dimmed (fileCountText count)]

/-- The imports of a file in words: single types, then packages. -/
def importTexts (context : ImportContext) : List String :=
  context.imports.map (fun (simple, path) => simple ++ " → " ++ path) ++
    context.starPackages.map fun package => package ++ ".*"

/-- A heading below the name of a type. -/
def heading (text : String) : Line := [plain "  ", coloured .cyan text, plain ":"]

/-- What a file declares and uses. -/
def recordLines (record : Record) (used : TypeSet) : List Line :=
  [[strong .white record.primary.name, plain " ", dimmed ("(" ++ record.path.text ++ ")")],
    [plain "  ", coloured .cyan "Package", plain ": ", packageLabel record.packageName],
    heading "Inner types"] ++
    itemLines (record.inner.map fun type => [plain type.name]) ++
    [heading "Imports"] ++
    itemLines ((importTexts record.context).map fun text => [plain text]) ++
    [heading "Used types"] ++
    itemLines (used.map fun type => [plain (type.name ++ " "), tagLabel type.tag])

/-- A type as structured output. -/
def typeJson (type : QualifiedType) : Json :=
  .object [("name", .text type.name), ("tag", .text type.tag.label)]

/-- What a file declares and uses, as structured output, which has no place for a path
that is no text. -/
def recordJson (record : Record) (used : TypeSet) : Except Error Json :=
  match record.path.spelling.text? with
  | none => .error (.serialize "path contains invalid UTF-8 characters")
  | some file =>
    .ok (.object [
      ("file", .text file),
      ("qualified_type", typeJson record.primary),
      ("inner_types", .list (record.inner.map typeJson)),
      ("package", .text record.packageName),
      ("imports", .object (record.context.imports.map fun (simple, path) => (simple, .text path))),
      ("star_imports", .list (record.context.starPackages.map .text)),
      ("used_types", .list (used.map typeJson))])

/-- An error and its cause. -/
def failureLines (error : Error) : List Line :=
  [strong .red "error", plain (": " ++ error.message)] ::
    error.cause?.toList.map fun cause =>
      [plain "  ", dimmed "caused by", plain (": " ++ cause)]

/-- The lines of a command once the index is built, or why there are none. -/
def commandLines (command : Command) (elapsed : String) (stats : Stats) (index : Index) :
    Except Error (List Line) :=
  match command with
  | .index => .ok (statsLines stats index elapsed)
  | .packages => .ok (packageLines index)
  | .inspect name asJson =>
    match index.byType? ⟨name, .projectReference⟩ with
    | none => .error (.invalidArgument ("type not found in index: " ++ name))
    | some record =>
      let used := index.usedTypes record
      if asJson then
        (recordJson record used).map fun json =>
          (Text.splitAll '\n' json.pretty).map fun text => [plain text]
      else .ok (recordLines record used)

/-- The output of a command once the index is built, in the given time. -/
def respond (command : Command) (workspace : Path) (elapsed : String)
    (built : Except Error (Stats × Index)) : Output :=
  let opening := if command = .index then [announcement workspace] else []
  match built with
  | .error error => ⟨1, opening, failureLines error⟩
  | .ok (stats, index) =>
    match commandLines command elapsed stats index with
    | .error error => ⟨1, opening, failureLines error⟩
    | .ok lines => ⟨0, opening ++ lines, []⟩

/-! ### Doing nothing -/

/-- How the program is used. -/
def helpTexts : List String := [
  "Proteus: lightweight semantic index for Java source trees",
  "",
  "Usage: proteus [OPTIONS] <COMMAND>",
  "",
  "Commands:",
  "  index     Index every Java file under the workspace and report counts",
  "  show      Show what a type's file declares and uses",
  "  packages  List package names with their file counts",
  "  help      Print this message or the help of the given subcommand(s)",
  "",
  "Options:",
  "  -w, --workspace <WORKSPACE>  Source root to index (defaults to current directory)",
  "  -v, --verbose...             Verbose output (can be repeated: -v, -vv, -vvv)",
  "  -j, --threads <THREADS>      Worker threads for both build phases (defaults to one per core)",
  "  -e, --exclude <EXCLUDE>      Regex of paths to leave out (can be repeated)",
  "  -h, --help                   Print help",
  "  -V, --version                Print version"]

/-- The output where nothing is to be done. -/
def stopOutput : Stop → Output
  | .version name => ⟨0, [[plain (name ++ " " ++ programVersion)]], []⟩
  | .help => ⟨0, helpTexts.map fun text => [plain text], []⟩
  | .misuse =>
    ⟨2, [], [[strong .red "error", plain ": invalid arguments"], [],
      [plain "Usage: proteus [OPTIONS] <COMMAND>"]]⟩

/-- The output for a command line on a machine with so many cores, where building the
index takes the given time. -/
def run (tree : FileTree) (cores : Nat) (elapsed : String) (words : List String) : Output :=
  match readArguments words with
  | .error stop => stopOutput stop
  | .ok request =>
    let workspace := request.options.workspace.getD tree.location
    respond request.command workspace elapsed
      (buildIndex tree cores workspace request.options)

end JavaIndex.Cli
