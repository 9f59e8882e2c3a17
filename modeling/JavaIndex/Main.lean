import JavaIndex.Cli.Report

/-!
# The program

The outer layer: reads the workspace from disk, calls the library and prints what
it answers.
-/

namespace JavaIndex.Cli

/-- Whether the bytes of a file matter: those of sources and of the settings file. -/
def isRead (name : String) : Bool :=
  name == Settings.fileName || (Path.mk name).isSourceFile

/-- The entries of a folder on disk; those that cannot be read are left out. -/
partial def readFolder (folder : String) : IO (List Entry) := do
  let mut entries := []
  let listing ← try (((← IO.currentDir) / folder).readDir) catch _ => pure #[]
  for item in listing do
    try
      if ← item.path.isDir then
        entries := .folder item.fileName (← readFolder item.path.toString) :: entries
      else
        let bytes ← if isRead item.fileName then IO.FS.readBinFile item.path else pure .empty
        entries := .file item.fileName bytes :: entries
    catch _ => pure ()
  return entries

/-- The working folder and, if it is there, the workspace as they are on disk. -/
def readTree (workspace : Option Path) : IO FileTree := do
  let here ← IO.currentDir
  let tree := FileTree.empty ⟨here.toString⟩
  let target := match workspace with
    | some path => here / path.text
    | none => here
  try
    if ← target.isDir then
      let place ← IO.FS.realPath target
      return tree.mount ⟨place.toString⟩ (← readFolder place.toString)
    return tree
  catch _ => return tree

/-- The number of cores, or one where it cannot be found out. -/
def countCores : IO Nat :=
  try
    let lines := (← IO.FS.readFile "/proc/cpuinfo").splitOn "\n"
    return max 1 (lines.filter fun line => (Text.dropLead "processor" line).isSome).length
  catch _ => return 1

/-- Whether output is coloured: as the environment asks, else on a terminal. -/
def wantsColour : IO Bool := do
  let forced := (← IO.getEnv "CLICOLOR_FORCE").any (· ≠ "0")
  let refused := (← IO.getEnv "NO_COLOR").isSome || (← IO.getEnv "CLICOLOR") == some "0"
  return forced || (!refused && (← (← IO.getStdout).isTty))

/-- The output for a command line. -/
def outputFor (words : List String) : IO Output := do
  match readArguments words with
  | .error stop => return stopOutput stop
  | .ok request =>
    let tree ← readTree request.options.workspace
    let workspace := request.options.workspace.getD tree.location
    let start ← IO.monoNanosNow
    let built := buildIndex tree (← countCores) workspace request.options
    let finish ← match built with
      | .ok _ => IO.monoNanosNow
      | .error _ => pure start
    return respond request.command workspace (elapsedText (finish - start)) built

end JavaIndex.Cli

/-- Answers a command line. -/
def main (words : List String) : IO UInt32 := do
  let output ← JavaIndex.Cli.outputFor words
  let coloured ← JavaIndex.Cli.wantsColour
  for line in output.out do
    IO.println (JavaIndex.Cli.Line.render coloured line)
  for line in output.err do
    IO.eprintln (JavaIndex.Cli.Line.render coloured line)
  return output.exitCode.toUInt32
