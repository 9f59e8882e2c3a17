import JavaIndex.Java.Language
import JavaIndex.Outline
import JavaIndex.Pattern.Reader
import JavaIndex.SourceFile
import JavaIndex.Text.Quoted

/-!
# Configuration

What an index is built with: the exclusions, the number of workers, the parser
and the post-processor. A parser may fail or panic; so may a post-processor,
which is told about each file once its types are resolved.

## Main definitions

* `Parser`, `PostProcessor` — the functions that can be supplied
* `Config`, `Config.withExclusions` — a configuration, and one with more exclusions
* `Config.workers` — the number of workers that a configuration asks for
* `Config.describe` — the configuration in one line
-/

namespace JavaIndex

/-- A function from sources to trees. -/
abbrev Parser := String → Except (Failure ParseError) Java.Node

/-- The parser of the language itself. -/
def Java.parser : Parser := fun source =>
  match Java.parse source with
  | .ok tree => .ok tree
  | .error failure => .error (.error failure)

/-- A function told about each file and the types it uses; what it returns is the
panic it ends in, if it does. -/
abbrev PostProcessor := Outline → TypeSet → Option Payload

/-- What an index is built with. -/
structure Config where
  exclusions : List Exclusion := []
  /-- How many workers to start, where it matters. -/
  threads : Option Nat := none
  /-- The number of workers of a pool that is already there. -/
  pool : Option Nat := none
  parser : Parser := Java.parser
  postProcessor : Option PostProcessor := none

/-- An exclusion written as a pattern, which rejects paths with a match anywhere. -/
def Exclusion.ofPattern (text : String) : Except Error Exclusion :=
  match Pattern.read text with
  | .ok pattern => .ok ⟨text, pattern.isMatch⟩
  | .error reason => .error (.pattern reason)

namespace Config

/-- The configuration with exclusions added behind those it has. -/
def withExclusions (config : Config) (patterns : List String) : Except Error Config :=
  (patterns.mapM Exclusion.ofPattern).map fun added =>
    { config with exclusions := config.exclusions ++ added }

/-- The number of workers: that of the pool if there is one, else the number asked
for, else one for each core. -/
def workers (config : Config) (cores : Nat) : Except Error Nat :=
  match config.pool, config.threads with
  | some size, _ => .ok size
  | none, some 0 => .error (.invalidArgument "worker thread count must be at least 1")
  | none, some count => .ok count
  | none, none => .ok cores

/-- An optional number in words. -/
def describeNumber : Option Nat → String
  | some n => "Some(" ++ toString n ++ ")"
  | none => "None"

/-- A truth value in words. -/
def describeBool : Bool → String
  | true => "true"
  | false => "false"

/-- The configuration in one line; functions are only said to be there. -/
def describe (config : Config) : String :=
  "IndexConfig \x7b exclusions: " ++ Text.quotedList (config.exclusions.map Exclusion.text) ++
    ", threads: " ++ describeNumber config.threads ++
    ", custom_pool: " ++ describeBool config.pool.isSome ++
    ", post_processor: " ++ describeBool config.postProcessor.isSome ++ ", .. \x7d"

end Config

end JavaIndex
