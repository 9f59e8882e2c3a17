import JavaIndex.Config
import JavaIndex.FileTree
import JavaIndex.Yaml.Document

/-!
# Settings

What a workspace may set in its settings file: patterns of paths to leave out and
the number of workers. Options given by the caller come on top, the patterns
behind those of the file and the number instead of it.

## Main definitions

* `Settings`, `Settings.ofText` — the settings, and how they are read
* `Settings.load` — the settings of a workspace
* `Settings.merge` — the settings with the caller's options on top
* `Settings.toConfig` — the configuration that settings ask for
-/

namespace JavaIndex

/-- What a workspace sets. -/
structure Settings where
  exclude : List String := []
  threads : Option Nat := none
  deriving DecidableEq, Repr

namespace Settings

/-- The name of the settings file in the folder of a workspace. -/
def fileName : String := ".proteus.yaml"

/-! ### Numbers -/

/-- The value of a digit in a base up to sixteen. -/
def digit? (base : Nat) (c : Char) : Option Nat :=
  (Yaml.digitValue? c).bind fun value => if value < base then some value else none

/-- The number that digits stand for, up to the largest of 64 bits. -/
def number? (base : Nat) (digits : List Char) : Option Nat :=
  match digits.mapM (digit? base) with
  | some (first :: rest) =>
    let value := (first :: rest).foldl (fun value digit => value * base + digit) 0
    if value < UInt64.size then some value else none
  | _ => none

/-- A count without its plus sign: in base ten without leading zeros, or in another
base with its mark in front. -/
def unsigned? : List Char → Option Nat
  | '0' :: 'x' :: digits => number? 16 digits
  | '0' :: 'o' :: digits => number? 8 digits
  | '0' :: 'b' :: digits => number? 2 digits
  | '0' :: _ :: _ => none
  | digits => number? 10 digits

/-- The count a text stands for. -/
def count? (text : String) : Option Nat :=
  match text.toList with
  | '+' :: rest => unsigned? rest
  | chars => unsigned? chars

/-! ### Reading -/

/-- The patterns that a value stands for. -/
def excludeOf : Yaml.Value → Except Error (List String)
  | .missing => .ok []
  | .list items => .ok items
  | .scalar _ => .error (.settings "exclude: expected a list")

/-- The texts that say that a value is not set. -/
def nullTexts : List String := ["~", "null", "Null", "NULL"]

/-- The number of workers that a value stands for, where it sets one. -/
def threadsOf : Yaml.Value → Except Error (Option Nat)
  | .missing => .ok none
  | .list _ => .error (.settings "threads: expected a number")
  | .scalar scalar =>
    if scalar.plain && nullTexts.contains scalar.text then .ok none
    else
      match if scalar.plain then count? scalar.text else none with
      | some count => .ok (some count)
      | none => .error (.settings "threads: expected a number")

/-- The settings with one entry of a settings file added. -/
def addEntry (settings : Settings) : String × Yaml.Value → Except Error Settings
  | ("exclude", value) => (excludeOf value).map fun exclude => { settings with exclude }
  | ("threads", value) => (threadsOf value).map fun threads => { settings with threads }
  | (key, _) => .error (.settings ("unknown field: " ++ key))

/-- The settings that a text stands for; blank text sets nothing. -/
def ofText (text : String) : Except Error Settings :=
  if text.toList.all Text.isBlank then .ok {}
  else
    match Yaml.read text with
    | .error reason => .error (.settings reason)
    | .ok entries =>
      if (entries.map Prod.fst).Nodup then entries.foldlM addEntry {}
      else .error (.settings "duplicate field")

/-- The settings of a workspace; without a settings file nothing is set. -/
def load (tree : FileTree) (root : Path) : Except Error Settings :=
  let path := root.join fileName
  if !tree.isFile path then .ok {}
  else
    match tree.readFile path with
    | .error failure => .error (.io failure)
    | .ok bytes =>
      match String.fromUTF8? bytes with
      | none => .error (.io .notText)
      | some text =>
        match ofText text with
        | .ok settings => .ok settings
        | .error error => .error (.config (path.text ++ ": " ++ error.message))

/-! ### Using -/

/-- The settings with more patterns behind and, if given, another number of workers. -/
def merge (settings : Settings) (exclude : List String) (threads : Option Nat) : Settings :=
  ⟨settings.exclude ++ exclude, threads.or settings.threads⟩

/-- The configuration that settings ask for. -/
def toConfig (settings : Settings) : Except Error Config :=
  ({ threads := settings.threads } : Config).withExclusions settings.exclude

end Settings

end JavaIndex
