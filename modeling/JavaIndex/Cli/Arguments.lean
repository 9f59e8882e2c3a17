import JavaIndex.Settings

/-!
# The command line

What the words of a command line ask for. Options that say how to build the index
may stand before or after the command; those behind it win. An option's value is
attached to it or is the next word, which then must not look like an option.

## Main definitions

* `Command`, `Options`, `Request` — what to do, how to build the index, and both
* `Stop` — why nothing is done: a question about the program, or words that mean nothing
* `readArguments` — the request that words stand for
-/

namespace JavaIndex.Cli

/-- What to do. -/
inductive Command where
  /-- Build the index and report on it. -/
  | index
  /-- Show what the file of a type declares and uses. -/
  | inspect (name : String) (asJson : Bool)
  /-- List the packages. -/
  | packages
  deriving DecidableEq, Repr

/-- How to build the index. -/
structure Options where
  /-- The folder to be indexed, if not the working folder. -/
  workspace : Option Path := none
  exclude : List String := []
  threads : Option Nat := none
  deriving DecidableEq, Repr

/-- What a command line asks for. -/
structure Request where
  options : Options
  command : Command
  deriving DecidableEq, Repr

/-- Why nothing is to be done. -/
inductive Stop where
  /-- The version of the program or of one of its commands is asked for. -/
  | version (name : String)
  /-- How the program is used is asked for. -/
  | help
  /-- The words make no sense. -/
  | misuse
  deriving DecidableEq, Repr

/-! ### Words -/

/-- The commands by name. -/
inductive Verb where
  | index
  | inspect
  | packages
  deriving DecidableEq, Repr

/-- The name of a command. -/
def Verb.name : Verb → String
  | index => "index"
  | inspect => "show"
  | packages => "packages"

/-- The command of a name. -/
def Verb.ofName? (name : String) : Option Verb :=
  [index, inspect, packages].find? fun verb => verb.name == name

/-- Options with a value. -/
inductive Slot where
  | workspace
  | threads
  | exclude
  deriving DecidableEq, Repr

/-- What a part of a word asks for. -/
inductive Act where
  | verbose
  | json
  | help
  | version
  /-- An option with its value. -/
  | set (slot : Slot) (value : String)
  /-- An option whose value is the next word. -/
  | await (slot : Slot)
  /-- Nothing that is known. -/
  | unknown
  deriving DecidableEq, Repr

/-- The option of a long name. -/
def Slot.ofName? : String → Option Slot
  | "workspace" => some .workspace
  | "threads" => some .threads
  | "exclude" => some .exclude
  | _ => none

/-- The option of a letter. -/
def Slot.ofLetter? : Char → Option Slot
  | 'w' => some .workspace
  | 'j' => some .threads
  | 'e' => some .exclude
  | _ => none

/-- What a long option asks for behind a command, if there is one. -/
def readLong (verb : Option Verb) (text : String) : Act :=
  let (name, value) := match Text.cutFirst '=' text with
    | some (name, value) => (name, some value)
    | none => (text, none)
  match Slot.ofName? name, value with
  | some slot, some value => .set slot value
  | some slot, none => .await slot
  | none, some _ => .unknown
  | none, none =>
    match name with
    | "verbose" => .verbose
    | "help" => .help
    | "version" => .version
    | "json" => if verb = some .inspect then .json else .unknown
    | _ => .unknown

/-- What the letters of a word ask for, one after another; a letter that takes a value
takes the rest of the word, past an equals sign. -/
def readLetters : List Char → List Act
  | [] => []
  | c :: rest =>
    match Slot.ofLetter? c with
    | some slot =>
      match rest with
      | [] => [.await slot]
      | '=' :: value => [.set slot (String.ofList value)]
      | value => [.set slot (String.ofList value)]
    | none =>
      match c with
      | 'v' => .verbose :: readLetters rest
      | 'h' => .help :: readLetters rest
      | 'V' => .version :: readLetters rest
      | _ => [.unknown]

/-- What a word asks for; none where it is no option. -/
def actsOf? (verb : Option Verb) (word : String) : Option (List Act) :=
  match word.toList with
  | '-' :: '-' :: rest => some [readLong verb (String.ofList rest)]
  | '-' :: c :: rest => some (readLetters (c :: rest))
  | _ => none

/-! ### What has been given -/

/-- What the words so far have set. -/
structure Given where
  workspace : Option String := none
  threads : Option Nat := none
  exclude : List String := []
  json : Bool := false
  subject : Option String := none
  deriving DecidableEq, Repr

/-- A count as it is written on the command line. -/
def count? (text : String) : Option Nat :=
  match text.toList with
  | '+' :: digits => Settings.number? 10 digits
  | digits => Settings.number? 10 digits

namespace Given

/-- The value of an option; only exclusions may be given more than once. -/
def set (given : Given) (slot : Slot) (value : String) : Except Stop Given :=
  match slot with
  | .workspace =>
    if given.workspace.isSome || value = "" then .error .misuse
    else .ok { given with workspace := some value }
  | .threads =>
    match given.threads, count? value with
    | none, some count => .ok { given with threads := some count }
    | _, _ => .error .misuse
  | .exclude => .ok { given with exclude := given.exclude ++ [value] }

/-- What a word that is no option stands for: the subject of a command that has one. -/
def setSubject (given : Given) (verb : Option Verb) (word : String) : Except Stop Given :=
  if verb = some .inspect && given.subject.isNone then .ok { given with subject := some word }
  else .error .misuse

/-- What was given behind the command, completed by what was given before it. -/
def orElse (inner outer : Given) : Given :=
  { inner with
    workspace := inner.workspace.or outer.workspace
    threads := inner.threads.or outer.threads
    exclude := if inner.exclude.isEmpty then outer.exclude else inner.exclude }

end Given

/-- The name under which the program answers. -/
def programName : String := "proteus"

/-- The version of the program. -/
def programVersion : String := "0.1.0"

/-- The name under which the program or one of its commands tells its version. -/
def nameWithin : Option Verb → String
  | none => programName
  | some verb => programName ++ "-" ++ verb.name

/-- What is given after the parts of a word are done, and the option that still waits for a value. -/
def perform (verb : Option Verb) (given : Given) : List Act → Except Stop (Given × Option Slot)
  | [] => .ok (given, none)
  | act :: rest =>
    match act with
    | .verbose => perform verb given rest
    | .json =>
      if given.json then .error .misuse else perform verb { given with json := true } rest
    | .help => .error .help
    | .version => .error (.version (nameWithin verb))
    | .set slot value => do perform verb (← given.set slot value) rest
    | .await slot => .ok (given, some slot)
    | .unknown => .error .misuse

/-- Whether a word looks like an option, so that it is no value. -/
def looksLikeOption (word : String) : Bool :=
  match word.toList with
  | '-' :: _ :: _ => true
  | _ => false

/-- Reads words behind a command, if there is one: the command in the end, and what was given. -/
def readWords (verb : Option Verb) (given : Given) :
    List String → Except Stop (Option Verb × Given)
  | [] => .ok (verb, given)
  | word :: rest =>
    if verb = none && word = "help" then .error .help
    else
      match if verb = none then Verb.ofName? word else none with
      | some command =>
        (readWords (some command) {} rest).map fun (command, inner) => (command, inner.orElse given)
      | none =>
        if word = "--" then
          (rest.foldlM (fun (current : Given) word => current.setSubject verb word) given).map
            fun given => (verb, given)
        else
          match actsOf? verb word with
          | none => do readWords verb (← given.setSubject verb word) rest
          | some acts => do
            let (given, awaiting) ← perform verb given acts
            match awaiting, rest with
            | none, rest => readWords verb given rest
            | some _, [] => .error .misuse
            | some slot, value :: rest =>
              if looksLikeOption value then .error .misuse
              else readWords verb (← given.set slot value) rest

/-- The request that words stand for. -/
def readArguments (words : List String) : Except Stop Request := do
  let (verb, given) ← readWords none {} words
  let options : Options :=
    ⟨given.workspace.map fun text => ⟨text⟩, given.exclude, given.threads⟩
  match verb, given.subject with
  | some .index, _ => return ⟨options, .index⟩
  | some .packages, _ => return ⟨options, .packages⟩
  | some .inspect, some name => return ⟨options, .inspect name given.json⟩
  | _, _ => throw .misuse

end JavaIndex.Cli
