import JavaIndex.Path

/-!
# Errors

Two kinds of failure. An `Error` stops the operation that raised it: a bad
argument, an unusable configuration, a file that cannot be read or parsed. A
`FileError` is what remains of such a failure when it concerns one file of a
larger build: the build goes on and reports it at the end.

## Main definitions

* `IoFailure`, `ParseError`, `Error` — the causes, each with its `message`
* `Error.cause?` — the message of the failure behind an error
* `Payload`, `Failure` — what a task that panicked left behind, and both ways to fail
* `FileError` — a failure that concerns one file, classified by `FileErrorKind`
-/

namespace JavaIndex

/-- Why a file could not be read. -/
inductive IoFailure where
  | notFound
  | notDirectory
  | isDirectory
  /-- The bytes are no text. -/
  | notText
  /-- Any other failure, by its message. -/
  | other (text : String)
  deriving DecidableEq, Repr

/-- The operating system's words for a failure. -/
def IoFailure.message : IoFailure → String
  | .notFound => "No such file or directory (os error 2)"
  | .notDirectory => "Not a directory (os error 20)"
  | .isDirectory => "Is a directory (os error 21)"
  | .notText => "stream did not contain valid UTF-8"
  | .other text => text

/-- Why a parser gave no tree. -/
inductive ParseError where
  /-- The grammar itself could not be loaded. -/
  | grammar (reason : String)
  /-- The parser gave up without a tree. -/
  | noTree
  /-- The source is not in the language: where, counted from one, and what stands there. -/
  | malformed (line column : Nat) (kind : String)
  deriving DecidableEq, Repr

/-- The parser's words for a failure. -/
def ParseError.message : ParseError → String
  | .grammar reason => "failed to load grammar: " ++ reason
  | .noTree => "parser produced no syntax tree"
  | .malformed line column kind =>
    "syntax error at " ++ toString line ++ ":" ++ toString column ++ " (" ++ kind ++ ")"

/-- A failure that stops an operation. -/
inductive Error where
  | io (failure : IoFailure)
  | invalidArgument (text : String)
  | config (text : String)
  /-- An exclusion pattern is not a regular expression. -/
  | pattern (reason : String)
  /-- A settings file cannot be understood. -/
  | settings (reason : String)
  | parse (failure : ParseError)
  /-- The compilation unit declares no type. -/
  | noDeclaredTypes (path : Path)
  /-- The file is not text. -/
  | encoding (path : Path)
  /-- Structured output cannot be written. -/
  | serialize (reason : String)
  deriving DecidableEq, Repr

namespace Error

/-- The text of an error. -/
def message : Error → String
  | io failure => "I/O error: " ++ failure.message
  | invalidArgument text => "invalid argument: " ++ text
  | config text => "configuration error: " ++ text
  | pattern reason => "invalid exclusion pattern: " ++ reason
  | settings reason => "invalid settings file: " ++ reason
  | parse failure => "parse error: " ++ failure.message
  | noDeclaredTypes path => "compilation unit declares no types: " ++ path.text
  | encoding path => "file is not valid UTF-8: " ++ path.text
  | serialize reason => "failed to encode JSON output: " ++ reason

/-- The text of the failure behind an error, for those that wrap one. -/
def cause? : Error → Option String
  | io failure => some failure.message
  | pattern reason => some reason
  | settings reason => some reason
  | parse failure => some failure.message
  | serialize reason => some reason
  | _ => none

end Error

/-- What a panicking task left behind. -/
inductive Payload where
  | text (message : String)
  /-- A value that is no text. -/
  | opaqueValue
  deriving DecidableEq, Repr

/-- The text of a panic. -/
def Payload.message : Payload → String
  | .text message => message
  | .opaqueValue => "unknown panic payload"

/-- The two ways in which a task fails: with an error, or by a panic. -/
inductive Failure (ε : Type) where
  | error (error : ε)
  | panic (payload : Payload)
  deriving DecidableEq, Repr

/-- The same failure with its error seen as another one. -/
def Failure.map {ε ε' : Type} (f : ε → ε') : Failure ε → Failure ε'
  | error e => .error (f e)
  | panic payload => .panic payload

/-- The kinds of failure that concern one file. -/
inductive FileErrorKind where
  | parseFailed
  | noDeclaredTypes
  | encodingError
  | ioError
  | taskPanicked
  deriving DecidableEq, Repr

namespace FileErrorKind

/-- The kind in words. -/
def label : FileErrorKind → String
  | parseFailed => "parse failed"
  | noDeclaredTypes => "no declared types"
  | encodingError => "encoding error"
  | ioError => "I/O error"
  | taskPanicked => "task panicked"

/-- Whether the file itself is at fault. -/
def isInputError : FileErrorKind → Bool
  | parseFailed | noDeclaredTypes | encodingError => true
  | ioError | taskPanicked => false

/-- Whether the machinery is at fault. -/
def isInternalError (kind : FileErrorKind) : Bool :=
  !kind.isInputError

/-- The kind of an error raised while one file was read. -/
def ofError : Error → FileErrorKind
  | .parse _ => parseFailed
  | .noDeclaredTypes _ => noDeclaredTypes
  | .encoding _ => encodingError
  | _ => ioError

end FileErrorKind

/-- A failure that concerns one file of a build. -/
structure FileError where
  path : Path
  kind : FileErrorKind
  message : String
  deriving DecidableEq, Repr

namespace FileError

/-- An error raised while a file was read. -/
def ofError (path : Path) (error : Error) : FileError :=
  ⟨path, FileErrorKind.ofError error, error.message⟩

/-- A panic raised while a file was worked on. -/
def ofPanic (path : Path) (payload : Payload) : FileError :=
  ⟨path, .taskPanicked, payload.message⟩

/-- A failure of either kind while a file was worked on. -/
def ofFailure (path : Path) : Failure Error → FileError
  | .error error => ofError path error
  | .panic payload => ofPanic path payload

/-- The failure in one line. -/
def describe (error : FileError) : String :=
  error.path.text ++ ": " ++ error.message ++ " (" ++ error.kind.label ++ ")"

end FileError

end JavaIndex
