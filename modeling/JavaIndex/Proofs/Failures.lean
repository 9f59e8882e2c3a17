import JavaIndex.Proofs.Registration

/-!
# Operations that fail

An operation on an index fails for reasons that do not depend on the files it holds: the
root of a build is no folder, a path is refused, or the outline of a file cannot be built.
All of them come up before anything is changed, so a failed operation can be struck out of
a run. Once the outline is there, nothing stops a registration any more, and whether the
post-processor panics makes no difference to what is registered.

## Main definitions

* `Outline.SourceFails`, `Outline.FileFails` — why an outline cannot be built
* `Index.Refuses`, `Index.Fails` — why a path is refused, and why an operation fails
* `Index.failure?` — the failure that an operation ends in
* `Index.succeeding` — the operations of a run that succeed
* `Index.Builds`, `Index.Enters` — a registration with an outline, and what it leaves behind

## Main results

* `Index.failure?_eq_some_iff` — an operation fails for the reasons listed and no other
* `Index.run_succeeding` — a run is the run of its operations that succeed
* `Index.Builds.enters` — a registration with an outline succeeds
* `Index.reachable_atomic` — operations on an index that comes about are atomic
-/

namespace JavaIndex

/-! ### Why an outline cannot be built -/

namespace Outline

variable {parser : Parser} {tree : FileTree} {path : Path} {source : String}
  {failure : Failure Error}

/-- Why a source gives no outline. -/
inductive SourceFails (parser : Parser) (path : Path) (source : String) : Failure Error → Prop
  /-- The parser rejects it, or panics. -/
  | unparsed {failure : Failure ParseError} (rejected : parser source = .error failure) :
    SourceFails parser path source (failure.map .parse)
  | untyped {root : Java.Node} (parsed : parser source = .ok root)
    (nothing : Java.declaredTypes? root path.stemText? = none) :
    SourceFails parser path source (.error (.noDeclaredTypes path))

/-- Why a file gives no outline. -/
inductive FileFails (parser : Parser) (tree : FileTree) (path : Path) : Failure Error → Prop
  | unreadable {failure : IoFailure} (failed : tree.readFile path = .error failure) :
    FileFails parser tree path (.error (.io failure))
  | notText {bytes : ByteArray} (read : tree.readFile path = .ok bytes)
    (undecodable : String.fromUTF8? bytes = none) :
    FileFails parser tree path (.error (.encoding path))
  | source {bytes : ByteArray} {text : String} {failure : Failure Error}
    (read : tree.readFile path = .ok bytes) (decoded : String.fromUTF8? bytes = some text)
    (fails : SourceFails parser path text failure) : FileFails parser tree path failure

theorem ofTree_eq_error {root : Java.Node} {error : Error} : ofTree path root = .error error ↔
    Java.declaredTypes? root path.stemText? = none ∧ error = .noDeclaredTypes path := by
  unfold ofTree
  cases Java.declaredTypes? root path.stemText? with
  | none => simp [eq_comm]
  | some declared => simp

theorem ofSource_eq_error :
    ofSource parser path source = .error failure ↔ SourceFails parser path source failure := by
  constructor
  · intro failed
    unfold ofSource at failed
    cases parsed : parser source with
    | error rejection =>
      rw [parsed] at failed
      obtain rfl : rejection.map .parse = failure := Except.error.inj failed
      exact .unparsed parsed
    | ok root =>
      cases made : ofTree path root with
      | ok outline => simp [parsed, made] at failed
      | error error =>
        obtain ⟨nothing, rfl⟩ := ofTree_eq_error.mp made
        obtain rfl : Failure.error (.noDeclaredTypes path) = failure := by
          simpa [parsed, made] using failed
        exact .untyped parsed nothing
  · intro fails
    cases fails with
    | unparsed rejected => rw [ofSource, rejected]
    | untyped parsed nothing => simp [ofSource, parsed, ofTree_eq_error.mpr ⟨nothing, rfl⟩]

theorem ofFile_eq_error :
    ofFile parser tree path = .error failure ↔ FileFails parser tree path failure := by
  constructor
  · intro failed
    cases read : tree.readFile path with
    | error reason =>
      obtain rfl : Failure.error (.io reason) = failure := by
        simpa [ofFile, sourceOf, read] using failed
      exact .unreadable read
    | ok bytes =>
      cases decoded : String.fromUTF8? bytes with
      | none =>
        obtain rfl : Failure.error (.encoding path) = failure := by
          simpa [ofFile, sourceOf, read, decoded] using failed
        exact .notText read decoded
      | some text =>
        refine .source read decoded (ofSource_eq_error.mp ?_)
        simpa [ofFile, sourceOf, read, decoded] using failed
  · intro fails
    cases fails with
    | unreadable failed => simp [ofFile, sourceOf, failed]
    | notText read undecodable => simp [ofFile, sourceOf, read, undecodable]
    | source read decoded fails =>
      simpa [ofFile, sourceOf, read, decoded] using ofSource_eq_error.mpr fails

end Outline

namespace Index

variable {index after : Index} {operation : Operation} {path : Path} {record : Record}
  {outline : Outline} {failure : Failure Error}

/-! ### Why an operation fails -/

/-- The error that says for which reason a path is left out. -/
def filteredOut (path : Path) (reason : String) : Error :=
  .invalidArgument (path.text ++ " is filtered out (" ++ reason ++ ")")

/-- Why a path is refused. -/
inductive Refuses (index : Index) (path : Path) : Error → Prop
  | otherExtension (isOther : path.isSourceFile = false) :
    Refuses index path (.invalidArgument ("not a Java source file: " ++ path.text))
  | marker (isSource : path.isSourceFile = true) (isMarker : path.isMarkerFile = true) :
    Refuses index path (filteredOut path "MarkerFile")
  /-- The exclusion is the first one that rejects the path. -/
  | excluded {earlier later : List Exclusion} {exclusion : Exclusion}
    (isSource : path.isSourceFile = true) (notMarker : path.isMarkerFile = false)
    (listed : index.config.exclusions = earlier ++ exclusion :: later)
    (rejects : exclusion.rejects path.text = true)
    (first : ∀ other ∈ earlier, other.rejects path.text = false) :
    Refuses index path (filteredOut path ("Excluded(" ++ Text.quoted exclusion.text ++ ")"))

theorem refusal?_eq_some_iff {error : Error} :
    index.refusal? path = some error ↔ index.Refuses path error := by
  constructor
  · intro refused
    unfold refusal? at refused
    cases isSource : path.isSourceFile with
    | false =>
      obtain rfl : Error.invalidArgument ("not a Java source file: " ++ path.text) = error := by
        simpa [isSource] using refused
      exact .otherExtension isSource
    | true =>
      cases isMarker : path.isMarkerFile with
      | true =>
        obtain rfl : filteredOut path "MarkerFile" = error := by
          simpa [isSource, skipReason?, isMarker, filteredOut] using refused
        exact .marker isSource isMarker
      | false =>
        cases found : index.config.exclusions.find? fun exclusion =>
            exclusion.rejects path.text with
        | none => simp [isSource, skipReason?, isMarker, found] at refused
        | some exclusion =>
          obtain ⟨rejects, earlier, later, listed, first⟩ := List.find?_eq_some_iff_append.mp found
          obtain rfl : filteredOut path ("Excluded(" ++ Text.quoted exclusion.text ++ ")") =
              error := by
            simpa [isSource, skipReason?, isMarker, found, filteredOut] using refused
          exact .excluded isSource isMarker listed rejects (by simpa using first)
  · intro refuses
    cases refuses with
    | otherExtension isOther => simp [refusal?, isOther]
    | marker isSource isMarker => simp [refusal?, isSource, skipReason?, isMarker, filteredOut]
    | @excluded earlier later exclusion isSource notMarker listed rejects first =>
      have found : index.config.exclusions.find? (fun exclusion =>
          exclusion.rejects path.text) = some exclusion :=
        List.find?_eq_some_iff_append.mpr
          ⟨rejects, earlier, later, listed, by simpa using first⟩
      simp [refusal?, isSource, skipReason?, notMarker, found, filteredOut]

/-- Why an operation fails. -/
inductive Fails (index : Index) : Operation → Failure Error → Prop
  | noFolder {tree : FileTree} {root : Path} (missing : tree.folderAt? root = none) :
    Fails index (.build tree root)
      (.error (.invalidArgument ("index root is not a directory: " ++ root.text)))
  | fileRefused {tree : FileTree} {path : Path} {error : Error}
    (refuses : index.Refuses path error) : Fails index (.registerFile tree path) (.error error)
  | sourceRefused {path : Path} {source : String} {error : Error}
    (refuses : index.Refuses path error) :
    Fails index (.registerSource path source) (.error error)
  | file {tree : FileTree} {path : Path} {failure : Failure Error}
    (accepted : ∀ error, ¬ index.Refuses path error)
    (fails : Outline.FileFails index.config.parser tree path failure) :
    Fails index (.registerFile tree path) failure
  | source {path : Path} {source : String} {failure : Failure Error}
    (accepted : ∀ error, ¬ index.Refuses path error)
    (fails : Outline.SourceFails index.config.parser path source failure) :
    Fails index (.registerSource path source) failure

/-- The failure that a result is, if it is one. -/
def failureOf? {α : Type} : Except (Failure Error) α → Option (Failure Error)
  | .error failure => some failure
  | .ok _ => none

/-- The failure that an operation ends in, if it does. -/
def failure? (index : Index) : Operation → Option (Failure Error)
  | .build tree root => failureOf? ((index.build tree root).1.mapError .error)
  | .registerFile tree path => failureOf? (index.registerFile tree path).1
  | .registerSource path source => failureOf? (index.registerSource path source).1
  | .addPackage _ | .removePackage _ => none

theorem accepted_iff : (∀ error, ¬ index.Refuses path error) ↔ index.refusal? path = none := by
  simp only [← refusal?_eq_some_iff, Option.eq_none_iff_forall_ne_some, ne_eq]

/-- A registration fails if the path is refused, or else if there is no outline. -/
theorem failureOf?_register {build : Except (Failure Error) Outline} :
    failureOf? (index.register path build).1 = some failure ↔
      (∃ error, index.Refuses path error ∧ failure = .error error) ∨
        (∀ error, ¬ index.Refuses path error) ∧ build = .error failure := by
  rw [accepted_iff]
  simp only [← refusal?_eq_some_iff]
  rcases register_outcome index path build with
    ⟨error, refused, result⟩ | ⟨accepted, ⟨reason, rfl, result⟩ | ⟨outline, rfl, result⟩⟩
  · simp [result, refused, failureOf?, eq_comm]
  · simp [result, accepted, failureOf?]
  · simp [result, accepted, failureOf?]

/-- An operation fails for the reasons listed, and for no other. -/
theorem failure?_eq_some_iff :
    index.failure? operation = some failure ↔ index.Fails operation failure := by
  cases operation with
  | build tree root =>
    cases folder : tree.folderAt? root with
    | none =>
      constructor
      · intro failed
        obtain rfl : Failure.error (.invalidArgument ("index root is not a directory: " ++
            root.text)) = failure := by
          simpa [failure?, build, folder, failureOf?, Except.mapError] using failed
        exact .noFolder folder
      · rintro ⟨-⟩
        simp [failure?, build, folder, failureOf?, Except.mapError]
    | some entries =>
      obtain ⟨stats, result⟩ := build_eq index folder
      constructor
      · intro failed
        simp [failure?, result, failureOf?, Except.mapError] at failed
      · rintro ⟨missing⟩
        rw [folder] at missing
        cases missing
  | registerFile tree path =>
    rw [failure?, registerFile, failureOf?_register, Outline.ofFile_eq_error]
    constructor
    · rintro (⟨error, refuses, rfl⟩ | ⟨accepted, fails⟩)
      · exact .fileRefused refuses
      · exact .file accepted fails
    · rintro (_ | refuses | _ | ⟨accepted, fails⟩ | _)
      · exact .inl ⟨_, refuses, rfl⟩
      · exact .inr ⟨accepted, fails⟩
  | registerSource path source =>
    rw [failure?, registerSource, failureOf?_register, Outline.ofSource_eq_error]
    constructor
    · rintro (⟨error, refuses, rfl⟩ | ⟨accepted, fails⟩)
      · exact .sourceRefused refuses
      · exact .source accepted fails
    · rintro (_ | _ | refuses | _ | ⟨accepted, fails⟩)
      · exact .inl ⟨_, refuses, rfl⟩
      · exact .inr ⟨accepted, fails⟩
  | addPackage package =>
    constructor
    · intro failed
      cases failed
    · intro fails
      cases fails
  | removePackage package =>
    constructor
    · intro failed
      cases failed
    · intro fails
      cases fails

/-! ### Failed operations leave no trace -/

theorem config_register (index : Index) (path : Path) (build : Except (Failure Error) Outline) :
    (index.register path build).2.config = index.config := by
  rcases register_outcome index path build with
    ⟨error, -, result⟩ | ⟨-, ⟨failure, -, result⟩ | ⟨outline, -, result⟩⟩ <;> rw [result]
  rw [settle_config, config_enter]

theorem config_run (index : Index) (operations : List Operation) :
    (index.run operations).config = index.config := by
  induction operations generalizing index with
  | nil => rfl
  | cons operation rest ih =>
    rw [run_cons, ih]
    cases operation with
    | build tree root =>
      cases folder : tree.folderAt? root with
      | none => simp only [perform, build, folder]
      | some entries => rw [perform, build_of_folder index folder, afterPhases_config]
    | registerFile tree path => exact config_register _ _ _
    | registerSource path source => exact config_register _ _ _
    | addPackage package => rfl
    | removePackage package => rfl

theorem snd_register_of_failed {build : Except (Failure Error) Outline}
    (failed : failureOf? (index.register path build).1 ≠ none) :
    (index.register path build).2 = index := by
  rcases register_outcome index path build with
    ⟨error, -, result⟩ | ⟨-, ⟨failure, -, result⟩ | ⟨outline, -, result⟩⟩
  · rw [result]
  · rw [result]
  · rw [result] at failed
    exact absurd rfl failed

theorem perform_of_failed (failed : index.failure? operation ≠ none) :
    index.perform operation = index := by
  cases operation with
  | build tree root =>
    cases folder : tree.folderAt? root with
    | none => simp only [perform, build, folder]
    | some entries =>
      obtain ⟨stats, result⟩ := build_eq index folder
      simp [failure?, result, failureOf?, Except.mapError] at failed
  | registerFile tree path => exact snd_register_of_failed failed
  | registerSource path source => exact snd_register_of_failed failed
  | addPackage package => exact absurd rfl failed
  | removePackage package => exact absurd rfl failed

/-- The operations of a run that succeed, each on the index that it finds. -/
def succeeding (index : Index) : List Operation → List Operation
  | [] => []
  | operation :: rest =>
    match index.failure? operation with
    | some _ => index.succeeding rest
    | none => operation :: (index.perform operation).succeeding rest

/-- Operations that fail can be struck out of a run. -/
theorem run_succeeding (index : Index) (operations : List Operation) :
    index.run (index.succeeding operations) = index.run operations := by
  induction operations generalizing index with
  | nil => rfl
  | cons operation rest ih =>
    rw [succeeding, run_cons]
    cases failed : index.failure? operation with
    | none => exact ih (index.perform operation)
    | some failure =>
      have unchanged := perform_of_failed (failed.trans_ne (Option.some_ne_none failure))
      rw [unchanged]
      exact ih index

/-! ### Registrations with an outline succeed -/

/-- The outline that a registration enters is built. -/
inductive Builds (index : Index) : Operation → Outline → Prop
  | file {tree : FileTree} {path : Path} {outline : Outline}
    (accepted : ∀ error, ¬ index.Refuses path error)
    (built : Outline.ofFile index.config.parser tree path = .ok outline) :
    Builds index (.registerFile tree path) outline
  | source {path : Path} {source : String} {outline : Outline}
    (accepted : ∀ error, ¬ index.Refuses path error)
    (built : Outline.ofSource index.config.parser path source = .ok outline) :
    Builds index (.registerSource path source) outline

/-- The call of the post-processor for a record, if there is one. -/
def callFor (index : Index) (record : Record) : List Call :=
  match index.config.postProcessor with
  | none => []
  | some _ => [⟨record.path, index.isResolved record, (index.usedTypes record).length⟩]

/-- What a registration leaves behind: a record of the outline under its path, resolved
against the tables it is part of and shown to the post-processor, beside the records of
other paths. -/
structure Enters (index : Index) (outline : Outline) (record : Record) (after : Index) : Prop where
  outlined : record.toOutline = outline
  filed : after.byPath? outline.path = some record
  others : ∀ path : Path, path.components ≠ outline.path.components →
    after.byPath? path = index.byPath? path
  resolved : after.usedBy? record = some (record.resolveWith after.known)
  untouched : ∀ other, index.tables.Holds other → after.usedBy? other = index.usedBy? other
  called : after.calls = index.calls ++ after.callFor record

theorem fst_register (accepted : ∀ error, ¬ index.Refuses path error) :
    (index.register path (.ok outline)).1 = .ok (index.nextRecord outline) := by
  unfold register
  rw [accepted_iff.mp accepted]

theorem registered?_of_builds (builds : index.Builds operation outline) :
    index.registered? operation = some (index.nextRecord outline) ∧
      index.failure? operation = none := by
  cases builds with
  | file accepted built =>
    rw [registered?, failure?, registerFile, built, fst_register accepted]
    exact ⟨rfl, rfl⟩
  | source accepted built =>
    rw [registered?, failure?, registerSource, built, fst_register accepted]
    exact ⟨rfl, rfl⟩

theorem calls_enter (index : Index) (record : Record) :
    (index.enter record).calls = index.calls := by
  unfold enter addRecord makeRoom
  split <;> rfl

theorem calls_noteUsed (index : Index) (record : Record) (types : TypeSet) :
    (index.noteUsed record types).calls = index.calls := by
  unfold noteUsed
  split <;> rfl

theorem calls_callPostProcessor (index : Index) (record : Record) :
    (index.callPostProcessor record).2.calls = index.calls ++ index.callFor record := by
  unfold callPostProcessor callFor
  cases index.config.postProcessor with
  | none => exact (List.append_nil _).symm
  | some process => simp [calls, callOf?, isResolved, usedTypes]

/-- A record that is resolved is shown to the post-processor as it is afterwards. -/
theorem calls_settle (index : Index) (record : Record) :
    (index.settle record).2.calls = index.calls ++ (index.settle record).2.callFor record := by
  have same (noted : Index) : (noted.callPostProcessor record).2.callFor record =
      noted.callFor record := by
    unfold callPostProcessor
    split <;> rfl
  rw [settle, calls_callPostProcessor, calls_noteUsed, same]

/-- A registration whose outline is built succeeds, whatever the post-processor does. -/
theorem Builds.enters (builds : index.Builds operation outline) (sound : index.Sound) :
    index.failure? operation = none ∧
      ∃ record, index.registered? operation = some record ∧
        index.Enters outline record (index.perform operation) := by
  obtain ⟨registered, succeeds⟩ := registered?_of_builds builds
  have registers := registers_of_registered registered
  have found (path : Path) : (index.perform operation).byPath? path =
      if path.components = outline.path.components then some (index.nextRecord outline)
      else index.byPath? path := registers.byPath?_eq sound path
  refine ⟨succeeds, _, registered, ?_⟩
  constructor
  case outlined => rfl
  case filed => rw [found, if_pos rfl]
  case others => exact fun path differs => by rw [found, if_neg differs]
  case resolved => exact registers.usedBy?_self
  case untouched =>
    exact fun other held => registers.usedBy?_of_lt (sound.numbered other held)
  case called =>
    rw [registers.result, calls_settle, calls_enter]

/-- Operations on an index that comes about are atomic. An operation that fails, which it
does for the reasons listed and for no other, leaves the index as it was, so that failures
can be struck out of a run; and a registration whose outline is built succeeds, whatever the
post-processor does. -/
theorem reachable_atomic (reachable : index.Reachable) :
    (∀ operation failure,
        index.failure? operation = some failure ↔ index.Fails operation failure) ∧
      (∀ operation, index.failure? operation ≠ none → index.perform operation = index) ∧
      (∀ operations, index.run (index.succeeding operations) = index.run operations) ∧
      ∀ operation outline, index.Builds operation outline →
        index.failure? operation = none ∧
          ∃ record, index.registered? operation = some record ∧
            index.Enters outline record (index.perform operation) := by
  have sound := Sound.of_reachable reachable
  refine ⟨fun operation failure => failure?_eq_some_iff, fun operation => perform_of_failed,
    index.run_succeeding, ?_⟩
  intro operation outline builds
  exact builds.enters sound

/-- A file on record is registered again, first with a source on which the parser panics,
then with one that is fine while the post-processor panics. -/
theorem reachable_atomic_panicking :
    let parser : Parser := fun source =>
      if source = "PANIC" then .error (.panic (.text "parser crashed")) else Java.parser source
    let config : Config := { parser, postProcessor := some fun _ _ => some (.text "post failed") }
    let index : Index := (Index.mk config 1 Tables.empty #[] []).run
      [.registerSource ⟨"a/T.java"⟩ "class T \x7b\x7d"]
    let panicking : Operation := .registerSource ⟨"a/T.java"⟩ "PANIC"
    let fine : Operation := .registerSource ⟨"a/T.java"⟩ "class U \x7b\x7d"
    (index.tables.owners.keys = ["T"] ∧ index.calls = [⟨⟨"a/T.java"⟩, true, 0⟩]) ∧
      index.failure? panicking = some (.panic (.text "parser crashed")) ∧
      index.perform panicking = index ∧
      index.run [panicking, fine] = index.run [fine] ∧
      ∃ outline record, index.Builds fine outline ∧
        index.registered? fine = some record ∧
        index.Enters outline record (index.perform fine) := by
  intro parser config index panicking fine
  have reachable : index.Reachable := ⟨config, 1, _, _, rfl, rfl⟩
  have sameConfig : index.config = config := config_run _ _
  obtain ⟨reasons, unchanged, -, succeeds⟩ := reachable_atomic reachable
  have accepted (error : Error) : ¬ index.Refuses ⟨"a/T.java"⟩ error := by
    revert error
    rw [accepted_iff]
    decide +kernel
  have panics : index.failure? panicking = some (.panic (.text "parser crashed")) := by
    have rejected : index.config.parser "PANIC" = .error (.panic (.text "parser crashed")) := by
      rw [sameConfig]
      rfl
    exact (reasons _ _).mpr (.source accepted (.unparsed rejected))
  have parses : (Outline.ofSource index.config.parser ⟨"a/T.java"⟩
      "class U \x7b\x7d").toOption.isSome = true := by
    rw [sameConfig]
    decide +kernel
  obtain ⟨outline, built⟩ : ∃ outline, Outline.ofSource index.config.parser ⟨"a/T.java"⟩
      "class U \x7b\x7d" = .ok outline := by
    cases made : Outline.ofSource index.config.parser ⟨"a/T.java"⟩ "class U \x7b\x7d" with
    | error failure => simp [made, Except.toOption] at parses
    | ok outline => exact ⟨outline, rfl⟩
  have builds : index.Builds fine outline := .source accepted built
  obtain ⟨-, record, registered, enters⟩ := succeeds fine outline builds
  refine ⟨by decide +kernel, panics, unchanged panicking (by simp [panics]), ?_, outline, record,
    builds, registered, enters⟩
  rw [run_cons, unchanged panicking (by simp [panics])]

end Index

end JavaIndex
