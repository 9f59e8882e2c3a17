import JavaIndex.Proofs.NameParts
import JavaIndex.Proofs.Words
import Mathlib.Data.List.Induction

/-!
# Path hints

The hint for a type is put together step by step: each segment of the outer name is joined to the
path so far, and the last one is given its extension. An empty segment adds a slash at most, and
only where there is none; the next segment makes use of it, and the extension takes it away. So
dots in front, at the end or in a row leave no trace, and apart from them the hint and the outer
name say the same.

## Main definitions

* `Path.Spells` — a path is made up of names, with a slash at the end or without
* `QualifiedType.hintFor` — the path of a source in its folders
* `QualifiedType.HasSegments`, `QualifiedType.IsDotted` — a name of segments none of which is empty

## Main results

* `Path.Spells.join`, `Path.Spells.foldl_join` — the names in a path after one piece, after many
* `Path.Spells.components_eq` — the components of such a path
* `Path.Spells.withExtension` — an extension is put behind the last name
* `QualifiedType.pathHint_eq` — the hint has the segments that are not empty
* `QualifiedType.pathHint_exact` — the hint for a name, and when two names have the same one
-/

namespace JavaIndex

/-! ### Names joined by slashes -/

namespace Path

variable {path : Path} {names : List String} {name last piece : String}

theorem isName_of_undotted (nonempty : name ≠ "") (undotted : '.' ∉ name.toList)
    (noSlash : '/' ∉ name.toList) : Entry.isName name = true := by
  have dotless : dot ∉ Text.bytes name := mt dot_mem_bytes_iff.mp undotted
  refine isName_iff.mpr ⟨mt Text.bytes_eq_nil_iff.mp nonempty, ?_, ?_,
    mt slash_mem_bytes_iff.mp noSlash⟩
  · intro current
    exact dotless (by simp [current])
  · intro parent
    exact dotless (by simp [parent])

theorem isName_java (isName : Entry.isName name = true) :
    Entry.isName (name ++ ".java" : String) = true := by
  obtain ⟨-, -, -, noSlash⟩ := isName_iff.mp isName
  have longer (other : Spelling) (short : other.length < 5) :
      Text.bytes (name ++ ".java") ≠ other := by
    rintro rfl
    rw [Text.bytes_append, List.length_append] at short
    have length : (Text.bytes ".java").length = 5 := rfl
    omega
  refine isName_iff.mpr
    ⟨longer [] (by decide), longer [dot] (by decide), longer [dot, dot] (by decide), ?_⟩
  rw [Text.bytes_append, List.mem_append, not_or]
  exact ⟨noSlash, by decide⟩

theorem intercalate_concat (nonempty : names ≠ []) (name : String) :
    "/".intercalate (names ++ [name]) = "/".intercalate names ++ "/" ++ name := by
  rw [String.intercalate_append_of_ne_nil nonempty (List.cons_ne_nil _ _),
    String.intercalate_singleton]

/-- The last name ends the path. -/
theorem exists_intercalate_concat (names : List String) (last : String) :
    ∃ front, "/".intercalate (names ++ [last]) = front ++ last := by
  by_cases first : names = []
  · exact ⟨"", by simp [first]⟩
  · exact ⟨"/".intercalate names ++ "/", intercalate_concat first last⟩

/-- Names joined by slashes end in a byte of the last name. -/
theorem exists_bytes_intercalate (names : List String) (nonempty : Text.bytes last ≠ []) :
    ∃ lead byte, Text.bytes ("/".intercalate (names ++ [last])) = lead ++ [byte] ∧
      byte ∈ Text.bytes last := by
  obtain ⟨front, spelled⟩ := exists_intercalate_concat names last
  obtain ⟨lead, byte, ends⟩ := (List.eq_nil_or_concat' (Text.bytes last)).resolve_left nonempty
  refine ⟨Text.bytes front ++ lead, byte, ?_, by simp [ends]⟩
  rw [spelled, Text.bytes_append, ends, List.append_assoc]

theorem getLast?_intercalate (areNames : ∀ name ∈ names, Entry.isName name = true)
    (nonempty : names ≠ []) :
    ∃ byte, (Text.bytes ("/".intercalate names)).getLast? = some byte ∧ byte ≠ slash := by
  obtain ⟨front, last, rfl⟩ := (List.eq_nil_or_concat' names).resolve_left nonempty
  obtain ⟨notEmpty, -, -, noSlash⟩ :=
    isName_iff.mp (areNames last (List.mem_append_right _ List.mem_cons_self))
  obtain ⟨lead, byte, ends, inside⟩ := exists_bytes_intercalate front notEmpty
  exact ⟨byte, by rw [ends, List.getLast?_concat], fun same => noSlash (same ▸ inside)⟩

theorem intercalate_ne_nil (areNames : ∀ name ∈ names, Entry.isName name = true)
    (nonempty : names ≠ []) : Text.bytes ("/".intercalate names) ≠ [] := by
  intro isEmpty
  obtain ⟨byte, ends, -⟩ := getLast?_intercalate areNames nonempty
  rw [isEmpty] at ends
  cases ends

/-! ### Paths that are put together -/

/-- The path is made up of the names, and there may be a slash behind the last one. -/
structure Spells (path : Path) (names : List String) : Prop where
  areNames : ∀ name ∈ names, Entry.isName name = true
  spelled : path.spelling = Text.bytes ("/".intercalate names) ∨
    names ≠ [] ∧ path.spelling = Text.bytes ("/".intercalate names) ++ [slash]

/-- The pieces that are not empty. -/
def namesIn (pieces : List String) : List String :=
  pieces.filter fun piece => piece ≠ ""

namespace Spells

theorem empty : (⟨[]⟩ : Path).Spells [] := ⟨by simp, .inl rfl⟩

theorem eq_empty (spells : path.Spells []) : path = ⟨[]⟩ := by
  obtain ⟨spelling⟩ := path
  rcases spells.spelled with spelled | ⟨nonempty, -⟩
  · rw [show spelling = [] from spelled]
  · exact absurd rfl nonempty

/-- Behind a name there is one slash, and then what is joined. -/
theorem join_eq (spells : path.Spells names) (nonempty : names ≠ [])
    (noSlash : slash ∉ Text.bytes piece) :
    path.join piece = ⟨Text.bytes ("/".intercalate names ++ "/" ++ piece)⟩ := by
  have relative : (Text.bytes piece).head? ≠ some slash := head?_ne_slash noSlash
  have behind : Text.bytes ("/".intercalate names ++ "/" ++ piece) =
      Text.bytes ("/".intercalate names) ++ slash :: Text.bytes piece := by
    rw [Text.bytes_append, Text.bytes_append, List.append_assoc]
    rfl
  obtain ⟨byte, ends, notSlash⟩ := getLast?_intercalate spells.areNames nonempty
  -- The slash is put there now, or it is left over from an empty piece.
  rcases spells.spelled with spelled | ⟨-, spelled⟩
  · have notEmpty : path.spelling ≠ [] := spelled ▸ intercalate_ne_nil spells.areNames nonempty
    have slashless : path.spelling.getLast? ≠ some slash := by
      rw [spelled, ends]
      simpa using notSlash
    rw [Path.join, if_neg relative, if_neg notEmpty, if_neg slashless, spelled, behind]
  · have notEmpty : path.spelling ≠ [] := by simp [spelled]
    have ends : path.spelling.getLast? = some slash := by simp [spelled]
    rw [Path.join, if_neg relative, if_neg notEmpty, if_pos ends, spelled, behind,
      List.append_assoc, List.singleton_append]

theorem join_name (spells : path.Spells names) (isName : Entry.isName name = true) :
    path.join name = ⟨Text.bytes ("/".intercalate (names ++ [name]))⟩ := by
  have noSlash := (isName_iff.mp isName).2.2.2
  by_cases first : names = []
  · subst first
    rw [spells.eq_empty, Path.join, if_neg (head?_ne_slash noSlash), if_pos rfl, List.nil_append,
      String.intercalate_singleton]
  · rw [spells.join_eq first noSlash, intercalate_concat first]

/-- An empty piece adds a slash behind a name, unless there is one. -/
theorem join_empty (spells : path.Spells names) : (path.join "").Spells names := by
  by_cases first : names = []
  · subst first
    rw [spells.eq_empty]
    exact empty
  · refine ⟨spells.areNames, .inr ⟨first, ?_⟩⟩
    rw [spells.join_eq first (by decide), String.append_empty, Text.bytes_append]
    rfl

/-- A piece adds its name, or nothing if it is empty. -/
theorem join (spells : path.Spells names) (isPiece : piece = "" ∨ Entry.isName piece = true) :
    (path.join piece).Spells (names ++ namesIn [piece]) := by
  rcases isPiece with rfl | isName
  · simpa [namesIn] using spells.join_empty
  · have added : namesIn [piece] = [piece] := by
      simpa [namesIn] using (isName_iff.mp isName).1
    rw [added, spells.join_name isName]
    exact ⟨List.forall_mem_append.mpr ⟨spells.areNames, by simpa using isName⟩, .inl rfl⟩

/-- The pieces joined to a path one after the other add their names. -/
theorem foldl_join {pieces : List String} (spells : path.Spells names)
    (arePieces : ∀ piece ∈ pieces, piece = "" ∨ Entry.isName piece = true) :
    ((pieces.map Text.bytes).foldl Path.join path).Spells (names ++ namesIn pieces) := by
  induction pieces generalizing path names with
  | nil => simpa [namesIn] using spells
  | cons piece rest ih =>
    rw [List.forall_mem_cons] at arePieces
    have all : names ++ namesIn (piece :: rest) = names ++ namesIn [piece] ++ namesIn rest := by
      rw [namesIn, namesIn, namesIn, List.append_assoc, ← List.filter_append, List.singleton_append]
    rw [List.map_cons, List.foldl_cons, all]
    exact ih (spells.join arePieces.1) arePieces.2

theorem components_intercalate (areNames : ∀ name ∈ names, Entry.isName name = true) :
    components ⟨Text.bytes ("/".intercalate names)⟩ = names.map fun name => .name name := by
  induction names using List.reverseRecOn with
  | nil => rfl
  | append_singleton front last ih =>
    rw [List.forall_mem_append, List.forall_mem_singleton] at areNames
    have before : (⟨Text.bytes ("/".intercalate front)⟩ : Path).Spells front :=
      ⟨areNames.1, .inl rfl⟩
    rw [← before.join_name areNames.2, components_join _ areNames.2, ih areNames.1,
      List.map_append, List.map_singleton]

/-- The components are the names, whether there is a slash behind them or not. -/
theorem components_eq (spells : path.Spells names) :
    path.components = names.map fun name => .name name := by
  obtain ⟨spelling⟩ := path
  rcases spells.spelled with spelled | ⟨nonempty, spelled⟩
  · rw [show spelling = _ from spelled, components_intercalate spells.areNames]
  · rw [show spelling = _ from spelled,
      components_slash (intercalate_ne_nil spells.areNames nonempty),
      components_intercalate spells.areNames]

end Spells

/-! ### The extension -/

theorem trimTail_slash (spelling : Spelling) :
    trimTail (spelling ++ [slash]) = trimTail spelling := by
  rw [trimTail, List.reverse_append, List.reverse_singleton, List.singleton_append, trimTail.go]
  rfl

/-- Nothing is dropped behind a byte that is neither a slash nor a dot. -/
theorem trimTail_concat {byte : UInt8} (notSlash : byte ≠ slash) (notDot : byte ≠ dot)
    (spelling : Spelling) : trimTail (spelling ++ [byte]) = spelling ++ [byte] := by
  have kept : trimTail.go (byte :: spelling.reverse) = byte :: spelling.reverse := by
    simp [trimTail.go, notSlash, notDot]
  rw [trimTail, List.reverse_append, List.reverse_singleton, List.singleton_append, kept]
  simp

namespace Spells

theorem trimTail_eq (spells : path.Spells (names ++ [last])) (undotted : dot ∉ Text.bytes last) :
    trimTail path.spelling = Text.bytes ("/".intercalate (names ++ [last])) := by
  obtain ⟨notEmpty, -, -, noSlash⟩ :=
    isName_iff.mp (spells.areNames last (List.mem_append_right _ List.mem_cons_self))
  obtain ⟨lead, byte, ends, inside⟩ := exists_bytes_intercalate names notEmpty
  have kept : trimTail (lead ++ [byte]) = lead ++ [byte] :=
    trimTail_concat (fun same => noSlash (same ▸ inside)) (fun same => undotted (same ▸ inside)) _
  rcases spells.spelled with spelled | ⟨-, spelled⟩
  · rw [spelled, ends, kept]
  · rw [spelled, trimTail_slash, ends, kept]

/-- The extension is put behind the last name. -/
theorem withExtension (spells : path.Spells (names ++ [last]))
    (undotted : '.' ∉ last.toList) (extension : String) :
    path.withExtension extension =
      ⟨Text.bytes ("/".intercalate (names ++ [last]) ++ "." ++ extension)⟩ := by
  have dotless : dot ∉ Text.bytes last := mt dot_mem_bytes_iff.mp undotted
  have named : path.fileName? = some (Text.bytes last) := by
    simp [fileName?, spells.components_eq]
  have whole : (cutExtension (Text.bytes last)).1 = Text.bytes last := by
    rw [cutExtension, Text.cutLastIn_of_notMem dotless]
  obtain ⟨front, spelled⟩ := exists_intercalate_concat names last
  simp only [Path.withExtension, named, spells.trimTail_eq dotless, whole, spelled]
  rw [Text.bytes_append, Text.bytes_append, Text.bytes_append, List.length_append,
    Nat.add_sub_cancel, List.take_left', List.append_assoc _ _ (Text.bytes extension)]
  · rfl
  · rfl

end Spells

end Path

/-! ### Hints -/

namespace QualifiedType

variable {type other : QualifiedType} {front : String} {pieces segments : List String}

/-- The path of a source below its folders, the last name being that of the file. -/
def hintFor (names : List String) : Path :=
  if names = [] then ⟨""⟩ else ⟨("/".intercalate names ++ ".java" : String)⟩

/-- The name is made up of the segments with dots between them, and none of them is empty. -/
structure HasSegments (name : String) (segments : List String) : Prop where
  nonempty : ∀ segment ∈ segments, segment ≠ ""
  undotted : ∀ segment ∈ segments, '.' ∉ segment.toList
  joined : ".".intercalate segments = name

/-- The name can be made up of segments none of which is empty. -/
def IsDotted (name : String) : Prop :=
  ∃ segments, HasSegments name segments

/-- The hint has the pieces that are not empty. -/
theorem pathHint_eq (hasFront : type.HasFront front) (noSlash : '/' ∉ front.toList)
    (cut : Text.IsCutInto '.' front pieces) :
    type.pathHint = hintFor (Path.namesIn pieces) := by
  have arePieces : ∀ piece ∈ pieces, piece = "" ∨ Entry.isName piece = true := by
    intro piece member
    refine or_iff_not_imp_left.mpr fun nonempty => Path.isName_of_undotted nonempty
      (cut.unmarked piece member) fun slash => noSlash (cut.mem_toList member slash)
  have cutAgain : Text.splitAll '.' type.outer.name = pieces := by
    rw [outer_name_iff.mpr hasFront, ← cut.joined]
    exact Text.splitAll_intercalate cut.nonempty cut.unmarked
  have spells := Path.Spells.empty.foldl_join arePieces
  rw [List.nil_append] at spells
  rw [pathHint, cutAgain, hintFor]
  rcases List.eq_nil_or_concat' (Path.namesIn pieces) with noName | ⟨folders, file, all⟩
  · rw [noName] at spells
    rw [if_pos noName, spells.eq_empty]
    rfl
  · have undotted : '.' ∉ file.toList := by
      have listed : file ∈ Path.namesIn pieces := by simp [all]
      exact cut.unmarked file (List.mem_of_mem_filter listed)
    rw [all] at spells
    rw [all, if_neg (by simp), spells.withExtension undotted, String.append_assoc]
    rfl

/-- Where no segment is empty, the hint has all of them. -/
theorem pathHint_of_segments (hasFront : type.HasFront front) (noSlash : '/' ∉ front.toList)
    (has : HasSegments front segments) : type.pathHint = hintFor segments := by
  by_cases nothing : segments = []
  · subst nothing
    have cut : Text.IsCutInto '.' front [""] := ⟨by simp, by simp, by simpa using has.joined⟩
    exact pathHint_eq hasFront noSlash cut
  · have cut : Text.IsCutInto '.' front segments := ⟨nothing, has.undotted, has.joined⟩
    have allNames : Path.namesIn segments = segments :=
      List.filter_eq_self.mpr fun segment member => by simpa using has.nonempty segment member
    rw [pathHint_eq hasFront noSlash cut, allNames]

/-! ### What a hint says -/

theorem hintFor_concat (folders : List String) (file : String) :
    hintFor (folders ++ [file]) =
      ⟨Text.bytes ("/".intercalate (folders ++ [file ++ ".java"]))⟩ := by
  rw [hintFor, if_neg (by simp)]
  by_cases first : folders = []
  · simp [first]
  · rw [Path.intercalate_concat first, Path.intercalate_concat first, String.append_assoc]

/-- A hint leads through the folders to the file. -/
theorem components_hintFor {folders : List String} {file : String}
    (areNames : ∀ name ∈ folders ++ [file], Entry.isName name = true) :
    (hintFor (folders ++ [file])).components =
      folders.map (fun name => .name name) ++ [.name (file ++ ".java" : String)] := by
  rw [List.forall_mem_append, List.forall_mem_singleton] at areNames
  have spells : (hintFor (folders ++ [file])).Spells (folders ++ [file ++ ".java"]) := by
    rw [hintFor_concat]
    refine ⟨List.forall_mem_append.mpr ⟨areNames.1, ?_⟩, .inl rfl⟩
    exact List.forall_mem_singleton.mpr (Path.isName_java areNames.2)
  rw [spells.components_eq, List.map_append, List.map_singleton]

/-- Hints that are the same path are hints for the same names. -/
theorem eq_of_components_hintFor {left right : List String}
    (leftNames : ∀ name ∈ left, Entry.isName name = true)
    (rightNames : ∀ name ∈ right, Entry.isName name = true)
    (same : (hintFor left).components = (hintFor right).components) : left = right := by
  have nothing : (hintFor []).components = [] := by decide
  rcases List.eq_nil_or_concat' left with rfl | ⟨folders, file, rfl⟩
  · rcases List.eq_nil_or_concat' right with rfl | ⟨folders', file', rfl⟩
    · rfl
    · rw [nothing, components_hintFor rightNames] at same
      simp at same
  · rcases List.eq_nil_or_concat' right with rfl | ⟨folders', file', rfl⟩
    · rw [nothing, components_hintFor leftNames] at same
      simp at same
    · rw [components_hintFor leftNames, components_hintFor rightNames] at same
      obtain ⟨sameFolders, sameFile⟩ := List.append_inj' same rfl
      have named : Function.Injective fun name : String => Component.name name :=
        fun _ _ same => Text.bytes_inj.mp (Component.name.inj same)
      obtain rfl : folders = folders' := named.list_map sameFolders
      obtain rfl : file = file' := by simpa using sameFile
      rfl

/-- The hint depends on the outer type alone. -/
theorem pathHint_congr (same : type.outer.name = other.outer.name) :
    type.pathHint = other.pathHint := by
  rw [pathHint, same, pathHint]

theorem HasSegments.noSlash (has : HasSegments front segments) (noSlash : '/' ∉ front.toList) :
    ∀ segment ∈ segments, '/' ∉ segment.toList := by
  intro segment member slash
  apply noSlash
  rw [← has.joined]
  exact Text.mem_toList_intercalate member slash

theorem HasSegments.areNames (has : HasSegments front segments) (noSlash : '/' ∉ front.toList) :
    ∀ segment ∈ segments, Entry.isName segment = true :=
  fun segment member => Path.isName_of_undotted (has.nonempty segment member)
    (has.undotted segment member) (has.noSlash noSlash segment member)

/-- Names without empty segments whose hints are the same path have the same outer type. -/
theorem outer_name_eq_of_components (dotted : IsDotted type.outer.name)
    (noSlash : '/' ∉ type.outer.name.toList) (otherDotted : IsDotted other.outer.name)
    (otherNoSlash : '/' ∉ other.outer.name.toList)
    (same : type.pathHint.components = other.pathHint.components) :
    type.outer.name = other.outer.name := by
  obtain ⟨segments, has⟩ := dotted
  obtain ⟨others, otherHas⟩ := otherDotted
  rw [pathHint_of_segments (hasFront_outer type) noSlash has,
    pathHint_of_segments (hasFront_outer other) otherNoSlash otherHas] at same
  have sameSegments : segments = others :=
    eq_of_components_hintFor (has.areNames noSlash) (otherHas.areNames otherNoSlash) same
  rw [← has.joined, ← otherHas.joined, sameSegments]

/-- The front of a name can be read off its hint. -/
theorem exists_stem (hasFront : type.HasFront front) (noSlash : '/' ∉ front.toList)
    (dotted : IsDotted front) (nonempty : front ≠ "") :
    ∃ stem, type.pathHint = ⟨(stem ++ ".java" : String)⟩ ∧
      Text.replaceAll '/' '.' stem = front := by
  obtain ⟨segments, has⟩ := dotted
  have someSegment : segments ≠ [] := by
    rintro rfl
    exact nonempty has.joined.symm
  refine ⟨"/".intercalate segments, ?_, ?_⟩
  · rw [pathHint_of_segments hasFront noSlash has, hintFor, if_neg someSegment]
  · rw [← has.joined]
    exact Text.replaceAll_intercalate (has.noSlash noSlash)

/-- For a name whose front has no slash, the hint consists of the segments of the front that are
not empty, with the extension behind the last one, and nothing but the front matters. If the front
has no empty segments, the hint and the front determine each other: two hints are the same, as
texts or as paths, if and only if the outer types are; and to read the front off the hint, drop
the extension and turn slashes into dots. -/
theorem pathHint_exact (hasFront : type.HasFront front) (noSlash : '/' ∉ front.toList) :
    (∃ pieces, Text.IsCutInto '.' front pieces ∧
      type.pathHint = hintFor (Path.namesIn pieces)) ∧
    (∀ other : QualifiedType, other.HasFront front → other.pathHint = type.pathHint) ∧
    (IsDotted front →
      (∀ other : QualifiedType, IsDotted other.outer.name → '/' ∉ other.outer.name.toList →
        (type.pathHint = other.pathHint ↔ type.outer.name = other.outer.name) ∧
        (type.pathHint.components = other.pathHint.components ↔
          type.outer.name = other.outer.name)) ∧
      (front = "" → type.pathHint = ⟨""⟩) ∧
      (front ≠ "" → ∃ stem, type.pathHint = ⟨(stem ++ ".java" : String)⟩ ∧
        Text.replaceAll '/' '.' stem = front)) := by
  have cut := Text.isCutInto_splitAll '.' front
  have outerName : type.outer.name = front := outer_name_iff.mpr hasFront
  refine ⟨⟨_, cut, pathHint_eq hasFront noSlash cut⟩, fun other hasSame => ?_, fun dotted => ?_⟩
  · exact pathHint_congr ((outer_name_iff.mpr hasSame).trans outerName.symm)
  refine ⟨fun other otherDotted otherNoSlash => ?_, ?_, exists_stem hasFront noSlash dotted⟩
  · have back := outer_name_eq_of_components (outerName ▸ dotted) (outerName ▸ noSlash)
      otherDotted otherNoSlash
    exact ⟨⟨fun same => back (congrArg Path.components same), pathHint_congr⟩,
      back, fun same => congrArg Path.components (pathHint_congr same)⟩
  · rintro rfl
    have none : HasSegments "" [] := ⟨by simp, by simp, rfl⟩
    exact pathHint_of_segments hasFront noSlash none

/-- Dots in front, in a row and at the end of a front leave no trace in the hint; and without
them the front comes back. -/
theorem pathHint_exact_dots :
    let crowded : QualifiedType := ⟨"..a..b.$C.d/e", .projectReference⟩
    let plain : QualifiedType := ⟨"a.b$C", .unknown⟩
    (crowded.HasFront "..a..b." ∧ crowded.pathHint = ⟨"a/b.java"⟩) ∧
      plain.HasFront "a.b" ∧ IsDotted "a.b" ∧
      (∀ other : QualifiedType, other.HasFront "a.b" → other.pathHint = ⟨"a/b.java"⟩) ∧
      ∃ stem, plain.pathHint = ⟨(stem ++ ".java" : String)⟩ ∧
        Text.replaceAll '/' '.' stem = "a.b" := by
  intro crowded plain
  have crowdedFront : crowded.HasFront "..a..b." := ⟨by decide, .inr ⟨"C.d/e", rfl⟩⟩
  have plainFront : plain.HasFront "a.b" := ⟨by decide, .inr ⟨"C", rfl⟩⟩
  have dotted : IsDotted "a.b" := ⟨["a", "b"], by decide, by decide, rfl⟩
  obtain ⟨⟨pieces, cut, hint⟩, -, -⟩ := pathHint_exact crowdedFront (by decide)
  obtain ⟨-, same, reads⟩ := pathHint_exact plainFront (by decide)
  have cutPieces : pieces = ["", "", "a", "", "b", ""] := by
    rw [← Text.splitAll_intercalate cut.nonempty cut.unmarked, cut.joined]
    decide
  refine ⟨⟨crowdedFront, ?_⟩, plainFront, dotted, fun other hasSame => ?_, ?_⟩
  · rw [hint, cutPieces]
    decide
  · rw [same other hasSame]
    decide
  · exact (reads dotted).2.2 (by decide)

-- With a slash in front of the `$`, different outer types can have one hint.
example : (⟨"a./b", .unknown⟩ : QualifiedType).pathHint =
    (⟨"/b", .unknown⟩ : QualifiedType).pathHint := by decide

end QualifiedType

end JavaIndex
