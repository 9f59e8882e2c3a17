import JavaIndex.Proofs.ImportedNames
import JavaIndex.Proofs.TableSearch

/-!
# Tags and names of what references stand for

The tag of an answer tells the rule behind it only in part: three rules answer with a type of
the project. What decides between them shows in the name, which is the name of the reference
itself or has a qualifier in front. Both are told here by what a file declares and what is
known, without the order in which the rules are tried.

## Main definitions

* `IsGuessed`, `FallsBack` — the conditions of the last two rules
* `Tagged` — when a class name has which tag
* `QualifiedBy` — what stands in front of a class name in the answer

## Main results

* `ImportContext.find?_ofImports_beforeFirst` — the import of a first segment
* `ResolvesBy.tagged`, `ResolvesBy.qualifiedBy` — tag and name of a decided class name
* `QualifiedBy.name_eq`, `behind_injective` — a qualifier and the answer determine each other
* `resolve_tagged` — tags and names of all references
-/

namespace JavaIndex

variable {package : String} {imports : List Import} {known : KnownTypes} {name : String}
  {rule : Rule} {type : QualifiedType}

/-! ### Imports of a first segment -/

namespace ImportContext

theorem find?_ofImports_beforeFirst (package : String) (imports : List Import) (name : String) :
    (ofImports package imports).find? (Text.beforeFirst '.' name) =
      (imports.find? fun declaration => declaration.Brings name).map Import.path := by
  simp only [find?_ofImports, Import.brings_iff]

theorem find?_ofImports_eq_none_iff :
    (ofImports package imports).find? (Text.beforeFirst '.' name) = none ↔
      ¬ ∃ declaration ∈ imports, declaration.Brings name := by
  rw [find?_ofImports_beforeFirst]
  simp

end ImportContext

/-! ### Tags -/

/-- The name is in the table of `java.lang`, no declaration imports its first segment, and it is
known under no star import. -/
structure IsGuessed (package : String) (imports : List Import) (known : KnownTypes)
    (name : String) : Prop where
  listed : name ∈ JavaLang.types
  notImported : ¬ ∃ declaration ∈ imports, declaration.Brings name
  nowhere : KnownNowhere (.ofImports package imports) known name

/-- The tag of what a class name stands for: that of a wrapper class, that of a guess, or that
of a type of the project, and the first two for simple names only. -/
structure Tagged (package : String) (imports : List Import) (known : KnownTypes)
    (name : String) (tag : TypeTag) : Prop where
  boxed : tag = .boxedPrimitive ↔ name ∈ JavaLang.boxedPrimitives
  guessed : tag = .stdlibGuess ↔ IsGuessed package imports known name
  project : tag = .projectReference ↔
    name ∉ JavaLang.boxedPrimitives ∧ ¬ IsGuessed package imports known name
  dotted : '.' ∈ name.toList → tag ≠ .boxedPrimitive ∧ tag ≠ .stdlibGuess

namespace Tagged

theorem of_boxed (boxed : name ∈ JavaLang.boxedPrimitives) :
    Tagged package imports known name .boxedPrimitive where
  boxed := iff_of_true rfl boxed
  guessed := iff_of_false nofun fun guessed =>
    JavaLang.not_mem_types_of_boxed boxed guessed.listed
  project := iff_of_false nofun fun neither => neither.1 boxed
  dotted dot := absurd dot (JavaLang.dot_notMem (.inl boxed))

theorem of_guessed (guessed : IsGuessed package imports known name) :
    Tagged package imports known name .stdlibGuess where
  boxed := iff_of_false nofun fun boxed => JavaLang.not_mem_types_of_boxed boxed guessed.listed
  guessed := iff_of_true rfl guessed
  project := iff_of_false nofun fun neither => neither.2 guessed
  dotted dot := absurd dot (JavaLang.dot_notMem (.inr guessed.listed))

theorem of_neither (notBoxed : name ∉ JavaLang.boxedPrimitives)
    (notGuessed : ¬ IsGuessed package imports known name) :
    Tagged package imports known name .projectReference where
  boxed := iff_of_false nofun notBoxed
  guessed := iff_of_false nofun notGuessed
  project := iff_of_true rfl ⟨notBoxed, notGuessed⟩
  dotted _ := ⟨nofun, nofun⟩

end Tagged

/-- The tag of a decided class name. -/
theorem ResolvesBy.tagged (decided : ResolvesBy (.ofImports package imports) known rule
      (.classOrInterface name) type) :
    Tagged package imports known name type.tag := by
  cases decided with
  | wrapper boxed => exact .of_boxed boxed
  | singleImport notBoxed found =>
    refine .of_neither notBoxed fun guessed => ?_
    rw [ImportContext.find?_ofImports_eq_none_iff.mpr guessed.notImported] at found
    cases found
  | starImport left first =>
    exact .of_neither left.notBoxed fun guessed => first.not_knownNowhere guessed.nowhere
  | javaLang left nowhere listed =>
    exact .of_guessed ⟨JavaLang.contains_iff.mp listed,
      ImportContext.find?_ofImports_eq_none_iff.mp left.notImported, nowhere⟩
  | ownPackage left nowhere notListed =>
    exact .of_neither left.notBoxed fun guessed =>
      JavaLang.contains_eq_false_iff.mp notListed guessed.listed

/-- A class name is neither a primitive type nor unknown. -/
theorem ResolvesBy.tag_ne {context : ImportContext}
    (decided : ResolvesBy context known rule (.classOrInterface name) type) :
    type.tag ≠ .primitive ∧ type.tag ≠ .unknown := by
  cases decided <;> exact ⟨nofun, nofun⟩

/-! ### Names -/

/-- No other rule applies, so that the name is taken for one of the file's own package. -/
structure FallsBack (package : String) (imports : List Import) (known : KnownTypes)
    (name : String) : Prop where
  notBoxed : name ∉ JavaLang.boxedPrimitives
  notImported : ¬ ∃ declaration ∈ imports, declaration.Brings name
  nowhere : KnownNowhere (.ofImports package imports) known name
  notListed : name ∉ JavaLang.types

/-- What a class name stands for is written with this qualifier in front, or as it is. -/
inductive QualifiedBy (package : String) (imports : List Import) (known : KnownTypes)
    (name : String) : Option String → Prop
  | wrapper (boxed : name ∈ JavaLang.boxedPrimitives) :
    QualifiedBy package imports known name (some "java.lang")
  | undottedImport {declaration : Import} (notBoxed : name ∉ JavaLang.boxedPrimitives)
    (first : imports.find? (fun declaration => declaration.Brings name) = some declaration)
    (undotted : '.' ∉ declaration.path.toList) :
    QualifiedBy package imports known name none
  | dottedImport {declaration : Import} {qualifier last : String}
    (notBoxed : name ∉ JavaLang.boxedPrimitives)
    (first : imports.find? (fun declaration => declaration.Brings name) = some declaration)
    (path : declaration.path = qualifier ++ "." ++ last) (undotted : '.' ∉ last.toList) :
    QualifiedBy package imports known name (some qualifier)
  | starImport {position : Nat} {star : String} (notBoxed : name ∉ JavaLang.boxedPrimitives)
    (notImported : ¬ ∃ declaration ∈ imports, declaration.Brings name)
    (first : FirstKnown (.ofImports package imports) known name position star) :
    QualifiedBy package imports known name (some star)
  | javaLang (guessed : IsGuessed package imports known name) :
    QualifiedBy package imports known name (some "java.lang")
  | ownPackage (fallsBack : FallsBack package imports known name) (named : package ≠ "") :
    QualifiedBy package imports known name (some package)
  | defaultPackage (fallsBack : FallsBack package imports known name) (unnamed : package = "") :
    QualifiedBy package imports known name none

/-- A name behind its qualifier. -/
def behind (name : String) : Option String → String
  | none => name
  | some qualifier => qualifier ++ "." ++ name

/-- The name of a decided class name is the name itself behind a qualifier. -/
theorem ResolvesBy.qualifiedBy (decided : ResolvesBy (.ofImports package imports) known rule
      (.classOrInterface name) type) :
    ∃ qualifier, QualifiedBy package imports known name qualifier ∧
      type.name = behind name qualifier := by
  cases decided with
  | wrapper boxed => exact ⟨_, .wrapper boxed, rfl⟩
  | @singleImport name imported notBoxed found =>
    rw [ImportContext.find?_ofImports_beforeFirst, Option.map_eq_some_iff] at found
    obtain ⟨declaration, first, rfl⟩ := found
    unfold continueImport
    rcases Text.last_cases '.' declaration.path with absent | ⟨qualifier, last, split, absent⟩
    · refine ⟨none, .undottedImport notBoxed first absent, ?_⟩
      rw [Text.cutLast_of_notMem absent, behind]
    · refine ⟨some qualifier, .dottedImport notBoxed first split absent, ?_⟩
      rw [split, Text.cutLast_append qualifier absent, behind]
  | starImport left first =>
    have notImported := ImportContext.find?_ofImports_eq_none_iff.mp left.notImported
    exact ⟨_, .starImport left.notBoxed notImported first, rfl⟩
  | javaLang left nowhere listed =>
    have notImported := ImportContext.find?_ofImports_eq_none_iff.mp left.notImported
    exact ⟨_, .javaLang ⟨JavaLang.contains_iff.mp listed, notImported, nowhere⟩, rfl⟩
  | ownPackage left nowhere notListed =>
    have notImported := ImportContext.find?_ofImports_eq_none_iff.mp left.notImported
    have fallsBack : FallsBack package imports known _ :=
      ⟨left.notBoxed, notImported, nowhere, JavaLang.contains_eq_false_iff.mp notListed⟩
    by_cases unnamed : package = ""
    · exact ⟨none, .defaultPackage fallsBack unnamed, if_pos unnamed⟩
    · exact ⟨some package, .ownPackage fallsBack unnamed, if_neg unnamed⟩

/-- A qualifier that the file and the known types give is the one in the answer. -/
theorem QualifiedBy.name_eq {qualifier : Option String}
    (qualified : QualifiedBy package imports known name qualifier) :
    (resolve (.classOrInterface name) (.ofImports package imports) known).name =
      behind name qualifier := by
  have found {declaration : Import}
      (first : imports.find? (fun declaration => declaration.Brings name) = some declaration) :
      (ImportContext.ofImports package imports).find? (Text.beforeFirst '.' name) =
        some declaration.path := by
    rw [ImportContext.find?_ofImports_beforeFirst, first, Option.map_some]
  have left (notBoxed : name ∉ JavaLang.boxedPrimitives)
      (notImported : ¬ ∃ declaration ∈ imports, declaration.Brings name) :
      LeftToStars (.ofImports package imports) name :=
    ⟨notBoxed, ImportContext.find?_ofImports_eq_none_iff.mpr notImported⟩
  -- Each way to a qualifier is one rule, and a rule that applies decides the answer.
  cases qualified with
  | wrapper boxed =>
    rw [(ResolvesBy.wrapper boxed).resolve_eq]
    rfl
  | undottedImport notBoxed first undotted =>
    rw [(ResolvesBy.singleImport notBoxed (found first)).resolve_eq, continueImport,
      Text.cutLast_of_notMem undotted, behind]
  | @dottedImport declaration qualifier last notBoxed first path undotted =>
    have cut : Text.cutLast '.' declaration.path = some (qualifier, last) := by
      rw [path]
      exact Text.cutLast_append qualifier undotted
    rw [(ResolvesBy.singleImport notBoxed (found first)).resolve_eq, continueImport, cut, behind]
  | starImport notBoxed notImported first =>
    rw [(ResolvesBy.starImport (left notBoxed notImported) first).resolve_eq, behind]
  | javaLang guessed =>
    have notBoxed : name ∉ JavaLang.boxedPrimitives := fun boxed =>
      JavaLang.not_mem_types_of_boxed boxed guessed.listed
    rw [(ResolvesBy.javaLang (left notBoxed guessed.notImported) guessed.nowhere
      (JavaLang.contains_iff.mpr guessed.listed)).resolve_eq]
    rfl
  | ownPackage fallsBack named =>
    rw [(ResolvesBy.ownPackage (left fallsBack.notBoxed fallsBack.notImported) fallsBack.nowhere
      (JavaLang.contains_eq_false_iff.mpr fallsBack.notListed)).resolve_eq]
    exact if_neg named
  | defaultPackage fallsBack unnamed =>
    rw [(ResolvesBy.ownPackage (left fallsBack.notBoxed fallsBack.notImported) fallsBack.nowhere
      (JavaLang.contains_eq_false_iff.mpr fallsBack.notListed)).resolve_eq]
    exact if_pos unnamed

/-- A name tells what was put in front of it. -/
theorem behind_injective (name : String) : Function.Injective (behind name) := by
  have longer (qualifier : String) : name ≠ qualifier ++ "." ++ name := by
    intro same
    have lengths := congrArg String.length same
    have dot : ".".length = 1 := rfl
    simp only [String.length_append, dot] at lengths
    omega
  intro one two same
  cases one with
  | none =>
    cases two with
    | none => rfl
    | some qualifier => exact absurd same (longer qualifier)
  | some qualifier =>
    cases two with
    | none => exact absurd same.symm (longer qualifier)
    | some other =>
      simp only [behind, String.append_left_inj] at same
      rw [same]

/-! ### All references -/

/-- Tags and names of all answers. A primitive type is tagged as one and nothing else is; what
is no type name is unknown and nothing else is; a class name has the tag that the imports, the
package and the known types give it, and exactly the qualifier that they give it. -/
theorem resolve_tagged (reference : TypeReference) (package : String) (imports : List Import)
    (known : KnownTypes) :
    let answer := resolve reference (.ofImports package imports) known
    (answer.tag = .primitive ↔ ∃ text, reference = .primitive text) ∧
      (answer.tag = .unknown ↔ ∃ text, reference = .other text) ∧
      (answer.tag = .unknown → answer.name = "UNKNOWN") ∧
      ∀ name, reference = .classOrInterface name →
        Tagged package imports known name answer.tag ∧
          (∃ qualifier, answer.name = behind name qualifier) ∧
          ∀ qualifier, answer.name = behind name qualifier ↔
            QualifiedBy package imports known name qualifier := by
  intro answer
  cases reference with
  | primitive text => simp [answer, resolve]
  | other text => simp [answer, resolve, QualifiedType.unclassified, QualifiedType.unknownName]
  | classOrInterface name =>
    obtain ⟨rule, decided⟩ :=
      resolvesBy_resolve (.classOrInterface name) (.ofImports package imports) known
    obtain ⟨notPrimitive, notUnknown⟩ := decided.tag_ne
    refine ⟨iff_of_false notPrimitive (by simp), iff_of_false notUnknown (by simp),
      fun unknown => absurd unknown notUnknown, ?_⟩
    rintro _ ⟨⟩
    obtain ⟨qualifier, qualified, written⟩ := decided.qualifiedBy
    refine ⟨decided.tagged, ⟨qualifier, written⟩, fun other => ⟨fun same => ?_, fun given => ?_⟩⟩
    · exact behind_injective name (written.symm.trans same) ▸ qualified
    · exact given.name_eq

/-- A name of `java.lang` beside a static import of that name: guessed where nothing is known,
found where it is known under the star import; and with a nested part, where an undotted import
of its first segment leaves it as it is. -/
theorem resolve_tagged_object :
    let imports : List Import := [⟨"x.Object", true, false⟩, ⟨"q", false, true⟩]
    let single : List Import := ⟨"Object", false, false⟩ :: imports
    let known : KnownTypes := some fun name => name == "q.Object"
    (Tagged "p" imports none "Object" .stdlibGuess ∧
        QualifiedBy "p" imports none "Object" (some "java.lang")) ∧
      (Tagged "p" imports known "Object" .projectReference ∧
        QualifiedBy "p" imports known "Object" (some "q")) ∧
      (Tagged "p" single known "Object.In" .projectReference ∧
        QualifiedBy "p" single known "Object.In" none) := by
  intro imports single known
  obtain ⟨-, -, -, unknown⟩ := resolve_tagged (.classOrInterface "Object") "p" imports none
  obtain ⟨-, -, -, starred⟩ := resolve_tagged (.classOrInterface "Object") "p" imports known
  obtain ⟨-, -, -, imported⟩ := resolve_tagged (.classOrInterface "Object.In") "p" single known
  have guess : resolve (.classOrInterface "Object") (.ofImports "p" imports) none =
      ⟨"java.lang.Object", .stdlibGuess⟩ := by decide +kernel
  have star : resolve (.classOrInterface "Object") (.ofImports "p" imports) known =
      ⟨"q.Object", .projectReference⟩ := by decide +kernel
  have continued : resolve (.classOrInterface "Object.In") (.ofImports "p" single) known =
      ⟨"Object.In", .projectReference⟩ := by decide +kernel
  rw [guess] at unknown
  rw [star] at starred
  rw [continued] at imported
  obtain ⟨tagged, -, qualified⟩ := unknown "Object" rfl
  obtain ⟨tagged', -, qualified'⟩ := starred "Object" rfl
  obtain ⟨tagged'', -, qualified''⟩ := imported "Object.In" rfl
  exact ⟨⟨tagged, (qualified _).mp (by decide)⟩, ⟨tagged', (qualified' _).mp (by decide)⟩,
    tagged'', (qualified'' _).mp (by decide)⟩

end JavaIndex
