import JavaIndex.Resolution
import Mathlib.Data.List.Basic
import Mathlib.Tactic.Push

/-!
# The rules of resolution

Which rule decides about a reference, beside what it decides. A rule applies only where no
earlier one does, so that at most one of them decides; and one always does.

What is known of a project enters through the star imports alone. More knowledge can make a
star import apply, in place of a later star import or of a rule behind them; it changes nothing
else.

## Main definitions

* `Knows` — a name is among those that a project is known to declare
* `FirstKnown` — the first star import under which a name is known
* `Rule`, `ResolvesBy` — the rule that decides what a reference stands for

## Main results

* `resolvesBy_resolve`, `ResolvesBy.resolve_eq`, `ResolvesBy.unique` — one rule decides
* `FirstKnown.mono` — more knowledge moves the first star import to the front
* `resolve_known` — how the answer depends on what is known
-/

namespace JavaIndex

variable {context : ImportContext} {known known' : KnownTypes} {name package candidate : String}
  {position : Nat} {reference : TypeReference} {type : QualifiedType}

/-! ### Star imports -/

/-- The project is known to declare the name. -/
def Knows (known : KnownTypes) (name : String) : Prop :=
  ∃ contains, known = some contains ∧ contains name = true

@[simp] theorem knows_some {contains : String → Bool} :
    Knows (some contains) name ↔ contains name = true := by
  simp [Knows]

@[simp] theorem not_knows_none : ¬ Knows none name := by
  simp [Knows]

/-- The star import at the position, counted from the front, is the first one under which the
name is known. -/
structure FirstKnown (context : ImportContext) (known : KnownTypes) (name : String)
    (position : Nat) (package : String) : Prop where
  declared : context.starPackages[position]? = some package
  knows : Knows known (package ++ "." ++ name)
  first : ∀ earlier < position, ∀ other, context.starPackages[earlier]? = some other →
    ¬ Knows known (other ++ "." ++ name)

namespace FirstKnown

theorem position_eq {position' : Nat} {package' : String}
    (first : FirstKnown context known name position package)
    (first' : FirstKnown context known name position' package') : position = position' := by
  rcases Nat.lt_trichotomy position position' with less | same | greater
  · exact absurd first.knows (first'.first position less package first.declared)
  · exact same
  · exact absurd first'.knows (first.first position' greater package' first'.declared)

/-- A name that is known under a star import is first known there or further in front. -/
theorem exists_le (declared : context.starPackages[position]? = some package)
    (knows : Knows known (package ++ "." ++ name)) :
    ∃ earlier ≤ position, ∃ other, FirstKnown context known name earlier other := by
  -- Whatever knows the name further in front is itself the first one or behind it.
  induction position using Nat.strongRecOn generalizing package with
  | ind position ih =>
    by_cases first : ∀ earlier < position, ∀ other, context.starPackages[earlier]? = some other →
        ¬ Knows known (other ++ "." ++ name)
    · exact ⟨position, Nat.le_refl position, package, declared, knows, first⟩
    · push Not at first
      obtain ⟨earlier, less, other, declared', knows'⟩ := first
      obtain ⟨least, bound, found⟩ := ih earlier less declared' knows'
      exact ⟨least, Nat.le_trans bound (Nat.le_of_lt less), found⟩

/-- With more knowledge the first star import is the same or further in front. -/
theorem mono (first : FirstKnown context known name position package)
    (more : ∀ name, Knows known name → Knows known' name) :
    ∃ earlier ≤ position, ∃ other, FirstKnown context known' name earlier other :=
  exists_le first.declared (more _ first.knows)

theorem congr (first : FirstKnown context known name position package)
    (same : ∀ package ∈ context.starPackages,
      Knows known (package ++ "." ++ name) ↔ Knows known' (package ++ "." ++ name)) :
    FirstKnown context known' name position package where
  declared := first.declared
  knows := (same package (List.mem_of_getElem? first.declared)).mp first.knows
  first earlier less other declared := by
    rw [← same other (List.mem_of_getElem? declared)]
    exact first.first earlier less other declared

end FirstKnown

/-- The name is known under none of the star imports. -/
def KnownNowhere (context : ImportContext) (known : KnownTypes) (name : String) : Prop :=
  ∀ package ∈ context.starPackages, ¬ Knows known (package ++ "." ++ name)

theorem FirstKnown.not_knownNowhere (first : FirstKnown context known name position package) :
    ¬ KnownNowhere context known name := fun nowhere =>
  nowhere package (List.mem_of_getElem? first.declared) first.knows

theorem exists_firstKnown (somewhere : ¬ KnownNowhere context known name) :
    ∃ position package, FirstKnown context known name position package := by
  unfold KnownNowhere at somewhere
  push Not at somewhere
  obtain ⟨package, member, knows⟩ := somewhere
  obtain ⟨position, declared⟩ := List.mem_iff_getElem?.mp member
  obtain ⟨earlier, -, other, first⟩ := FirstKnown.exists_le declared knows
  exact ⟨earlier, other, first⟩

/-- A name that has become known is first known under a star import where it was not. -/
theorem KnownNowhere.exists_new (nowhere : KnownNowhere context known name)
    (somewhere : ¬ KnownNowhere context known' name) :
    ∃ position package, FirstKnown context known' name position package ∧
      ¬ Knows known (package ++ "." ++ name) := by
  obtain ⟨position, package, first⟩ := exists_firstKnown somewhere
  exact ⟨position, package, first, nowhere package (List.mem_of_getElem? first.declared)⟩

theorem starCandidate?_eq_none_iff :
    known.bind (fun knows => starCandidate? context knows name) = none ↔
      KnownNowhere context known name := by
  cases known with
  | none => simp [KnownNowhere]
  | some knows => simp [KnownNowhere, starCandidate?]

theorem FirstKnown.starCandidate?_eq (first : FirstKnown context known name position package) :
    known.bind (fun knows => starCandidate? context knows name) =
      some (package ++ "." ++ name) := by
  obtain ⟨knows, rfl, -⟩ := first.knows
  obtain ⟨inside, here⟩ := List.getElem?_eq_some_iff.mp first.declared
  refine List.find?_eq_some_iff_getElem.mpr ⟨knows_some.mp first.knows, position, by simpa, ?_⟩
  refine ⟨by simp [here], fun earlier less => ?_⟩
  have unknown := first.first earlier less _ (List.getElem?_eq_getElem (Nat.lt_trans less inside))
  simpa using unknown

/-! ### Rules -/

/-- What decides about a reference. -/
inductive Rule where
  | primitive
  | wrapper
  | singleImport
  /-- The star import at a position, counted from the front. -/
  | starImport (position : Nat)
  | javaLang
  | ownPackage
  | unclassified
  deriving DecidableEq, Repr

/-- No rule in front of the star imports applies to the class name. -/
structure LeftToStars (context : ImportContext) (name : String) : Prop where
  notBoxed : name ∉ JavaLang.boxedPrimitives
  notImported : context.find? (Text.beforeFirst '.' name) = none

/-- The rule decides that the reference stands for the type. -/
inductive ResolvesBy (context : ImportContext) (known : KnownTypes) :
    Rule → TypeReference → QualifiedType → Prop
  | primitive (text : String) :
    ResolvesBy context known .primitive (.primitive text) ⟨text, .primitive⟩
  | unclassified (text : String) :
    ResolvesBy context known .unclassified (.other text) .unclassified
  | wrapper {name : String} (boxed : name ∈ JavaLang.boxedPrimitives) :
    ResolvesBy context known .wrapper (.classOrInterface name)
      ⟨JavaLang.package ++ "." ++ name, .boxedPrimitive⟩
  | singleImport {name imported : String} (notBoxed : name ∉ JavaLang.boxedPrimitives)
    (found : context.find? (Text.beforeFirst '.' name) = some imported) :
    ResolvesBy context known .singleImport (.classOrInterface name)
      ⟨continueImport imported name, .projectReference⟩
  | starImport {name package : String} {position : Nat} (left : LeftToStars context name)
    (first : FirstKnown context known name position package) :
    ResolvesBy context known (.starImport position) (.classOrInterface name)
      ⟨package ++ "." ++ name, .projectReference⟩
  | javaLang {name : String} (left : LeftToStars context name)
    (nowhere : KnownNowhere context known name) (listed : JavaLang.contains name = true) :
    ResolvesBy context known .javaLang (.classOrInterface name)
      ⟨JavaLang.package ++ "." ++ name, .stdlibGuess⟩
  | ownPackage {name : String} (left : LeftToStars context name)
    (nowhere : KnownNowhere context known name) (notListed : JavaLang.contains name = false) :
    ResolvesBy context known .ownPackage (.classOrInterface name)
      (.inPackage context.packageName name)

/-- The answer is the one that a rule decides on. -/
theorem ResolvesBy.resolve_eq {rule : Rule}
    (decided : ResolvesBy context known rule reference type) :
    resolve reference context known = type := by
  cases decided with
  | primitive text => rfl
  | unclassified text => rfl
  | wrapper boxed => simp [resolve, resolveClass, boxed]
  | singleImport notBoxed found => simp [resolve, resolveClass, notBoxed, found]
  | starImport left first =>
    simp [resolve, resolveClass, left.notBoxed, left.notImported, first.starCandidate?_eq]
  | javaLang left nowhere listed =>
    have noCandidate := starCandidate?_eq_none_iff.mpr nowhere
    simp [resolve, resolveClass, left.notBoxed, left.notImported, noCandidate, listed]
  | ownPackage left nowhere notListed =>
    have noCandidate := starCandidate?_eq_none_iff.mpr nowhere
    simp [resolve, resolveClass, left.notBoxed, left.notImported, noCandidate, notListed]

/-- Some rule decides about every reference. -/
theorem exists_resolvesBy (reference : TypeReference) (context : ImportContext)
    (known : KnownTypes) : ∃ rule type, ResolvesBy context known rule reference type := by
  cases reference with
  | primitive text => exact ⟨_, _, .primitive text⟩
  | other text => exact ⟨_, _, .unclassified text⟩
  | classOrInterface name =>
    by_cases boxed : name ∈ JavaLang.boxedPrimitives
    · exact ⟨_, _, .wrapper boxed⟩
    cases found : context.find? (Text.beforeFirst '.' name) with
    | some imported => exact ⟨_, _, .singleImport boxed found⟩
    | none =>
      by_cases nowhere : KnownNowhere context known name
      · cases listed : JavaLang.contains name with
        | true => exact ⟨_, _, .javaLang ⟨boxed, found⟩ nowhere listed⟩
        | false => exact ⟨_, _, .ownPackage ⟨boxed, found⟩ nowhere listed⟩
      · obtain ⟨position, package, first⟩ := exists_firstKnown nowhere
        exact ⟨_, _, .starImport ⟨boxed, found⟩ first⟩

theorem resolvesBy_resolve (reference : TypeReference) (context : ImportContext)
    (known : KnownTypes) :
    ∃ rule, ResolvesBy context known rule reference (resolve reference context known) := by
  obtain ⟨rule, type, decided⟩ := exists_resolvesBy reference context known
  exact ⟨rule, decided.resolve_eq.symm ▸ decided⟩

/-- No two rules decide about one reference. -/
theorem ResolvesBy.unique {rule rule' : Rule} {type' : QualifiedType}
    (decided : ResolvesBy context known rule reference type)
    (decided' : ResolvesBy context known rule' reference type') : rule = rule' := by
  cases decided with
  | primitive text => cases decided'; rfl
  | unclassified text => cases decided'; rfl
  | wrapper boxed =>
    cases decided' with
    | wrapper => rfl
    | singleImport notBoxed => exact absurd boxed notBoxed
    | starImport left | javaLang left | ownPackage left => exact absurd boxed left.notBoxed
  | singleImport notBoxed found =>
    cases decided' with
    | wrapper boxed => exact absurd boxed notBoxed
    | singleImport => rfl
    | starImport left | javaLang left | ownPackage left => simp [left.notImported] at found
  | starImport left first =>
    cases decided' with
    | wrapper boxed => exact absurd boxed left.notBoxed
    | singleImport _ found => simp [left.notImported] at found
    | starImport _ first' => rw [first.position_eq first']
    | javaLang _ nowhere | ownPackage _ nowhere => exact absurd nowhere first.not_knownNowhere
  | javaLang left nowhere listed =>
    cases decided' with
    | wrapper boxed => exact absurd boxed left.notBoxed
    | singleImport _ found => simp [left.notImported] at found
    | starImport _ first => exact absurd nowhere first.not_knownNowhere
    | javaLang => rfl
    | ownPackage _ _ notListed => simp [listed] at notListed
  | ownPackage left nowhere notListed =>
    cases decided' with
    | wrapper boxed => exact absurd boxed left.notBoxed
    | singleImport _ found => simp [left.notImported] at found
    | starImport _ first => exact absurd nowhere first.not_knownNowhere
    | javaLang _ _ listed => simp [listed] at notListed
    | ownPackage => rfl

theorem ResolvesBy.iff_eq {rule rule' : Rule}
    (decided : ResolvesBy context known rule reference type) :
    ResolvesBy context known rule' reference type ↔ rule' = rule :=
  ⟨fun decided' => decided'.unique decided, fun same => same ▸ decided⟩

/-! ### What is known -/

/-- A rule decides the same from any two sets of known types that agree on the reference under
each star import. -/
theorem ResolvesBy.congr {rule : Rule} (decided : ResolvesBy context known rule reference type)
    (same : ∀ package ∈ context.starPackages,
      Knows known (package ++ "." ++ reference.text) ↔
        Knows known' (package ++ "." ++ reference.text)) :
    ResolvesBy context known' rule reference type := by
  have nowhere_congr (nowhere : KnownNowhere context known reference.text) :
      KnownNowhere context known' reference.text := fun package member =>
    mt (same package member).mpr (nowhere package member)
  cases decided with
  | primitive text => exact .primitive text
  | unclassified text => exact .unclassified text
  | wrapper boxed => exact .wrapper boxed
  | singleImport notBoxed found => exact .singleImport notBoxed found
  | starImport left first => exact .starImport left (first.congr same)
  | javaLang left nowhere listed => exact .javaLang left (nowhere_congr nowhere) listed
  | ownPackage left nowhere notListed => exact .ownPackage left (nowhere_congr nowhere) notListed

theorem resolve_congr (same : ∀ package ∈ context.starPackages,
      Knows known (package ++ "." ++ reference.text) ↔
        Knows known' (package ++ "." ++ reference.text)) :
    resolve reference context known = resolve reference context known' := by
  obtain ⟨rule, decided⟩ := resolvesBy_resolve reference context known
  exact (decided.congr same).resolve_eq.symm

/-- More knowledge leaves a decision as it is, or a star import takes it over under which the
name was not known before, and which is in front of the one that decided, if one did. -/
theorem ResolvesBy.mono {rule : Rule} (decided : ResolvesBy context known rule reference type)
    (more : ∀ name, Knows known name → Knows known' name) :
    ResolvesBy context known' rule reference type ∨
      ∃ name position package, reference = .classOrInterface name ∧
        FirstKnown context known' name position package ∧
        ¬ Knows known (package ++ "." ++ name) ∧
        ResolvesBy context known' (.starImport position) reference
          ⟨package ++ "." ++ name, .projectReference⟩ ∧
        ∀ previous, rule = .starImport previous → position < previous := by
  cases decided with
  | primitive text => exact .inl (.primitive text)
  | unclassified text => exact .inl (.unclassified text)
  | wrapper boxed => exact .inl (.wrapper boxed)
  | singleImport notBoxed found => exact .inl (.singleImport notBoxed found)
  | @starImport name package position left first =>
    -- The same star import comes first, or one that was passed over for not knowing the name.
    obtain ⟨earlier, bound, other, first'⟩ := first.mono more
    rcases Nat.eq_or_lt_of_le bound with rfl | less
    · obtain rfl : package = other := Option.some.inj (first.declared.symm.trans first'.declared)
      exact .inl (.starImport left first')
    · refine .inr ⟨name, earlier, other, rfl, first', ?_, .starImport left first', ?_⟩
      · exact first.first earlier less other first'.declared
      · rintro previous ⟨⟩
        exact less
  | @javaLang name left nowhere listed =>
    by_cases nowhere' : KnownNowhere context known' name
    · exact .inl (.javaLang left nowhere' listed)
    · obtain ⟨position, package, first, unknown⟩ := nowhere.exists_new nowhere'
      exact .inr ⟨name, position, package, rfl, first, unknown, .starImport left first, nofun⟩
  | @ownPackage name left nowhere notListed =>
    by_cases nowhere' : KnownNowhere context known' name
    · exact .inl (.ownPackage left nowhere' notListed)
    · obtain ⟨position, package, first, unknown⟩ := nowhere.exists_new nowhere'
      exact .inr ⟨name, position, package, rfl, first, unknown, .starImport left first, nofun⟩

/-- How the answer depends on what is known. With more known types it is the same, or it is a
name under a star import that has become known, and a star import that decides gives way only
to one in front of it. Nothing but the names under the star imports matters, and to know no
type is to know nothing. -/
theorem resolve_known (reference : TypeReference) (context : ImportContext)
    (few many : String → Bool) :
    ((∀ name, few name = true → many name = true) →
      (resolve reference context (some many) = resolve reference context (some few) ∨
        ∃ name package, reference = .classOrInterface name ∧ package ∈ context.starPackages ∧
          many (package ++ "." ++ name) = true ∧ few (package ++ "." ++ name) = false ∧
          resolve reference context (some many) =
            ⟨package ++ "." ++ name, .projectReference⟩) ∧
      ∀ position, ResolvesBy context (some few) (.starImport position) reference
          (resolve reference context (some few)) →
        ∃ earlier ≤ position, ∀ rule, ResolvesBy context (some many) rule reference
          (resolve reference context (some many)) ↔ rule = .starImport earlier) ∧
    ((∀ package ∈ context.starPackages,
        few (package ++ "." ++ reference.text) = many (package ++ "." ++ reference.text)) →
      resolve reference context (some few) = resolve reference context (some many)) ∧
    resolve reference context (some fun _ => false) = resolve reference context none := by
  refine ⟨fun more => ?_, fun same => ?_, ?_⟩
  · have known_mono : ∀ name, Knows (some few) name → Knows (some many) name := by simpa using more
    constructor
    · obtain ⟨rule, decided⟩ := resolvesBy_resolve reference context (some few)
      rcases decided.mono known_mono with
        kept | ⟨name, position, package, shape, first, unknown, taken, -⟩
      · exact .inl kept.resolve_eq
      · have known : many (package ++ "." ++ name) = true := knows_some.mp first.knows
        have new : few (package ++ "." ++ name) = false := by simpa using unknown
        exact .inr ⟨name, package, shape, List.mem_of_getElem? first.declared, known, new,
          taken.resolve_eq⟩
    · intro position decided
      rcases decided.mono known_mono with kept | ⟨name, earlier, package, -, -, -, taken, front⟩
      · exact ⟨position, Nat.le_refl position, fun rule => kept.resolve_eq.symm ▸ kept.iff_eq⟩
      · exact ⟨earlier, Nat.le_of_lt (front position rfl), fun rule =>
          taken.resolve_eq.symm ▸ taken.iff_eq⟩
  · exact resolve_congr fun package member => by simp [same package member]
  · exact resolve_congr fun package member => by simp

/-- A name of `java.lang` that is known under the second of two star imports, and then under
the first one too. -/
theorem resolve_known_sooner :
    let context : ImportContext := ⟨"p", [], ["a", "b"]⟩
    let reference : TypeReference := .classOrInterface "Object"
    let few (name : String) : Bool := name == "b.Object"
    let many (name : String) : Bool := name == "a.Object" || name == "b.Object"
    ((∀ name, few name = true → many name = true) ∧
      ResolvesBy context (some few) (.starImport 1) reference ⟨"b.Object", .projectReference⟩) ∧
      resolve reference context (some many) = ⟨"a.Object", .projectReference⟩ ∧
      (∃ earlier ≤ 1, ∀ rule, ResolvesBy context (some many) rule reference
        ⟨"a.Object", .projectReference⟩ ↔ rule = .starImport earlier) ∧
      resolve reference context (some fun _ => false) = resolve reference context none ∧
      resolve reference context none = ⟨"java.lang.Object", .stdlibGuess⟩ := by
  intro context reference few many
  have more : ∀ name, few name = true → many name = true := by simp_all [few, many]
  have first : FirstKnown context (some few) "Object" 1 "b" :=
    ⟨rfl, ⟨few, rfl, by decide⟩, by simp [context, few]⟩
  have left : LeftToStars context "Object" := ⟨by decide, by decide⟩
  have decided : ResolvesBy context (some few) (.starImport 1) reference
      ⟨"b.Object", .projectReference⟩ := .starImport left first
  have answer : resolve reference context (some many) = ⟨"a.Object", .projectReference⟩ := by
    decide
  obtain ⟨grows, -, empty⟩ := resolve_known reference context few many
  have sooner := (grows more).2 1 (decided.resolve_eq.symm ▸ decided)
  rw [answer] at sooner
  exact ⟨⟨more, decided⟩, answer, sooner, empty, by decide +kernel⟩

end JavaIndex
