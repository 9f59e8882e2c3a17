import JavaIndex.Proofs.ImportedNames
import Mathlib.Data.List.Sort
import Mathlib.Logic.Relation

/-!
# What a list of imports amounts to

The names that a list of imports brings into a file, told without the table that they are
kept in: under a simple name stands the path of the first import of a type that ends in it,
and the packages imported on demand stand in the order of their declarations. Keys of the
table increase, so that it is determined by what is found in it.

Two lists with the same first imports and the same packages on demand therefore amount to the
same. This is what lets static imports come and go, repeated imports go, and imports of a type
and of a package change places.

## Main definitions

* `Import.Introduces` — a declaration imports a type under a simple name
* `ImportContext.Records` — the names of a context are those that a list of imports brings in
* `Import.Edit` — one change of a list of imports that changes no name

## Main results

* `ImportContext.Ordered.mem_iff_lookup` — the entries of a table are what is found in it
* `ImportContext.ofImports_congr` — contexts are equal if first imports and packages are
* `ImportContext.ofImports_exact` — what a context holds, and which changes leave it alone
-/

namespace JavaIndex

/-! ### Simple names -/

namespace Import

variable {declaration : Import} {simple : String}

/-- The declaration imports one type, and the last segment of its path is the simple name. -/
def Introduces (declaration : Import) (simple : String) : Prop :=
  declaration.isStatic = false ∧ declaration.isStar = false ∧
    (Text.splitAll '.' declaration.path).getLast? = some simple

instance (declaration : Import) (simple : String) : Decidable (declaration.Introduces simple) :=
  inferInstanceAs (Decidable (_ ∧ _ ∧ _))

theorem introduces_iff : declaration.Introduces simple ↔
    declaration.isSingle ∧ declaration.simpleName = simple := by
  rw [Introduces, Text.getLast?_splitAll, Option.some_inj]
  simp [isSingle, simpleName, and_assoc]

/-- A simple name has no dot, and the path is that name or ends in a dot and that name. -/
theorem Introduces.path_cases (introduces : declaration.Introduces simple) :
    '.' ∉ simple.toList ∧
      (declaration.path = simple ∨ ∃ qualifier, declaration.path = qualifier ++ "." ++ simple) := by
  obtain ⟨-, rfl⟩ := introduces_iff.mp introduces
  unfold simpleName
  rcases Text.last_cases '.' declaration.path with absent | ⟨front, last, split, absent⟩
  · rw [Text.afterLast_of_notMem absent]
    exact ⟨absent, .inl rfl⟩
  · rw [split, Text.afterLast_append front absent]
    exact ⟨absent, .inr ⟨front, rfl⟩⟩

/-- A change of a list of imports that leaves the names alone: a static import goes, an import
of a type goes whose simple name an earlier one has, or an import of a package changes places
with an import of a type behind it. -/
inductive Edit : List Import → List Import → Prop
  | static (before after : List Import) {declaration : Import}
    (isStatic : declaration.isStatic = true) :
    Edit (before ++ declaration :: after) (before ++ after)
  | repeated (before after : List Import) {declaration earlier : Import} {simple : String}
    (introduces : declaration.Introduces simple) (member : earlier ∈ before)
    (introduced : earlier.Introduces simple) :
    Edit (before ++ declaration :: after) (before ++ after)
  | moved (before after : List Import) {star single : Import} (isStar : star.isStar = true)
    (isSingle : single.isStar = false) :
    Edit (before ++ star :: single :: after) (before ++ single :: star :: after)

end Import

/-! ### Tables -/

namespace ImportContext

variable {simple path package : String} {table : List (String × String)}
  {imports others : List Import}

theorem ordered_foldl_insertNew (declarations : List Import) (ordered : Ordered table) :
    Ordered (declarations.foldl (fun table declaration =>
      insertNew declaration.simpleName declaration.path table) table) := by
  induction declarations generalizing table with
  | nil => exact ordered
  | cons declaration rest ih => exact ih (ordered_insertNew _ _ ordered)

theorem ordered_ofImports (package : String) (imports : List Import) :
    Ordered (ofImports package imports).imports :=
  ordered_foldl_insertNew _ List.Pairwise.nil

/-- The entries of a table are what is found in it. -/
theorem Ordered.mem_iff_lookup (ordered : Ordered table) :
    (simple, path) ∈ table ↔ table.lookup simple = some path := by
  induction table with
  | nil => simp
  | cons head rest ih =>
    obtain ⟨key, value⟩ := head
    obtain ⟨ahead, behind⟩ := List.pairwise_cons.mp ordered
    rw [Cache.lookup_cons_eq, List.mem_cons, ih behind]
    by_cases same : simple = key
    · subst same
      have absent : rest.lookup simple = none := lookup_of_less ahead
      simp [absent, eq_comm]
    · simp [same]

theorem Ordered.eq_of_lookup {table' : List (String × String)} (ordered : Ordered table)
    (ordered' : Ordered table') (same : ∀ simple, table.lookup simple = table'.lookup simple) :
    table = table' := by
  have asymmetric {one two : String × String} (less : Text.compare one.1 two.1 = .lt) :
      Text.compare two.1 one.1 ≠ .lt := Std.OrientedCmp.not_lt_of_lt less
  have irreflexive : Std.Irrefl fun one two : String × String =>
      Text.compare one.1 two.1 = .lt := ⟨fun _ less => asymmetric less less⟩
  have antisymmetric : Std.Antisymm fun one two : String × String =>
      Text.compare one.1 two.1 = .lt := ⟨fun _ _ less greater => absurd greater (asymmetric less)⟩
  -- Ordered lists with the same members are the same, and the members are what is found.
  apply List.Pairwise.eq_of_mem_iff ordered ordered'
  rintro ⟨simple, path⟩
  rw [ordered.mem_iff_lookup, ordered'.mem_iff_lookup, same]

/-! ### Contexts -/

/-- The path under a simple name is that of the first import that introduces it. -/
theorem find?_ofImports_eq (package : String) (imports : List Import) (simple : String) :
    (ofImports package imports).find? simple =
      (imports.find? fun declaration => declaration.Introduces simple).map Import.path := by
  simp only [find?_ofImports, Import.introduces_iff]

/-- The package, the imports under their simple names and the packages on demand of a context
are those that a list of imports brings in. -/
structure Records (context : ImportContext) (package : String) (imports : List Import) :
    Prop where
  packageName : context.packageName = package
  undotted : ∀ entry ∈ context.imports, '.' ∉ entry.1.toList
  first : ∀ simple path, (simple, path) ∈ context.imports ↔ ∃ declaration,
    imports.find? (fun declaration => declaration.Introduces simple) = some declaration ∧
      declaration.path = path
  ending : ∀ entry ∈ context.imports,
    entry.2 = entry.1 ∨ ∃ qualifier, entry.2 = qualifier ++ "." ++ entry.1
  found : ∀ simple path, context.find? simple = some path ↔ (simple, path) ∈ context.imports
  stars : context.starPackages = (imports.filter fun declaration =>
    declaration.isStatic = false ∧ declaration.isStar = true).map Import.path

theorem records_ofImports (package : String) (imports : List Import) :
    (ofImports package imports).Records package imports := by
  have found (simple path : String) : (ofImports package imports).find? simple = some path ↔
      (simple, path) ∈ (ofImports package imports).imports :=
    (ordered_ofImports package imports).mem_iff_lookup.symm
  have first (simple path : String) : (simple, path) ∈ (ofImports package imports).imports ↔
      ∃ declaration, imports.find? (fun declaration => declaration.Introduces simple) =
        some declaration ∧ declaration.path = path := by
    rw [← found, find?_ofImports_eq, Option.map_eq_some_iff]
  have introduced {simple path : String}
      (member : (simple, path) ∈ (ofImports package imports).imports) :
      ∃ declaration : Import, declaration.Introduces simple ∧ declaration.path = path := by
    obtain ⟨declaration, isFirst, rfl⟩ := (first simple path).mp member
    exact ⟨declaration, by simpa using List.find?_some isFirst, rfl⟩
  constructor
  case packageName => rfl
  case undotted =>
    rintro ⟨simple, path⟩ member
    obtain ⟨declaration, introduces, -⟩ := introduced member
    exact introduces.path_cases.1
  case first => exact first
  case ending =>
    rintro ⟨simple, path⟩ member
    obtain ⟨declaration, introduces, rfl⟩ := introduced member
    exact introduces.path_cases.2
  case found => exact found
  case stars =>
    have onDemand : Import.isOnDemand = fun declaration : Import =>
        decide (declaration.isStatic = false ∧ declaration.isStar = true) := by
      funext declaration
      simp [Import.isOnDemand]
    rw [← onDemand]
    rfl

/-- Lists of imports amount to the same if they have the same first imports and packages. -/
theorem ofImports_congr
    (first : ∀ simple, (imports.find? fun declaration => declaration.Introduces simple) =
      others.find? fun declaration => declaration.Introduces simple)
    (stars : imports.filter Import.isOnDemand = others.filter Import.isOnDemand) :
    ofImports package imports = ofImports package others := by
  have tables : (ofImports package imports).imports = (ofImports package others).imports := by
    apply (ordered_ofImports package imports).eq_of_lookup (ordered_ofImports package others)
    intro simple
    have same := find?_ofImports_eq package imports simple
    rw [first, ← find?_ofImports_eq package] at same
    exact same
  rw [ofImports, ofImports, mk.injEq]
  exact ⟨rfl, tables, by rw [stars]⟩

end ImportContext

namespace Import.Edit

variable {imports others : List Import}

theorem find?_eq (edit : Edit imports others) (simple : String) :
    (imports.find? fun declaration => declaration.Introduces simple) =
      others.find? fun declaration => declaration.Introduces simple := by
  cases edit with
  | static before after isStatic =>
    rw [List.find?_append, List.find?_append,
      List.find?_cons_of_neg (by simp [Introduces, isStatic])]
  | @repeated before after declaration earlier other introduces member introduced =>
    rw [List.find?_append, List.find?_append]
    by_cases same : declaration.Introduces simple
    · obtain rfl : other = simple :=
        (introduces_iff.mp introduces).2.symm.trans (introduces_iff.mp same).2
      have found : (before.find? fun declaration => declaration.Introduces other).isSome :=
        List.find?_isSome.mpr ⟨earlier, member, by simpa using introduced⟩
      rw [Option.or_of_isSome found, Option.or_of_isSome found]
    · rw [List.find?_cons_of_neg (by simpa using same)]
  | @moved before after star single isStar isSingle =>
    have passed : ¬ star.Introduces simple := by simp [Introduces, isStar]
    rw [List.find?_append, List.find?_append, List.find?_cons_of_neg (by simpa using passed)]
    by_cases same : single.Introduces simple
    · rw [List.find?_cons_of_pos (by simpa using same),
        List.find?_cons_of_pos (by simpa using same)]
    · rw [List.find?_cons_of_neg (by simpa using same),
        List.find?_cons_of_neg (by simpa using same),
        List.find?_cons_of_neg (by simpa using passed)]

theorem filter_isOnDemand (edit : Edit imports others) :
    imports.filter isOnDemand = others.filter isOnDemand := by
  cases edit with
  | static before after isStatic => simp [isOnDemand, isStatic]
  | repeated before after introduces => simp [isOnDemand, introduces.2.1]
  | moved before after isStar isSingle => simp [List.filter_cons, isOnDemand, isSingle]

end Import.Edit

namespace ImportContext

/-- The context of a list of imports holds, under each simple name, the path of the first one
that introduces it, and the packages on demand in order; and it is the same for any list that
comes from this one by changes that leave the names alone, or the other way round. -/
theorem ofImports_exact (package : String) (imports : List Import) :
    (ofImports package imports).Records package imports ∧
      ∀ others, Relation.EqvGen Import.Edit imports others →
        ofImports package imports = ofImports package others := by
  refine ⟨records_ofImports package imports, fun others edits => ?_⟩
  induction edits with
  | rel _ _ edit => exact ofImports_congr edit.find?_eq edit.filter_isOnDemand
  | refl _ => rfl
  | symm _ _ _ same => exact same.symm
  | trans _ _ _ _ _ first second => exact first.trans second

/-- Two imports of one simple name with a static and a star import around them; the static one
and the second of the two go, and the star import moves to the end. -/
theorem ofImports_exact_duplicates :
    let imports : List Import := [⟨"a.b.Foo", false, false⟩, ⟨"s.Foo", true, false⟩,
      ⟨"q", false, true⟩, ⟨"c.Foo", false, false⟩, ⟨"Top", false, false⟩]
    let others : List Import :=
      [⟨"a.b.Foo", false, false⟩, ⟨"Top", false, false⟩, ⟨"q", false, true⟩]
    Relation.EqvGen Import.Edit imports others ∧
      ofImports "p" imports = ofImports "p" others ∧
      (ofImports "p" imports).Records "p" imports ∧
      (ofImports "p" imports).imports = [("Foo", "a.b.Foo"), ("Top", "Top")] ∧
      (ofImports "p" imports).starPackages = ["q"] := by
  intro imports others
  have edits : Relation.EqvGen Import.Edit imports others :=
    .trans _ _ _ (.rel _ _ (.static [⟨"a.b.Foo", false, false⟩] _ rfl)) <|
      .trans _ _ _ (.rel _ _ (.repeated [⟨"a.b.Foo", false, false⟩, ⟨"q", false, true⟩] _
        (by decide : Import.Introduces ⟨"c.Foo", false, false⟩ "Foo") List.mem_cons_self
        (by decide))) <|
      .rel _ _ (.moved [⟨"a.b.Foo", false, false⟩] [] rfl rfl)
  obtain ⟨records, unchanged⟩ := ofImports_exact "p" imports
  exact ⟨edits, unchanged others edits, records, by decide, by decide⟩

end ImportContext

end JavaIndex
