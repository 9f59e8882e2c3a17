import JavaIndex.Proofs.Caches
import JavaIndex.Proofs.Cuts
import JavaIndex.Proofs.Resolution

/-!
# Names that are imported

A single-type import is filed under the last segment of its path and looked up under the first
segment of a name. Where the two are the same, the path of the import takes the place of that
segment and the rest of the name follows it. Of several imports with one last segment the
first one counts.

The table of imports is kept in the order of its keys, and adding to it relies on that order:
the place where a new key would go is the only one where it can be already.

## Main definitions

* `Import.Brings` — a declaration imports the first segment of a name

## Main results

* `ImportContext.lookup_insertNew` — the table after one more import
* `ImportContext.find?_ofImports` — the path imported under a simple name
* `continueImport_append` — the name that continues an import
* `resolve_imported` — names whose first segment is imported
-/

namespace JavaIndex

namespace ImportContext

variable {simple path asked : String} {table : List (String × String)}

/-! ### The table of imports -/

/-- The keys of a table increase. -/
def Ordered (table : List (String × String)) : Prop :=
  table.Pairwise fun left right => Text.compare left.1 right.1 = .lt

theorem mem_insertNew {entry : String × String} (member : entry ∈ insertNew simple path table) :
    entry = (simple, path) ∨ entry ∈ table := by
  induction table with
  | nil => exact .inl (List.mem_singleton.mp member)
  | cons head rest ih =>
    unfold insertNew at member
    split at member
    · exact List.mem_cons.mp member
    · exact .inr member
    · rcases List.mem_cons.mp member with rfl | later
      · exact .inr List.mem_cons_self
      · exact (ih later).imp_right (List.mem_cons_of_mem head)

theorem ordered_insertNew (simple path : String) (ordered : Ordered table) :
    Ordered (insertNew simple path table) := by
  induction table with
  | nil => exact List.pairwise_singleton _ _
  | cons head rest ih =>
    obtain ⟨ahead, behind⟩ := List.pairwise_cons.mp ordered
    unfold insertNew
    split
    · rename_i less
      refine List.pairwise_cons.mpr ⟨?_, ordered⟩
      rintro other (_ | ⟨_, later⟩)
      · exact less
      · exact Std.TransCmp.lt_trans less (ahead other later)
    · exact ordered
    · rename_i greater
      have below : Text.compare head.1 simple = .lt := Std.OrientedCmp.lt_of_gt greater
      refine List.pairwise_cons.mpr ⟨fun other member => ?_, ih behind⟩
      rcases mem_insertNew member with rfl | later
      · exact below
      · exact ahead other later

theorem lookup_of_less (less : ∀ entry ∈ table, Text.compare asked entry.1 = .lt) :
    table.lookup asked = none := by
  induction table with
  | nil => rfl
  | cons head rest ih =>
    obtain ⟨before, later⟩ := List.forall_mem_cons.mp less
    have differs : asked ≠ head.1 := by
      rintro rfl
      simp [Text.compare_eq_iff.mpr] at before
    rw [Cache.lookup_cons_eq, if_neg differs, ih later]

/-- A new import is found under its simple name, unless that name is there already. -/
theorem lookup_insertNew (ordered : Ordered table) : (insertNew simple path table).lookup asked =
    (table.lookup asked).or (if asked = simple then some path else none) := by
  induction table with
  | nil => simp [insertNew, Cache.lookup_cons_eq]
  | cons head rest ih =>
    obtain ⟨key, value⟩ := head
    obtain ⟨ahead, behind⟩ := List.pairwise_cons.mp ordered
    unfold insertNew
    split
    · rename_i less
      have absent : ((key, value) :: rest).lookup simple = none :=
        lookup_of_less (List.forall_mem_cons.mpr
          ⟨less, fun other later => Std.TransCmp.lt_trans less (ahead other later)⟩)
      rw [Cache.lookup_cons_eq]
      by_cases same : asked = simple
      · rw [if_pos same, if_pos same, same, absent, Option.none_or]
      · rw [if_neg same, if_neg same, Option.or_none]
    · rename_i equal
      obtain rfl : simple = key := Text.compare_eq_iff.mp equal
      rw [Cache.lookup_cons_eq]
      by_cases same : asked = simple
      · rw [if_pos same, if_pos same, Option.some_or]
      · rw [if_neg same, if_neg same, Option.or_none]
    · rw [Cache.lookup_cons_eq, Cache.lookup_cons_eq, ih behind]
      by_cases same : asked = key
      · rw [if_pos same, if_pos same, Option.some_or]
      · rw [if_neg same, if_neg same]

theorem lookup_foldl_insertNew (declarations : List Import) (ordered : Ordered table) :
    (declarations.foldl (fun table declaration =>
        insertNew declaration.simpleName declaration.path table) table).lookup asked =
      (table.lookup asked).or
        ((declarations.find? fun declaration => declaration.simpleName = asked).map
          Import.path) := by
  -- The table is general, since what it has already wins over every later import.
  induction declarations generalizing table with
  | nil => simp
  | cons declaration rest ih =>
    rw [List.foldl_cons, ih (ordered_insertNew _ _ ordered), lookup_insertNew ordered,
      Option.or_assoc]
    by_cases same : asked = declaration.simpleName
    · rw [if_pos same, Option.some_or, List.find?_cons_of_pos (by simp [same]), Option.map_some]
    · rw [if_neg same, Option.none_or, List.find?_cons_of_neg (by simp [Ne.symm same])]

/-- Under a simple name is the path of the first single-type import that ends in it. -/
theorem find?_ofImports (package : String) (declarations : List Import) (simple : String) :
    (ofImports package declarations).find? simple =
      (declarations.find? fun declaration =>
        declaration.isSingle ∧ declaration.simpleName = simple).map Import.path := by
  rw [find?, ofImports, lookup_foldl_insertNew _ List.Pairwise.nil, List.find?_filter]
  simp only [List.lookup_nil, Option.none_or, decide_eq_true_eq]

end ImportContext

/-! ### Names that continue an import -/

/-- The declaration imports one type, and the last segment of its path is the first segment of
the name. -/
def Import.Brings (declaration : Import) (name : String) : Prop :=
  declaration.isStatic = false ∧ declaration.isStar = false ∧
    (Text.splitAll '.' declaration.path).getLast? = (Text.splitAll '.' name).head?

instance (declaration : Import) (name : String) : Decidable (declaration.Brings name) :=
  inferInstanceAs (Decidable (_ ∧ _ ∧ _))

theorem Import.brings_iff {declaration : Import} {name : String} : declaration.Brings name ↔
    declaration.isSingle ∧ declaration.simpleName = Text.beforeFirst '.' name := by
  rw [Brings, Text.getLast?_splitAll, Text.head?_splitAll, Option.some_inj]
  simp [isSingle, simpleName, and_assoc]

/-- Behind the path of an import comes what is behind its last segment in a name. -/
theorem continueImport_append (imported rest : String) :
    continueImport imported (Text.afterLast '.' imported ++ rest) = imported ++ rest := by
  unfold continueImport
  rcases Text.last_cases '.' imported with absent | ⟨front, last, rfl, absent⟩
  · rw [Text.cutLast_of_notMem absent, Text.afterLast_of_notMem absent]
  · rw [Text.cutLast_append front absent, Text.afterLast_append front absent]
    exact String.append_assoc.symm

/-- A name whose first segment is imported stands for the path of the first such import,
followed by the rest of the name, in any package, beside any other imports and whatever else
is known. The wrapper classes are no such names. -/
theorem resolve_imported {imports : List Import} {name : String}
    (notBoxed : name ∉ JavaLang.boxedPrimitives)
    (imported : ∃ declaration ∈ imports, declaration.Brings name) :
    ∃ declaration segment rest,
      imports.find? (fun declaration => declaration.Brings name) = some declaration ∧
      (Text.splitAll '.' name).head? = some segment ∧ name = segment ++ rest ∧
      ∀ package known, resolve (.classOrInterface name) (.ofImports package imports) known =
        ⟨declaration.path ++ rest, .projectReference⟩ := by
  obtain ⟨rest, split⟩ := Text.exists_beforeFirst '.' name
  cases first : imports.find? fun declaration => declaration.Brings name with
  | none =>
    obtain ⟨declaration, member, brings⟩ := imported
    exact absurd brings (by simpa using List.find?_eq_none.mp first declaration member)
  | some declaration =>
    have brings : declaration.Brings name := by simpa using List.find?_some first
    refine ⟨declaration, Text.beforeFirst '.' name, rest, rfl, Text.head?_splitAll '.' name, split,
      fun package known => ?_⟩
    have found : (ImportContext.ofImports package imports).find? (Text.beforeFirst '.' name) =
        some declaration.path := by
      simp only [ImportContext.find?_ofImports, ← Import.brings_iff, first, Option.map_some]
    -- Both cuts leave the same segment: the last one of the path is the first one of the name.
    have continues : name = Text.afterLast '.' declaration.path ++ rest := by
      rw [← Import.simpleName, (Import.brings_iff.mp brings).2]
      exact split
    rw [(ResolvesBy.singleImport notBoxed found).resolve_eq, continues, continueImport_append]

/-- A nested type of an imported one, beside a static import, a star import and a later import
with the same last segment; and one of a type that is imported from no package. -/
theorem resolve_imported_nested :
    let imports : List Import := [⟨"x.Foo", true, false⟩, ⟨"y.Foo", false, true⟩,
      ⟨"a.b.Foo", false, false⟩, ⟨"c.Foo", false, false⟩, ⟨"Top", false, false⟩]
    (("Foo.Bar.Baz" ∉ JavaLang.boxedPrimitives ∧
        ∃ declaration ∈ imports, declaration.Brings "Foo.Bar.Baz") ∧
      ∀ package known,
        resolve (.classOrInterface "Foo.Bar.Baz") (.ofImports package imports) known =
          ⟨"a.b.Foo.Bar.Baz", .projectReference⟩) ∧
    (("Top.In" ∉ JavaLang.boxedPrimitives ∧
        ∃ declaration ∈ imports, declaration.Brings "Top.In") ∧
      ∀ package known, resolve (.classOrInterface "Top.In") (.ofImports package imports) known =
        ⟨"Top.In", .projectReference⟩) := by
  intro imports
  have answered (name path segment rest : String)
      (applies : name ∉ JavaLang.boxedPrimitives ∧
        ∃ declaration ∈ imports, declaration.Brings name)
      (pieces : (imports.find? fun declaration => declaration.Brings name) =
          some ⟨path, false, false⟩ ∧
        (Text.splitAll '.' name).head? = some segment ∧ name = segment ++ rest) :
      ∀ package known, resolve (.classOrInterface name) (.ofImports package imports) known =
        ⟨path ++ rest, .projectReference⟩ := by
    obtain ⟨declaration, front, behind, first, head, split, answers⟩ :=
      resolve_imported applies.1 applies.2
    obtain ⟨first', head', split'⟩ := pieces
    obtain rfl : declaration = ⟨path, false, false⟩ := Option.some.inj (first.symm.trans first')
    obtain rfl : front = segment := Option.some.inj (head.symm.trans head')
    obtain rfl : behind = rest := (String.append_right_inj front).mp (split.symm.trans split')
    exact answers
  have foo : "Foo.Bar.Baz" ∉ JavaLang.boxedPrimitives ∧
      ∃ declaration ∈ imports, declaration.Brings "Foo.Bar.Baz" := by decide
  have top : "Top.In" ∉ JavaLang.boxedPrimitives ∧
      ∃ declaration ∈ imports, declaration.Brings "Top.In" := by decide
  exact ⟨⟨foo, answered _ "a.b.Foo" "Foo" ".Bar.Baz" foo (by decide)⟩,
    ⟨top, answered _ "Top" "Top" ".In" top (by decide)⟩⟩

end JavaIndex
