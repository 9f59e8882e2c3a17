import JavaIndex.JavaLang
import JavaIndex.Proofs.ByteOrder
import JavaIndex.Proofs.PathOrder
import JavaIndex.Proofs.Resolution

/-!
# Searching a table

A search by halving asks the entry in the middle of a range and goes on in one half of it.
Where the entries increase, the half that is left out cannot hold the key, so that the search
decides whether the key is in the table. The table of `java.lang` increases, holds simple
names only, and none of the wrapper classes. So of the two rules of resolution that answer with
`java.lang` at most one can apply to a name.

## Main definitions

* `JavaLang.Increasing` — the entries of a table increase
* `JavaLang.InByteOrder` — their bytes increase

## Main results

* `JavaLang.searchBetween_iff`, `JavaLang.binarySearch_iff` — a search decides membership
* `JavaLang.contains_iff` — the names that are taken to belong to `java.lang`
* `JavaLang.not_mem_types_of_boxed`, `JavaLang.dot_notMem` — names that are not in the table
* `tag_resolve_eq_boxedPrimitive_iff`, `tag_resolve_eq_stdlibGuess_iff` — the two rules
* `JavaLang.contains_exact` — the search, its table and the rules
-/

namespace JavaIndex

namespace JavaLang

variable {table : Array String} {key name : String} {low high : Nat}

/-- The entries of the table increase. -/
def Increasing (table : Array String) : Prop :=
  table.toList.Pairwise (· < ·)

theorem Increasing.lt_of_getElem? (increasing : Increasing table) {i j : Nat} (less : i < j)
    {left right : String} (atLeft : table[i]? = some left) (atRight : table[j]? = some right) :
    left < right := by
  obtain ⟨inside, rfl⟩ := Array.getElem?_eq_some_iff.mp atLeft
  obtain ⟨inside', rfl⟩ := Array.getElem?_eq_some_iff.mp atRight
  exact List.pairwise_iff_getElem.mp increasing i j inside inside' less

/-- A search in a range of an increasing table finds what is in that range. -/
theorem searchBetween_iff (increasing : Increasing table) (bounded : high ≤ table.size) :
    searchBetween table key low high = true ↔
      ∃ i, low ≤ i ∧ i < high ∧ table[i]? = some key := by
  fun_induction searchBetween table key low high with
  | case1 low high nonempty middle outside =>
    have inside : middle < table.size := by omega
    simp [Array.getElem?_eq_getElem inside] at outside
  | case2 low high nonempty middle entry found equal =>
    obtain rfl : key = entry := Text.compare_eq_iff.mp equal
    exact iff_of_true rfl ⟨middle, by omega, by omega, found⟩
  | case3 low high nonempty middle entry found less ih =>
    rw [ih (by omega)]
    constructor
    · rintro ⟨i, above, below, holds⟩
      exact ⟨i, above, by omega, holds⟩
    · rintro ⟨i, above, below, holds⟩
      refine ⟨i, above, Nat.lt_of_not_le fun behind => ?_, holds⟩
      have smaller : key < entry := Text.compare_eq_lt_iff.mp less
      rcases Nat.eq_or_lt_of_le behind with rfl | later
      · rw [holds, Option.some_inj] at found
        exact absurd (found ▸ smaller) (lt_irrefl _)
      · exact absurd smaller (lt_asymm (increasing.lt_of_getElem? later found holds))
  | case4 low high nonempty middle entry found greater ih =>
    rw [ih bounded]
    constructor
    · rintro ⟨i, above, below, holds⟩
      exact ⟨i, by omega, below, holds⟩
    · rintro ⟨i, above, below, holds⟩
      refine ⟨i, Nat.lt_of_not_le fun ahead => ?_, below, holds⟩
      have larger : entry < key :=
        Text.compare_eq_lt_iff.mp (Std.OrientedCmp.lt_of_gt greater)
      rcases Nat.eq_or_lt_of_le ahead with rfl | sooner
      · rw [holds, Option.some_inj] at found
        exact absurd (found ▸ larger) (lt_irrefl _)
      · exact absurd larger (lt_asymm (increasing.lt_of_getElem? sooner holds found))
  | case5 low high empty =>
    simp only [Bool.false_eq_true, false_iff, not_exists, not_and]
    intro i above below
    omega

/-- A search decides whether the key is in an increasing table. -/
theorem binarySearch_iff (increasing : Increasing table) :
    binarySearch table key = true ↔ key ∈ table := by
  rw [binarySearch, searchBetween_iff increasing (Nat.le_refl _), Array.mem_iff_getElem?]
  constructor
  · rintro ⟨i, -, -, holds⟩
    exact ⟨i, holds⟩
  · rintro ⟨i, holds⟩
    obtain ⟨inside, -⟩ := Array.getElem?_eq_some_iff.mp holds
    exact ⟨i, Nat.zero_le i, inside, holds⟩

/-- The bytes of the entries of the table increase. -/
def InByteOrder (table : Array String) : Prop :=
  table.toList.Pairwise fun left right => Text.bytes left < Text.bytes right

instance : Decidable (InByteOrder table) :=
  inferInstanceAs (Decidable (List.Pairwise _ _))

theorem inByteOrder_iff : InByteOrder table ↔ Increasing table := by
  simp only [InByteOrder, Increasing, Text.lt_iff_bytes_lt]

/-! ### The table of `java.lang` -/

theorem ofList_lt_ofList {left right : List Char} (less : left < right) :
    String.ofList left < String.ofList right := by
  rwa [String.lt_iff_toList_lt, String.toList_ofList, String.toList_ofList]

theorem notMem_toList_ofList {c : Char} {chars : List Char} (absent : c ∉ chars) :
    c ∉ (String.ofList chars).toList := by
  rwa [String.toList_ofList]

theorem increasing_types : Increasing types := by
  -- It is enough to compare neighbours, and quicker to compare them as lists of characters.
  have neighbours : types.toList.IsChain (· < ·) := by
    simp only [types, List.isChain_cons_cons, List.IsChain.singleton, and_true]
    repeat' apply And.intro
    all_goals
      apply ofList_lt_ofList
      decide
  exact List.isChain_iff_pairwise.mp neighbours

/-- A name is taken to belong to `java.lang` if it is in the table. -/
theorem contains_iff : contains name = true ↔ name ∈ types :=
  binarySearch_iff increasing_types

theorem contains_eq_false_iff : contains name = false ↔ name ∉ types := by
  rw [← contains_iff, Bool.not_eq_true]

/-- The table and the list of the wrapper classes have no name in common. -/
theorem not_mem_types_of_boxed (boxed : name ∈ boxedPrimitives) : name ∉ types := by
  have apart : ∀ name ∈ boxedPrimitives, name ∉ types.toList := by decide +kernel
  exact fun listed => apart name boxed (Array.mem_toList_iff.mpr listed)

/-- Neither the table nor the list of the wrapper classes has a dotted name. -/
theorem dot_notMem (listed : name ∈ boxedPrimitives ∨ name ∈ types) : '.' ∉ name.toList := by
  have simple : ∀ name ∈ boxedPrimitives ++ types.toList, '.' ∉ name.toList := by
    simp only [types, boxedPrimitives, List.cons_append, List.nil_append, List.forall_mem_cons,
      List.not_mem_nil, false_implies, implies_true, and_true]
    repeat' apply And.intro
    all_goals
      apply notMem_toList_ofList
      decide
  exact simple name (List.mem_append.mpr (listed.imp_right Array.mem_toList_iff.mpr))

end JavaLang

/-! ### The rules that answer with `java.lang` -/

variable {context : ImportContext} {known : KnownTypes} {rule : Rule} {name : String}
  {type : QualifiedType}

theorem ResolvesBy.mem_boxedPrimitives
    (decided : ResolvesBy context known rule (.classOrInterface name) type)
    (tagged : type.tag = .boxedPrimitive) : name ∈ JavaLang.boxedPrimitives := by
  cases decided with
  | wrapper boxed => exact boxed
  | _ => cases tagged

theorem tag_resolve_eq_boxedPrimitive_iff :
    (resolve (.classOrInterface name) context known).tag = .boxedPrimitive ↔
      name ∈ JavaLang.boxedPrimitives := by
  constructor
  · intro tagged
    obtain ⟨rule, decided⟩ := resolvesBy_resolve (.classOrInterface name) context known
    exact decided.mem_boxedPrimitives tagged
  · intro boxed
    rw [(ResolvesBy.wrapper boxed).resolve_eq]

/-- A name of the table is guessed to belong to `java.lang` where nothing else is declared or
known of it. -/
structure GuessApplies (context : ImportContext) (known : KnownTypes) (name : String) : Prop where
  listed : name ∈ JavaLang.types
  notImported : context.find? (Text.beforeFirst '.' name) = none
  nowhere : KnownNowhere context known name

theorem ResolvesBy.guessApplies
    (decided : ResolvesBy context known rule (.classOrInterface name) type)
    (tagged : type.tag = .stdlibGuess) : GuessApplies context known name := by
  cases decided with
  | javaLang left nowhere listed =>
    exact ⟨JavaLang.contains_iff.mp listed, left.notImported, nowhere⟩
  | _ => cases tagged

/-- The guess needs no look at the wrapper classes, as none of them is in the table. -/
theorem GuessApplies.resolvesBy (applies : GuessApplies context known name) :
    ResolvesBy context known .javaLang (.classOrInterface name)
      ⟨JavaLang.package ++ "." ++ name, .stdlibGuess⟩ := by
  have notBoxed : name ∉ JavaLang.boxedPrimitives := fun boxed =>
    JavaLang.not_mem_types_of_boxed boxed applies.listed
  exact .javaLang ⟨notBoxed, applies.notImported⟩ applies.nowhere
    (JavaLang.contains_iff.mpr applies.listed)

theorem tag_resolve_eq_stdlibGuess_iff :
    (resolve (.classOrInterface name) context known).tag = .stdlibGuess ↔
      GuessApplies context known name := by
  constructor
  · intro tagged
    obtain ⟨rule, decided⟩ := resolvesBy_resolve (.classOrInterface name) context known
    exact decided.guessApplies tagged
  · intro applies
    rw [applies.resolvesBy.resolve_eq]

namespace JavaLang

/-- The names that are taken to belong to `java.lang`. Texts compare as their bytes do, the table
increases in that order, and a search decides membership in every table that does; so it finds
the names of the table and no others. None of them is a wrapper class: each of the two tags is
given under a condition of its own, and no name meets both. -/
theorem contains_exact :
    (∀ left right, Text.compare left right = .lt ↔ Text.bytes left < Text.bytes right) ∧
      InByteOrder types ∧
      (∀ table, InByteOrder table → ∀ key, binarySearch table key = true ↔ key ∈ table) ∧
      (∀ name, contains name = true ↔ name ∈ types) ∧
      (∀ name ∈ boxedPrimitives, name ∉ types) ∧
      ∀ name context known,
        ((resolve (.classOrInterface name) context known).tag = .boxedPrimitive ↔
          name ∈ boxedPrimitives) ∧
        ((resolve (.classOrInterface name) context known).tag = .stdlibGuess ↔
          GuessApplies context known name) := by
  refine ⟨fun left right => ?_, inByteOrder_iff.mpr increasing_types, fun table ordered key => ?_,
    fun name => contains_iff, fun name => not_mem_types_of_boxed, fun name context known => ?_⟩
  · rw [Text.compare_eq_lt_iff, Text.lt_iff_bytes_lt]
  · exact binarySearch_iff (inByteOrder_iff.mp ordered)
  · exact ⟨tag_resolve_eq_boxedPrimitive_iff, tag_resolve_eq_stdlibGuess_iff⟩

/-- Capital letters come before small ones, and a character of three bytes before one of four,
which a comparison of 16-bit units would put first. -/
theorem contains_exact_planes :
    let table := #["CloneNotSupportedException", "Cloneable", "ﾊ", "𝒳"]
    let context : ImportContext := ⟨"p", [], []⟩
    (InByteOrder table ∧ "Integer" ∈ boxedPrimitives) ∧
      (binarySearch table "Cloneable" = true ∧ binarySearch table "𝒳" = true ∧
        binarySearch table "Clone" = false) ∧
      "Integer" ∉ types ∧
      (resolve (.classOrInterface "Integer") context none).tag = .boxedPrimitive ∧
      (resolve (.classOrInterface "Cloneable") context none).tag = .stdlibGuess := by
  intro table context
  obtain ⟨-, -, search, found, apart, rules⟩ := contains_exact
  have ordered : InByteOrder table := by decide
  have absent : "Clone" ∉ table := by simp [table]
  have boxed : "Integer" ∈ boxedPrimitives := by decide
  have listed : "Cloneable" ∈ types := (found _).mp (by decide +kernel)
  have guessed : GuessApplies context none "Cloneable" :=
    ⟨listed, by decide, by simp [KnownNowhere, context]⟩
  refine ⟨⟨ordered, boxed⟩, ⟨?_, ?_, ?_⟩, apart _ boxed, ?_, ?_⟩
  · exact (search table ordered _).mpr (by simp [table])
  · exact (search table ordered _).mpr (by simp [table])
  · exact Bool.eq_false_iff.mpr (mt (search table ordered _).mp absent)
  · exact (rules _ context none).1.mpr boxed
  · exact (rules _ context none).2.mpr guessed

end JavaLang

end JavaIndex
