import JavaIndex.FileTree
import JavaIndex.Proofs.Spellings
import Mathlib.Order.Defs.PartialOrder

/-!
# The order of paths

Paths are compared component by component, and the comparison is a total order of
their component lists: two paths are equivalent exactly if they have the same
components. It is registered as a `Preorder` on paths, so that `left ≤ right` and
`left < right` can be written for it.

## Main results

* `Component.compareLists` is oriented, transitive and decides equality
* `Path.le_total`, `Path.components_eq_of_le_of_le` — the order on paths
* `Path.components_join` — a name joined to a folder is one component more
-/

namespace JavaIndex

/-! ### Comparing texts and components -/

namespace Text

theorem lt_iff_not_lt_and_ne (left right : String) :
    left < right ↔ ¬ right < left ∧ left ≠ right := by
  constructor
  · intro less
    exact ⟨lt_asymm less, ne_of_lt less⟩
  · rintro ⟨notLess, different⟩
    exact lt_of_le_of_ne (not_lt.mp notLess) different

instance : Std.TransCmp Text.compare :=
  Std.TransOrd.compareOfLessAndEq_of_lt_trans_of_lt_iff String.lt_trans lt_iff_not_lt_and_ne

theorem compare_eq_iff {left right : String} : Text.compare left right = .eq ↔ left = right := by
  unfold Text.compare
  split_ifs with less same
  · simp [ne_of_lt less]
  · simp [same]
  · simp [same]

theorem compare_eq_lt_iff {left right : String} :
    Text.compare left right = .lt ↔ left < right := by
  unfold Text.compare
  split_ifs with less same
  · simp [less]
  · simp [less]
  · simp [less]

end Text

namespace Component

theorem eq_of_compare {left right : Component} (same : left.compare right = .eq) :
    left = right := by
  cases left <;> cases right <;> simp_all [compare]

theorem compare_self (component : Component) : component.compare component = .eq := by
  cases component <;> simp [compare]

instance : Std.LawfulEqCmp compare where
  compare_self := compare_self _
  eq_of_compare := eq_of_compare

theorem compare_swap (left right : Component) :
    left.compare right = (right.compare left).swap := by
  cases left with
  | name spelling =>
    cases right with
    | name spelling' => exact Std.OrientedOrd.eq_swap
    | _ => rfl
  | _ => cases right <;> rfl

instance : Std.TransCmp compare where
  eq_swap := compare_swap _ _
  isLE_trans {left middle right} first second := by
    -- Only three names leave a comparison of bytes; all other triples are settled by rank.
    cases left <;> cases middle <;> cases right <;> simp_all [compare]
    exact Std.TransOrd.isLE_trans first second

theorem compareLists_eq : compareLists = List.compareLex compare := by
  funext left right
  induction left generalizing right with
  | nil => cases right <;> rfl
  | cons head tail ih =>
    cases right with
    | nil => rfl
    | cons head' tail' => rw [compareLists, List.compareLex_cons_cons, ih]

instance : Std.TransCmp compareLists := by
  rw [compareLists_eq]
  infer_instance

instance : Std.LawfulEqCmp compareLists := by
  rw [compareLists_eq]
  infer_instance

end Component

/-! ### Comparing paths -/

namespace Path

variable {left middle right : Path}

instance : LE Path := ⟨fun left right => left.compare right ≠ .gt⟩

instance : LT Path := ⟨fun left right => left.compare right = .lt⟩

theorem le_iff : left ≤ right ↔ left.compare right ≠ .gt := Iff.rfl

theorem lt_iff : left < right ↔ left.compare right = .lt := Iff.rfl

theorem compare_swap (left right : Path) : left.compare right = (right.compare left).swap :=
  @Std.OrientedCmp.eq_swap _ Component.compareLists _ left.components right.components

theorem compare_eq_iff : left.compare right = .eq ↔ left.components = right.components :=
  @Std.LawfulEqCmp.compare_eq_iff_eq _ Component.compareLists _ left.components right.components

instance : Preorder Path where
  le_refl path := by
    rw [le_iff, compare_eq_iff.mpr rfl]
    decide
  le_trans left middle right first second := by
    rw [le_iff, Ne, ← Ordering.isLE_iff_ne_gt] at first second ⊢
    exact @Std.TransCmp.isLE_trans _ Component.compareLists _ _ _ _ first second
  lt_iff_le_not_ge left right := by
    rw [lt_iff, le_iff, le_iff, compare_swap right left]
    cases left.compare right <;> simp

theorem not_le_iff : ¬ left ≤ right ↔ right < left := by
  rw [le_iff, lt_iff, compare_swap right left]
  cases left.compare right <;> simp

theorem not_lt_iff : ¬ left < right ↔ right ≤ left := by
  rw [← not_le_iff, not_not]

theorem le_total (left right : Path) : left ≤ right ∨ right ≤ left := by
  by_cases below : left ≤ right
  · exact .inl below
  · exact .inr (not_le_iff.mp below).le

/-- Paths that precede each other spell the same components. -/
theorem components_eq_of_le_of_le (below : left ≤ right) (above : right ≤ left) :
    left.components = right.components := by
  rw [le_iff] at below above
  rw [compare_swap] at above
  apply compare_eq_iff.mp
  cases compared : left.compare right <;> simp_all

theorem le_of_components_eq (same : left.components = right.components) : left ≤ right := by
  rw [le_iff, compare_eq_iff.mpr same]
  decide

theorem lt_of_le_of_components_ne (below : left ≤ right)
    (different : left.components ≠ right.components) : left < right := by
  rw [← not_le_iff]
  exact fun above => different (components_eq_of_le_of_le below above)

theorem before_iff : left.before right = true ↔ left < right := by
  rw [before, beq_iff_eq, lt_iff]

end Path

/-! ### Names below a folder -/

namespace Text

section

variable {α : Type} [DecidableEq α] {mark : α}

theorem splitIn_ne_nil (mark : α) (list : List α) : splitIn mark list ≠ [] := by
  cases list with
  | nil => simp [splitIn]
  | cons head rest =>
    unfold splitIn
    split_ifs
    · simp
    · split <;> simp

theorem splitIn_append (mark : α) (before after : List α) :
    splitIn mark (before ++ mark :: after) = splitIn mark before ++ splitIn mark after := by
  induction before with
  | nil => simp [splitIn]
  | cons head rest ih =>
    rw [List.cons_append, splitIn, splitIn]
    by_cases same : head = mark
    · simp [same, ih]
    · simp only [same, if_false, ih]
      obtain ⟨piece, pieces, split⟩ := List.exists_cons_of_ne_nil (splitIn_ne_nil mark rest)
      simp [split]

theorem splitIn_of_notMem {list : List α} (absent : mark ∉ list) : splitIn mark list = [list] := by
  induction list with
  | nil => rfl
  | cons head rest ih =>
    rw [List.mem_cons, not_or] at absent
    simp [splitIn, Ne.symm absent.1, ih absent.2]

end

theorem splitAll_append (mark : Char) (before after : String) :
    splitAll mark (before ++ String.singleton mark ++ after) =
      splitAll mark before ++ splitAll mark after := by
  simp [splitAll, splitIn_append]

theorem splitAll_of_notMem {mark : Char} {text : String} (absent : mark ∉ text.toList) :
    splitAll mark text = [text] := by
  simp [splitAll, splitIn_of_notMem absent]

end Text

namespace Path

theorem slash_mem_bytes_iff {text : String} : slash ∈ Text.bytes text ↔ '/' ∈ text.toList :=
  @Text.toUInt8_mem_bytes_iff '/' (by decide) text

theorem dot_mem_bytes_iff {text : String} : dot ∈ Text.bytes text ↔ '.' ∈ text.toList :=
  @Text.toUInt8_mem_bytes_iff '.' (by decide) text

theorem isName_iff {spelling : Spelling} : Entry.isName spelling = true ↔
    spelling ≠ [] ∧ spelling ≠ [dot] ∧ spelling ≠ [dot, dot] ∧ slash ∉ spelling := by
  simp [Entry.isName, and_assoc]

theorem head?_ne_slash {spelling : Spelling} (noSlash : slash ∉ spelling) :
    spelling.head? ≠ some slash :=
  fun front => noSlash (List.mem_of_mem_head? front)

theorem pieces_of_notMem {spelling : Spelling} (noSlash : slash ∉ spelling) :
    pieces spelling = [spelling] :=
  Text.splitIn_of_notMem noSlash

theorem pieces_append (front rest : Spelling) :
    pieces (front ++ slash :: rest) = pieces front ++ pieces rest :=
  Text.splitIn_append slash front rest

theorem head?_pieces_append (spelling : Spelling) (more : List Spelling) :
    (pieces spelling ++ more).head? = (pieces spelling).head? :=
  List.head?_append_of_ne_nil _ (Text.splitIn_ne_nil slash spelling)

theorem filterMap_pieces_nil : (pieces []).filterMap componentOf = [] := rfl

theorem componentOf_name {spelling : Spelling} (isName : Entry.isName spelling = true) :
    componentOf spelling = some (.name spelling) := by
  obtain ⟨nonempty, notCurrent, notParent, -⟩ := isName_iff.mp isName
  simp [componentOf, nonempty, notCurrent, notParent]

/-- What stands behind a slash has no influence on the components in front of it. -/
theorem components_append (front rest : Spelling) :
    components ⟨front ++ slash :: rest⟩ =
      components ⟨front ++ [slash]⟩ ++ (pieces rest).filterMap componentOf := by
  have absolute : isAbsolute ⟨front ++ slash :: rest⟩ = isAbsolute ⟨front ++ [slash]⟩ := by
    cases front <;> simp [isAbsolute]
  simp only [components, absolute, pieces_append, head?_pieces_append, List.filterMap_append,
    filterMap_pieces_nil, List.append_nil, List.append_assoc]

theorem components_slash {front : Spelling} (nonempty : front ≠ []) :
    components ⟨front ++ [slash]⟩ = components ⟨front⟩ := by
  have absolute : isAbsolute ⟨front ++ [slash]⟩ = isAbsolute ⟨front⟩ := by
    cases front with
    | nil => exact absurd rfl nonempty
    | cons first rest => simp [isAbsolute]
  simp only [components, absolute, pieces_append, head?_pieces_append, List.filterMap_append,
    filterMap_pieces_nil, List.append_nil]

/-- A spelling that ends in a slash. -/
theorem exists_front_of_slash {spelling : Spelling} (ends : spelling.getLast? = some slash) :
    ∃ front, spelling = front ++ [slash] :=
  ⟨_, (List.dropLast_append_getLast? slash ends).symm⟩

/-- A name joined to a folder is one component more. -/
theorem components_join (folder : Path) {name : Spelling} (isName : Entry.isName name = true) :
    (folder.join name).components = folder.components ++ [.name name] := by
  obtain ⟨spelling⟩ := folder
  obtain ⟨nonempty, notCurrent, -, noSlash⟩ := isName_iff.mp isName
  have alone : pieces name = [name] := pieces_of_notMem noSlash
  have relative : name.head? ≠ some slash := head?_ne_slash noSlash
  have behind (front : Spelling) : components ⟨front ++ slash :: name⟩ =
      components ⟨front ++ [slash]⟩ ++ [.name name] := by
    rw [components_append, alone]
    simp [componentOf_name isName]
  unfold join
  simp only [relative, if_false]
  split_ifs with isEmpty ends
  · subst isEmpty
    rw [show components ⟨[]⟩ = [] from rfl, List.nil_append]
    have named : [name].filterMap componentOf = [.name name] := by
      simp [componentOf_name isName]
    simp [components, isAbsolute, alone, notCurrent, relative, named]
  · obtain ⟨front, cut⟩ := exists_front_of_slash ends
    rw [cut, List.append_assoc, List.singleton_append]
    exact behind front
  · rw [behind, components_slash isEmpty]

end Path

end JavaIndex
