import JavaIndex.Java.Node
import JavaIndex.Text.Cut
import JavaIndex.TypeReference
import Mathlib.Algebra.Order.Group.Multiset
import Mathlib.Data.Multiset.Bind
import Mathlib.Tactic.Abel

/-!
# Mentions of types, counted

Nodes of a tree mention types, and references tell of them. Both sides are counted here, and the
counts are compared. A name of a type is a segment of a reference to a class, unless it is the
name of a type parameter or `var`: these are told in references to no class, which `void` and `?`
are told in too. All counts add up over nodes and over references, so the comparison can be made
part by part.

## Main definitions

* `Java.typeNames`, `Java.parameterNames`, `Java.numberOf` — what nodes mention
* `Java.segmentNames`, `Java.otherTexts` — what references tell
* `Java.Balance` — the counts agree, given the names told in references to no class
* `Java.Accounts` — the counts agree

## Main results

* `Java.Balance.add`, `Java.Tells.add` — balances of parts are balances of the whole
* `Java.tells_add_iff` — more nodes need more references, unless they mention nothing
-/

namespace JavaIndex

/-! ### What references tell -/

namespace TypeReference

/-- The segments of the name of a class. -/
def segments : TypeReference → List String
  | classOrInterface text => Text.splitAll '.' text
  | _ => []

/-- The text of a reference to no class and no primitive type. -/
def otherText : TypeReference → List String
  | other text => [text]
  | _ => []

/-- Whether a reference is to a primitive type. -/
def isPrimitive : TypeReference → Bool
  | primitive _ => true
  | _ => false

end TypeReference

namespace Java

open Multiset (replicate)

/-- The segments of all classes that are referred to. -/
def segmentNames (references : Multiset TypeReference) : Multiset String :=
  references.bind fun reference => ↑reference.segments

/-- The texts of all references to something else. -/
def otherTexts (references : Multiset TypeReference) : Multiset String :=
  references.bind fun reference => ↑reference.otherText

/-! ### What nodes mention -/

/-- The names of types. -/
def typeNames (nodes : Multiset Node) : Multiset String :=
  (nodes.filter fun node => node.kind? = some .typeIdentifier).map Node.text

/-- The names that type parameters declare. -/
def parameterNames (nodes : Multiset Node) : Multiset String :=
  typeNames ((nodes.filter fun node => node.kind? = some .typeParameter).bind fun node =>
    ↑node.children)

/-- The number of nodes of one kind. -/
def numberOf (kind : Kind) (nodes : Multiset Node) : ℕ :=
  nodes.countP fun node => node.kind? = some kind

/-- Whether nodes of the kind are primitive types. -/
def Kind.isPrimitive : Kind → Bool
  | integralType | floatingPointType | booleanType => true
  | _ => false

/-- Whether nodes of the kind mention a type on their own. -/
def Kind.isMention (kind : Kind) : Bool :=
  kind.isPrimitive || [typeIdentifier, voidType, wildcard].contains kind

/-- Whether a node mentions a type on its own. -/
def Node.isMention (node : Node) : Bool :=
  node.kind?.any Kind.isMention

/-! ### Comparing both -/

/-- The references tell what the nodes mention, each mention once. The names in `elsewhere` are
told in references to no class. -/
structure Balance (nodes : Multiset Node) (elsewhere : Multiset String)
    (references : Multiset TypeReference) : Prop where
  names : typeNames nodes = segmentNames references + elsewhere
  others : otherTexts references = elsewhere + replicate (numberOf .voidType nodes) "void" +
    replicate (numberOf .wildcard nodes) "?"
  primitives : references.countP (·.isPrimitive) = nodes.countP (·.kind?.any Kind.isPrimitive)

/-- The references tell what the nodes mention, each mention once. Names in references to no class
are those of type parameters, which are given, and a number of times `var`. -/
def Tells (nodes : Multiset Node) (parameters : Multiset String)
    (references : Multiset TypeReference) : Prop :=
  ∃ vars, Balance nodes (parameters + replicate vars "var") references

/-! ### Adding up -/

section Balance

variable {node : Node} {nodes nodes' : Multiset Node}
  {elsewhere elsewhere' parameters parameters' : Multiset String}
  {references references' : Multiset TypeReference}

@[simp]
theorem typeNames_add : typeNames (nodes + nodes') = typeNames nodes + typeNames nodes' := by
  simp [typeNames]

@[simp]
theorem parameterNames_add :
    parameterNames (nodes + nodes') = parameterNames nodes + parameterNames nodes' := by
  simp [parameterNames]

@[simp]
theorem numberOf_add (kind : Kind) :
    numberOf kind (nodes + nodes') = numberOf kind nodes + numberOf kind nodes' :=
  Multiset.countP_add ..

@[simp]
theorem segmentNames_add : segmentNames (references + references') =
    segmentNames references + segmentNames references' :=
  Multiset.add_bind ..

@[simp]
theorem otherTexts_add : otherTexts (references + references') =
    otherTexts references + otherTexts references' :=
  Multiset.add_bind ..

theorem Balance.add (left : Balance nodes elsewhere references)
    (right : Balance nodes' elsewhere' references') :
    Balance (nodes + nodes') (elsewhere + elsewhere') (references + references') where
  names := by
    rw [typeNames_add, segmentNames_add, left.names, right.names]
    exact add_add_add_comm ..
  others := by
    rw [otherTexts_add, numberOf_add, numberOf_add, Multiset.replicate_add,
      Multiset.replicate_add, left.others, right.others]
    abel
  primitives := by
    rw [Multiset.countP_add, Multiset.countP_add, left.primitives, right.primitives]

theorem Tells.add (left : Tells nodes parameters references)
    (right : Tells nodes' parameters' references') :
    Tells (nodes + nodes') (parameters + parameters') (references + references') := by
  obtain ⟨vars, left⟩ := left
  obtain ⟨vars', right⟩ := right
  refine ⟨vars + vars', ?_⟩
  rw [Multiset.replicate_add, add_add_add_comm]
  exact left.add right

/-! ### Nodes without mentions -/

theorem Node.isMention_eq_false : node.isMention = false ↔
    node.kind? ≠ some .typeIdentifier ∧ node.kind? ≠ some .voidType ∧
      node.kind? ≠ some .wildcard ∧ node.kind?.any Kind.isPrimitive = false := by
  unfold Node.isMention
  cases node.kind? with
  | none => simp
  | some kind => cases kind <;> simp [Kind.isMention, Kind.isPrimitive]

/-- Nodes mention nothing if all counts of mentions are zero. -/
theorem silent_iff : (∀ node ∈ nodes, node.isMention = false) ↔
    typeNames nodes = 0 ∧ numberOf .voidType nodes = 0 ∧ numberOf .wildcard nodes = 0 ∧
      nodes.countP (·.kind?.any Kind.isPrimitive) = 0 := by
  simp only [typeNames, numberOf, Multiset.map_eq_zero, Multiset.filter_eq_nil,
    Multiset.countP_eq_zero, Node.isMention_eq_false, Bool.not_eq_true, ← forall_and]

theorem Balance.of_silent (silent : ∀ node ∈ nodes, node.isMention = false) :
    Balance nodes 0 0 := by
  obtain ⟨names, voids, wildcards, primitives⟩ := silent_iff.mp silent
  refine ⟨?_, ?_, ?_⟩
  · rw [names]
    rfl
  · rw [voids, wildcards]
    rfl
  · rw [primitives]
    rfl

theorem typeNames_eq_zero :
    typeNames nodes = 0 ↔ ∀ node ∈ nodes, node.kind? ≠ some .typeIdentifier := by
  rw [typeNames, Multiset.map_eq_zero, Multiset.filter_eq_nil]

theorem typeNames_singleton (isName : node.kind? = some .typeIdentifier) :
    typeNames {node} = {node.text} := by
  rw [typeNames, Multiset.filter_eq_self.mpr (by simpa using isName), Multiset.map_singleton]

theorem parameterNames_eq_zero (none : ∀ node ∈ nodes, node.kind? ≠ some .typeParameter) :
    parameterNames nodes = 0 := by
  rw [parameterNames, Multiset.filter_eq_nil.mpr none]
  rfl

theorem Balance.tells (balance : Balance nodes parameters references) :
    Tells nodes parameters references :=
  ⟨0, by simpa using balance⟩

/-! ### Single nodes and further nodes -/

/-- One node and one reference. -/
theorem Balance.single {kind : Kind} (isKind : node.kind? = some kind) {reference : TypeReference}
    (names : (if kind = .typeIdentifier then {node.text} else 0) = ↑reference.segments + elsewhere)
    (others : ↑reference.otherText =
      elsewhere + replicate (if kind = .voidType then 1 else 0) "void" +
        replicate (if kind = .wildcard then 1 else 0) "?")
    (primitives : reference.isPrimitive = kind.isPrimitive) :
    Balance {node} elsewhere ↑[reference] where
  names := by
    rw [typeNames, Multiset.filter_singleton, isKind]
    simpa [segmentNames, apply_ite (Multiset.map Node.text)] using names
  others := by
    have count (kind' : Kind) : numberOf kind' {node} = if kind = kind' then 1 else 0 := by
      simp [numberOf, Multiset.countP_eq_card_filter, Multiset.filter_singleton, isKind,
        apply_ite Multiset.card]
    rw [count, count]
    simpa [otherTexts] using others
  primitives := by
    simp [Multiset.countP_eq_card_filter, Multiset.filter_singleton, isKind, primitives,
      apply_ite Multiset.card]

/-- Further nodes are told by the same references only if they mention nothing. -/
theorem tells_add_iff {more : Multiset Node}
    (tells : Tells nodes (parameterNames nodes) references)
    (declared : typeNames more = 0 → parameterNames more = 0) :
    Tells (nodes + more) (parameterNames (nodes + more)) references ↔
      ∀ node ∈ more, node.isMention = false := by
  constructor
  · rintro ⟨vars', balance'⟩
    obtain ⟨vars, balance⟩ := tells
    -- Each name that is more needs a `var` that is more, and the references have none to spare.
    have names := congrArg Multiset.card balance.names
    have names' := congrArg Multiset.card balance'.names
    have others := congrArg Multiset.card (balance.others.symm.trans balance'.others)
    have primitives := balance.primitives.symm.trans balance'.primitives
    simp only [typeNames_add, parameterNames_add, numberOf_add, Multiset.card_add,
      Multiset.card_replicate, Multiset.countP_add] at names names' others primitives
    refine silent_iff.mpr ⟨?_, ?_, ?_, ?_⟩
    · exact Multiset.card_eq_zero.mp (by omega)
    · omega
    · omega
    · omega
  · intro silent
    have none := declared (silent_iff.mp silent).1
    rw [parameterNames_add, none]
    simpa using tells.add (Balance.of_silent silent).tells

end Balance

/-- The references tell what the nodes mention, each mention once: the names of types are the
segments of the references to classes and, in references to no class, the names of the type
parameters and a number of times `var`; what else there is in such references is `void` and `?`,
once for each node; and the primitive types have one reference each. -/
def Accounts (nodes : List Node) (references : List TypeReference) : Prop :=
  Tells ↑nodes (parameterNames ↑nodes) ↑references

end Java

end JavaIndex
