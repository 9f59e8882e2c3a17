import JavaIndex.Proofs.Mentions
import JavaIndex.Proofs.TreeParts
import JavaIndex.Proofs.TreeShapes
import JavaIndex.Proofs.Words
import Mathlib.Algebra.BigOperators.Group.List.Basic

/-!
# Class types and their names

A class type of several parts is taken apart by two loops, one for the segments of its name and
one for its type arguments. What they read is a spine, made of the nodes that hold the type
together and the names in it, and the type arguments. The annotations in a class type are in
neither. The reference that the type makes has the names of the spine as its segments, in which
no dot can hide.

## Main definitions

* `Java.Spelled` — a tree with the shapes of the language and its words
* `Java.Visit.nodesOf`, `Java.Visit.parametersOf` — what pending visits read
* `Java.IsSpine` — the nodes that hold class types together

## Main results

* `Java.spelled_of_parse` — trees of sources are of this kind
* `Java.exists_spine` — class types have spines
* `Java.Balance.of_spine` — the reference of a class type tells its spine
-/

namespace JavaIndex.Java

/-! ### Trees of sources -/

/-- A tree with the shapes, in which words are spelled as identifiers. -/
structure Spelled (node : Node) : Prop where
  conforms : Conforms node
  words : ∀ token ∈ node.tokens, token.sort = .word → Text.isIdentifier token.text = true

theorem spelled_of_parse {source : String} {root : Node} (parsed : parse source = .ok root) :
    Spelled root where
  conforms := conforms_of_parse parsed
  words := isIdentifier_of_tokenize (tokens_of_parse parsed)

namespace Spelled

variable {node : Node}

theorem of_mem_children (spelled : Spelled node) {child : Node} (member : child ∈ node.children) :
    Spelled child := by
  obtain ⟨conforms, words⟩ := spelled
  cases conforms with
  | bare | leaf => cases member
  | branch _ _ below =>
    exact ⟨below child member, fun token inside =>
      words token (Node.mem_tokensOfList.mpr ⟨child, member, inside⟩)⟩

theorem of_mem_namedChildren (spelled : Spelled node) {child : Node}
    (member : child ∈ node.namedChildren) : Spelled child :=
  spelled.of_mem_children (List.mem_of_mem_filter member)

/-- A name is a single word, spelled as an identifier. -/
theorem exists_word (spelled : Spelled node) {kind : Kind} (isKind : node.kind? = some kind)
    (names : kind = .identifier ∨ kind = .typeIdentifier) :
    ∃ token, node = .leaf kind token ∧ token.sort = .word ∧
      Text.isIdentifier token.text = true := by
  obtain ⟨conforms, words⟩ := spelled
  cases conforms with
  | bare => cases isKind
  | branch branches =>
    obtain rfl := Option.some.inj isKind
    rcases names with rfl | rfl <;> cases branches
  | @leaf _ terminal token wellSpelled accepted =>
    obtain rfl := Option.some.inj isKind
    have isWord : token.sort = .word := by
      cases terminal with
      | name keywords =>
        rw [Terminal.accepts, Bool.and_eq_true, beq_iff_eq] at accepted
        exact accepted.1
      | _ => rcases names with rfl | rfl <;> cases wellSpelled
    exact ⟨token, rfl, isWord, words token List.mem_cons_self isWord⟩

/-- The name of a type has no dots. -/
theorem dot_notMem (spelled : Spelled node) (isName : node.kind? = some .typeIdentifier) :
    '.' ∉ node.text.toList := by
  obtain ⟨token, rfl, -, identifier⟩ := spelled.exists_word isName (.inr rfl)
  exact Text.dot_notMem_of_isIdentifier identifier

/-- Nothing is below the kinds that stand for a type on their own. -/
theorem visible_eq_singleton (spelled : Spelled node) {kind : Kind}
    (isKind : node.kind? = some kind) (alone : kind.hasBranches = false) :
    node.visible = [node] := by
  cases spelled.conforms with
  | bare | leaf => rfl
  | branch branches =>
    obtain rfl := Option.some.inj isKind
    rw [alone] at branches
    cases branches

end Spelled

/-! ### What is left to visit -/

namespace Visit

/-- A visit of a node in a tree of a source, or of a name. -/
def IsDue : Visit → Prop
  | whole node => Spelled node
  | parameterName node => node.kind? = some .typeIdentifier

/-- The parts that a visit reads. -/
def nodes : Visit → Multiset Node
  | whole node => ↑node.visible
  | parameterName node => {node}

/-- The names of type parameters among these. -/
def parameters : Visit → Multiset String
  | whole node => parameterNames ↑node.visible
  | parameterName node => {node.text}

/-- The parts that all pending visits read. -/
def nodesOf (pending : List Visit) : Multiset Node :=
  (pending.map nodes).sum

/-- The names of type parameters among these. -/
def parametersOf (pending : List Visit) : Multiset String :=
  (pending.map parameters).sum

theorem nodesOf_append (left right : List Visit) :
    nodesOf (left ++ right) = nodesOf left + nodesOf right := by
  simp [nodesOf]

theorem parametersOf_append (left right : List Visit) :
    parametersOf (left ++ right) = parametersOf left + parametersOf right := by
  simp [parametersOf]

theorem nodesOf_map_whole (nodes : List Node) :
    nodesOf (nodes.map .whole) = ↑(nodes.flatMap Node.visible) := by
  induction nodes with
  | nil => rfl
  | cons node rest ih =>
    rw [List.flatMap_cons, ← Multiset.coe_add, ← ih]
    rfl

theorem parametersOf_map_whole (nodes : List Node) :
    parametersOf (nodes.map .whole) = parameterNames ↑(nodes.flatMap Node.visible) := by
  induction nodes with
  | nil => rfl
  | cons node rest ih =>
    rw [List.flatMap_cons, ← Multiset.coe_add, parameterNames_add, ← ih]
    rfl

end Visit

open Visit (nodesOf parametersOf)

/-- Bare nodes stand beside the named ones, and nothing is below them. -/
theorem Node.coe_flatMap_visible (nodes : List Node) :
    (↑(nodes.flatMap Node.visible) : Multiset Node) =
      ↑(nodes.filter (!·.isNamed)) + ↑((nodes.filter Node.isNamed).flatMap Node.visible) := by
  induction nodes with
  | nil => rfl
  | cons node rest ih =>
    rw [List.flatMap_cons, ← Multiset.coe_add, ih]
    cases node with
    | bare token => exact (add_assoc ..).symm
    | leaf kind token => exact add_left_comm ..
    | branch kind children => exact add_left_comm ..

theorem Node.kind?_eq_none_of_mem {nodes : List Node} {mark : Node}
    (member : mark ∈ nodes.filter (!·.isNamed)) : mark.kind? = none := by
  simpa [Node.isNamed] using (List.mem_filter.mp member).2

/-! ### Class types -/

/-- Whether a part of a class type is read. -/
def isRead (part : Node) : Bool :=
  !(part.kind? == some .annotationUse)

/-- The kinds of the named nodes that class types are made of. -/
def classKinds : List (Option Kind) :=
  [some .typeIdentifier, some .scopedTypeIdentifier, some .genericType, some .typeArguments,
    some .annotationUse]

/-- The kinds of nodes that make up a class type without its type arguments. -/
def spineKinds : List (Option Kind) :=
  [none, some .typeIdentifier, some .scopedTypeIdentifier, some .genericType]

theorem isCompoundType_iff {node : Node} : isCompoundType node = true ↔
    node.kind? = some .scopedTypeIdentifier ∨ node.kind? = some .genericType := by
  rw [isCompoundType, Bool.or_eq_true, beq_iff_eq, beq_iff_eq]

theorem isRead_of_compound {node : Node} (compound : isCompoundType node = true) :
    isRead node = true := by
  rcases isCompoundType_iff.mp compound with isKind | isKind <;> simp [isRead, isKind]

theorem argumentsFrom_of_compound {node : Node} (compound : isCompoundType node = true)
    (rest : List Node) :
    argumentsFrom (node :: rest) = argumentsFrom (node.namedChildren ++ rest) := by
  have other : ¬(node.kind? == some .typeArguments) = true := by
    rcases isCompoundType_iff.mp compound with isKind | isKind <;> simp [isKind]
  rw [argumentsFrom, if_neg other, if_pos compound]

theorem segmentsFrom_of_compound {node : Node} (compound : isCompoundType node = true)
    (rest : List Node) :
    segmentsFrom (node :: rest) = segmentsFrom (node.namedChildren ++ rest) := by
  have other : ¬(node.kind? == some .typeIdentifier) = true := by
    rcases isCompoundType_iff.mp compound with isKind | isKind <;> simp [isKind]
  rw [segmentsFrom, if_neg other, if_pos compound]

/-- A class type of several parts is a branch, over nodes of few kinds. -/
theorem Spelled.eq_branch {node : Node} (spelled : Spelled node)
    (compound : isCompoundType node = true) :
    ∃ kind children, node = .branch kind children ∧
      (kind = .scopedTypeIdentifier ∨ kind = .genericType) ∧
      ∀ child ∈ node.namedChildren, child.kind? ∈ classKinds := by
  have kinds := isCompoundType_iff.mp compound
  cases spelled.conforms with
  | bare => cases compound
  | @leaf kind _ _ wellSpelled =>
    rcases kinds with isKind | isKind
    all_goals
      obtain rfl := Option.some.inj isKind
      cases wellSpelled
  | @branch kind children _ admitted =>
    have isKind : kind = .scopedTypeIdentifier ∨ kind = .genericType :=
      kinds.imp Option.some.inj Option.some.inj
    refine ⟨kind, children, rfl, isKind, fun child member => ?_⟩
    obtain ⟨below, named⟩ := List.mem_filter.mp member
    have admits := admitted child below
    obtain ⟨inner, known⟩ := Option.isSome_iff_exists.mp named
    rw [known] at admits ⊢
    rcases isKind with rfl | rfl
    · obtain rfl | rfl | rfl | rfl : inner = .typeIdentifier ∨ inner = .scopedTypeIdentifier ∨
          inner = .genericType ∨ inner = .annotationUse := by
        simpa [Kind.admits] using admits
      all_goals decide
    · obtain rfl | rfl | rfl | rfl : inner = .typeIdentifier ∨ inner = .scopedTypeIdentifier ∨
          inner = .genericType ∨ inner = .typeArguments := by
        simpa [Kind.admits] using admits
      all_goals decide

/-- The spine of a list of class types has the segments of their names; together with the type
arguments it is all that is read of them. -/
structure IsSpine (pending : List Node) (spine : Multiset Node) : Prop where
  parts : (↑((pending.filter isRead).flatMap Node.visible) : Multiset Node) =
    spine + nodesOf ((argumentsFrom pending).map .whole)
  names : typeNames spine = ↑(segmentsFrom pending)
  kinds : ∀ node ∈ spine, node.kind? ∈ spineKinds

namespace IsSpine

variable {node : Node} {rest : List Node} {spine : Multiset Node}

theorem nil : IsSpine [] 0 where
  parts := by rw [argumentsFrom]; rfl
  names := by rw [segmentsFrom]; rfl
  kinds := by simp

/-- Type arguments are no part of the spine. -/
theorem cons_arguments (tail : IsSpine rest spine)
    (isArguments : node.kind? = some .typeArguments) : IsSpine (node :: rest) spine where
  parts := by
    have read : isRead node = true := by simp [isRead, isArguments]
    rw [List.filter_cons_of_pos read, List.flatMap_cons, ← Multiset.coe_add, tail.parts,
      argumentsFrom, if_pos (beq_iff_eq.mpr isArguments)]
    exact add_left_comm ..
  names := by
    rw [tail.names, segmentsFrom]
    simp [isArguments, isCompoundType]
  kinds := tail.kinds

/-- Annotations are not even read. -/
theorem cons_annotationUse (tail : IsSpine rest spine)
    (isUse : node.kind? = some .annotationUse) : IsSpine (node :: rest) spine where
  parts := by
    have unread : ¬isRead node = true := by simp [isRead, isUse]
    rw [List.filter_cons_of_neg unread, tail.parts, argumentsFrom]
    simp [isUse, isCompoundType]
  names := by
    rw [tail.names, segmentsFrom]
    simp [isUse, isCompoundType]
  kinds := tail.kinds

theorem cons_name (tail : IsSpine rest spine) (spelled : Spelled node)
    (isName : node.kind? = some .typeIdentifier) : IsSpine (node :: rest) ({node} + spine) where
  parts := by
    have read : isRead node = true := by simp [isRead, isName]
    rw [List.filter_cons_of_pos read, List.flatMap_cons, ← Multiset.coe_add, tail.parts,
      spelled.visible_eq_singleton isName rfl, argumentsFrom, add_assoc]
    simp [isName, isCompoundType]
  names := by
    rw [typeNames_add, typeNames_singleton isName, tail.names, segmentsFrom]
    simp [isName]
  kinds := by
    simp only [Multiset.mem_add, Multiset.mem_singleton]
    rintro node (rfl | inside)
    · simp [isName, spineKinds]
    · exact tail.kinds node inside

/-- A class type of several parts gives way to its parts; the node itself and the marks between
the parts join the spine. -/
theorem cons_compound {kind : Kind} {children : List Node}
    (tail : IsSpine ((Node.branch kind children).namedChildren ++ rest) spine)
    (isKind : kind = .scopedTypeIdentifier ∨ kind = .genericType) :
    IsSpine (.branch kind children :: rest)
      ({.branch kind children} + ↑((children.filter isRead).filter (!·.isNamed)) + spine) := by
  have compound : isCompoundType (.branch kind children) = true :=
    isCompoundType_iff.mpr (isKind.imp (congrArg some) (congrArg some))
  refine ⟨?_, ?_, ?_⟩
  · have here : (↑(Node.branch kind children).visible : Multiset Node) =
        {.branch kind children} + ↑((children.filter isRead).flatMap Node.visible) := by
      rw [Node.visible, Node.reached_branch (by rcases isKind with rfl | rfl <;> rfl)]
      rcases isKind with rfl | rfl <;> rfl
    have next := tail.parts
    rw [List.filter_append, List.flatMap_append, ← Multiset.coe_add, Node.namedChildren,
      List.filter_comm] at next
    rw [List.filter_cons_of_pos (isRead_of_compound compound), List.flatMap_cons,
      ← Multiset.coe_add, here, Node.coe_flatMap_visible, argumentsFrom_of_compound compound]
    -- In front of the named children, which `next` is about, stand the node itself and its marks.
    simp only [add_assoc]
    exact congrArg _ (congrArg _ next)
  · have itself : typeNames {.branch kind children} = 0 :=
      typeNames_eq_zero.mpr (by rcases isKind with rfl | rfl <;> simp [Node.kind?])
    have marks : typeNames ↑((children.filter isRead).filter (!·.isNamed)) = 0 :=
      typeNames_eq_zero.mpr fun mark member => by simp [Node.kind?_eq_none_of_mem member]
    rw [typeNames_add, typeNames_add, itself, marks, zero_add, zero_add, tail.names,
      segmentsFrom_of_compound compound]
  · simp only [Multiset.mem_add, Multiset.mem_singleton, Multiset.mem_coe]
    rintro node ((rfl | mark) | inside)
    · rcases isKind with rfl | rfl <;> simp [Node.kind?, spineKinds]
    · rw [Node.kind?_eq_none_of_mem mark]
      decide
    · exact tail.kinds node inside

end IsSpine

/-- A class type falls apart into a spine and the type arguments. -/
theorem exists_spine (pending : List Node)
    (each : ∀ node ∈ pending, Spelled node ∧ node.kind? ∈ classKinds) :
    ∃ spine, IsSpine pending spine := by
  fun_induction argumentsFrom pending with
  | case1 => exact ⟨0, .nil⟩
  | case2 node rest isArguments ih =>
    obtain ⟨spine, tail⟩ := ih fun node member => each node (List.mem_cons_of_mem _ member)
    exact ⟨spine, tail.cons_arguments (beq_iff_eq.mp isArguments)⟩
  | case3 node rest _ compound ih =>
    obtain ⟨spelled, -⟩ := each node List.mem_cons_self
    obtain ⟨kind, children, rfl, isKind, below⟩ := spelled.eq_branch compound
    obtain ⟨spine, tail⟩ := ih fun node member => by
      rcases List.mem_append.mp member with inside | after
      · exact ⟨spelled.of_mem_namedChildren inside, below node inside⟩
      · exact each node (List.mem_cons_of_mem _ after)
    exact ⟨_, tail.cons_compound isKind⟩
  | case4 node rest noArguments noCompound ih =>
    obtain ⟨spine, tail⟩ := ih fun node member => each node (List.mem_cons_of_mem _ member)
    obtain ⟨spelled, isKind⟩ := each node List.mem_cons_self
    obtain isName | isUse :
        node.kind? = some .typeIdentifier ∨ node.kind? = some .annotationUse := by
      simp only [isCompoundType, Bool.or_eq_true, beq_iff_eq, not_or] at noArguments noCompound
      simpa [classKinds, noArguments, noCompound.1, noCompound.2] using isKind
    · exact ⟨_, tail.cons_name spelled isName⟩
    · exact ⟨spine, tail.cons_annotationUse isUse⟩

theorem dot_notMem_segmentsFrom (pending : List Node) (each : ∀ node ∈ pending, Spelled node) :
    ∀ segment ∈ segmentsFrom pending, '.' ∉ segment.toList := by
  fun_induction segmentsFrom pending with
  | case1 => simp
  | case2 node rest isName ih =>
    rw [List.forall_mem_cons] at each ⊢
    exact ⟨each.1.dot_notMem (beq_iff_eq.mp isName), ih each.2⟩
  | case3 node rest _ _ ih =>
    rw [List.forall_mem_cons] at each
    exact ih (List.forall_mem_append.mpr ⟨fun _ => each.1.of_mem_namedChildren, each.2⟩)
  | case4 node rest _ _ ih => exact ih (List.forall_mem_cons.mp each).2

theorem spelled_of_mem_argumentsFrom (pending : List Node)
    (each : ∀ node ∈ pending, Spelled node) : ∀ node ∈ argumentsFrom pending, Spelled node := by
  fun_induction argumentsFrom pending with
  | case1 => simp
  | case2 node rest _ ih =>
    rw [List.forall_mem_cons] at each ⊢
    exact ⟨each.1, ih each.2⟩
  | case3 node rest _ _ ih =>
    rw [List.forall_mem_cons] at each
    exact ih (List.forall_mem_append.mpr ⟨fun _ => each.1.of_mem_namedChildren, each.2⟩)
  | case4 node rest _ _ ih => exact ih (List.forall_mem_cons.mp each).2

/-- The reference that a class type makes has the segments of its spine. -/
theorem segmentNames_compoundReference {node : Node} (spelled : Spelled node) :
    segmentNames ↑(compoundReference node) = ↑(segmentsFrom [node]) := by
  have dotless := dot_notMem_segmentsFrom [node] (by simpa using spelled)
  unfold compoundReference
  cases segments : segmentsFrom [node] with
  | nil => rfl
  | cons first more =>
    rw [segments] at dotless
    have joined : Text.splitAll '.' (".".intercalate (first :: more)) = first :: more :=
      Text.splitAll_intercalate (List.cons_ne_nil _ _) dotless
    simp [segmentNames, TypeReference.segments, joined]

theorem Balance.of_spine {node : Node} {spine : Multiset Node} (spelled : Spelled node)
    (isSpine : IsSpine [node] spine) : Balance spine 0 ↑(compoundReference node) := by
  have none {kind : Kind} (other : some kind ∉ spineKinds) : numberOf kind spine = 0 :=
    Multiset.countP_eq_zero.mpr fun node member isKind => other (isKind ▸ isSpine.kinds node member)
  refine ⟨?_, ?_, ?_⟩
  · rw [isSpine.names, segmentNames_compoundReference spelled, add_zero]
  · rw [none (by decide), none (by decide)]
    unfold compoundReference
    split <;> rfl
  · have noPrimitive : spine.countP (·.kind?.any Kind.isPrimitive) = 0 := by
      rw [Multiset.countP_eq_zero]
      intro node member
      have possible := isSpine.kinds node member
      generalize node.kind? = kind at possible
      revert kind
      decide
    rw [noPrimitive]
    unfold compoundReference
    split <;> rfl

end JavaIndex.Java
