import JavaIndex.Java.Node
import JavaIndex.TypeReference

/-!
# The types a file mentions

Every mention of a type in a tree, in source order. Package and import
declarations mention none. A class type counts once, under its dotted name
without type arguments; the type arguments follow as mentions of their own.

The tree is walked with a list of nodes still to visit, so the depth of a source
is no limit. The walk ends because the nodes pending get fewer in total with each
step.

## Main definitions

* `Java.typeReferences` — all mentions, in source order
* `Java.segmentsFrom` — the segments of a class type's name
* `Java.argumentsFrom` — the type arguments that belong to a class type
-/

namespace JavaIndex.Java

/-! ### Sizes -/

namespace Node

theorem size_pos (node : Node) : 0 < node.size := by
  cases node <;> simp only [size] <;> omega

theorem sizeOfList_append (left right : List Node) :
    sizeOfList (left ++ right) = sizeOfList left + sizeOfList right := by
  induction left with
  | nil => simp [sizeOfList]
  | cons node rest ih => simp [sizeOfList, ih]; omega

theorem sizeOfList_filter_le (keep : Node → Bool) (nodes : List Node) :
    sizeOfList (nodes.filter keep) ≤ sizeOfList nodes := by
  induction nodes with
  | nil => simp
  | cons node rest ih =>
    by_cases kept : keep node <;> simp [kept, sizeOfList] <;> omega

theorem sizeOfList_children (node : Node) : sizeOfList node.children < node.size := by
  cases node <;> simp only [children, size, sizeOfList] <;> omega

/-- The named children of a node are smaller than the node, all taken together. -/
theorem sizeOfList_namedChildren (node : Node) : sizeOfList node.namedChildren < node.size :=
  Nat.lt_of_le_of_lt (sizeOfList_filter_le _ _) (sizeOfList_children node)

end Node

/-! ### Class types -/

/-- Whether a node is a class type made of smaller ones. -/
def isCompoundType (node : Node) : Bool :=
  node.kind? == some .scopedTypeIdentifier || node.kind? == some .genericType

/-- The segments of the class types pending, in order; type arguments and
annotations have none. -/
def segmentsFrom (pending : List Node) : List String :=
  match pending with
  | [] => []
  | node :: rest =>
    if node.kind? == some .typeIdentifier then node.text :: segmentsFrom rest
    else if isCompoundType node then segmentsFrom (node.namedChildren ++ rest)
    else segmentsFrom rest
termination_by Node.sizeOfList pending
decreasing_by
  · have := node.size_pos; simp only [Node.sizeOfList]; omega
  · have := node.sizeOfList_namedChildren
    simp only [Node.sizeOfList, Node.sizeOfList_append]; omega
  · have := node.size_pos; simp only [Node.sizeOfList]; omega

/-- The type arguments among the class types pending, in order. -/
def argumentsFrom (pending : List Node) : List Node :=
  match pending with
  | [] => []
  | node :: rest =>
    if node.kind? == some .typeArguments then node :: argumentsFrom rest
    else if isCompoundType node then argumentsFrom (node.namedChildren ++ rest)
    else argumentsFrom rest
termination_by Node.sizeOfList pending
decreasing_by
  · have := node.size_pos; simp only [Node.sizeOfList]; omega
  · have := node.sizeOfList_namedChildren
    simp only [Node.sizeOfList, Node.sizeOfList_append]; omega
  · have := node.size_pos; simp only [Node.sizeOfList]; omega

/-- The type arguments found are no larger than the nodes they were found in. -/
theorem sizeOfList_argumentsFrom_le (pending : List Node) :
    Node.sizeOfList (argumentsFrom pending) ≤ Node.sizeOfList pending := by
  fun_induction argumentsFrom pending with
  | case1 => simp
  | case2 node rest _ ih => simp only [Node.sizeOfList]; omega
  | case3 node rest _ _ ih =>
    have := node.sizeOfList_namedChildren
    rw [Node.sizeOfList_append] at ih
    simp only [Node.sizeOfList]; omega
  | case4 node rest _ _ ih => simp only [Node.sizeOfList]; omega

/-! ### The walk -/

/-- Something still to be visited. -/
inductive Visit where
  | whole (node : Node)
  /-- The name that a type parameter declares. -/
  | parameterName (node : Node)

namespace Visit

/-- The size of what is to be visited. -/
def size : Visit → Nat
  | whole node => node.size
  | parameterName node => node.size

/-- The total size of what is to be visited. -/
def total : List Visit → Nat
  | [] => 0
  | visit :: rest => visit.size + total rest

theorem total_append (left right : List Visit) :
    total (left ++ right) = total left + total right := by
  induction left with
  | nil => simp [total]
  | cons visit rest ih => simp [total, ih]; omega

theorem total_map_eq (visit : Node → Visit) (same : ∀ node, (visit node).size = node.size)
    (nodes : List Node) : total (nodes.map visit) = Node.sizeOfList nodes := by
  induction nodes with
  | nil => simp [total, Node.sizeOfList]
  | cons head rest ih => simp [total, Node.sizeOfList, ih, same]

end Visit

/-- The reference that a lone type name makes; `var` is no class. -/
def nameReference (text : String) : TypeReference :=
  if text = "var" then .other text else .classOrInterface text

/-- The reference that a compound class type makes, unless it has no segments. -/
def compoundReference (node : Node) : List TypeReference :=
  match segmentsFrom [node] with
  | [] => []
  | segments => [.classOrInterface (".".intercalate segments)]

/-- How the parts of a type parameter are visited: a bare type name is its own name. -/
def visitParameterPart (part : Node) : Visit :=
  if part.kind? == some .typeIdentifier then .parameterName part else .whole part

/-- What visiting a node reports, and what it leaves to be visited next. -/
def visitNode (node : Node) : List TypeReference × List Visit :=
  match node.kind? with
  | some .packageDeclaration | some .importDeclaration => ([], [])
  | some .integralType | some .floatingPointType | some .booleanType =>
    ([.primitive node.text], [])
  | some .voidType => ([.other "void"], [])
  | some .typeIdentifier => ([nameReference node.text], [])
  | some .scopedTypeIdentifier | some .genericType =>
    (compoundReference node, (argumentsFrom node.namedChildren).map .whole)
  | some .typeParameter => ([], node.namedChildren.map visitParameterPart)
  | some .wildcard => ([.other "?"], node.namedChildren.map .whole)
  | _ => ([], node.namedChildren.map .whole)

theorem total_visitNode_lt (node : Node) : Visit.total (visitNode node).2 < node.size := by
  have positive := node.size_pos
  have children := node.sizeOfList_namedChildren
  have arguments := sizeOfList_argumentsFrom_le node.namedChildren
  have plain : Visit.total (node.namedChildren.map .whole) = Node.sizeOfList node.namedChildren :=
    Visit.total_map_eq _ (fun _ => rfl) _
  have nested : Visit.total ((argumentsFrom node.namedChildren).map .whole) =
      Node.sizeOfList (argumentsFrom node.namedChildren) := Visit.total_map_eq _ (fun _ => rfl) _
  have parameter : Visit.total (node.namedChildren.map visitParameterPart) =
      Node.sizeOfList node.namedChildren := by
    refine Visit.total_map_eq _ (fun part => ?_) _
    unfold visitParameterPart
    split <;> rfl
  unfold visitNode
  split <;> simp only [Visit.total] <;> omega

/-- The mentions found so far, in reverse order, and then those in what is pending. -/
def collectReferences (found : List TypeReference) (pending : List Visit) : List TypeReference :=
  match pending with
  | [] => found.reverse
  | .parameterName node :: rest => collectReferences (.other node.text :: found) rest
  | .whole node :: rest =>
    let visited := visitNode node
    collectReferences (visited.1.reverse ++ found) (visited.2 ++ rest)
termination_by Visit.total pending
decreasing_by
  · have := node.size_pos; simp only [Visit.total, Visit.size]; omega
  · have := total_visitNode_lt node
    rw [Visit.total_append]
    simp only [Visit.total, Visit.size]; omega

/-- Every mention of a type in a tree, in source order. -/
def typeReferences (root : Node) : List TypeReference :=
  collectReferences [] [.whole root]

end JavaIndex.Java
