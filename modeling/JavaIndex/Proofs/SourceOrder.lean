import JavaIndex.Proofs.TreeParts

/-!
# References in source order

The types that a tree mentions, told by recursion over the tree: a node may make a mention by
itself, and then come those of its parts from left to right. A class type of several parts is one
mention under its dotted name, and only its type arguments are searched further.

The walk with its list of pending visits gives the same references in the same order. What carries
this from one turn of the loop to the next is that the references found so far, followed by those
still owed for the pending visits, do not change: visiting a node reports its own mention and
leaves visits that owe the rest. The same holds for the two loops that take class types apart.

## Main definitions

* `Java.Node.segments`, `Java.Node.typeArguments` — the name of a class type and its arguments
* `Java.Node.mentions` — the references of a tree
* `Java.Visit.mentions` — the references that are owed for a visit

## Main results

* `Java.segmentsFrom_eq`, `Java.argumentsFrom_eq` — the loops over class types
* `Java.mentions_visitNode` — one turn of the walk keeps what is owed
* `Java.collectReferences_eq` — a walk pays what is owed for its visits
* `Java.typeReferences_eq_mentions` — the walk and the recursion agree on every tree
-/

namespace JavaIndex.Java

namespace Node

/-! ### The recursion -/

mutual

/-- The segments of a class type's name, from left to right. Type arguments and annotations in it
have none. -/
def segments : Node → List String
  | bare _ => []
  | leaf kind token => if kind = .typeIdentifier then [(leaf kind token).text] else []
  | branch kind children =>
    if kind = .typeIdentifier then [(branch kind children).text]
    else if isCompoundType (branch kind children) then segmentsOfList children
    else []

/-- The segments of class types one after the other. -/
def segmentsOfList : List Node → List String
  | [] => []
  | node :: rest => node.segments ++ segmentsOfList rest

end

mutual

/-- The type arguments below a node that are reached through class types only, in order. -/
def typeArguments : Node → List Node
  | branch _ children => typeArgumentsOfList children
  | _ => []

/-- The type arguments among the parts of a class type, and those of the class types among
them. -/
def typeArgumentsOfList : List Node → List Node
  | [] => []
  | part :: rest =>
    (if part.kind? = some .typeArguments then [part]
      else if isCompoundType part then part.typeArguments
      else []) ++ typeArgumentsOfList rest

end

/-- The reference to a class whose name has the given segments, if there are any. -/
def joinedReference (segments : List String) : List TypeReference :=
  if segments = [] then [] else [.classOrInterface (".".intercalate segments)]

/-- The mention that a node makes by itself. -/
def ownMention (node : Node) : List TypeReference :=
  match node.kind? with
  | some .integralType | some .floatingPointType | some .booleanType => [.primitive node.text]
  | some .voidType => [.other "void"]
  | some .typeIdentifier => [nameReference node.text]
  | some .scopedTypeIdentifier | some .genericType => joinedReference node.segments
  | some .wildcard => [.other "?"]
  | _ => []

mutual

/-- The types that a tree mentions, in source order: first by itself, then in its parts. -/
def mentions : Node → List TypeReference
  | bare _ => []
  | leaf kind token => (leaf kind token).ownMention
  | branch kind children =>
    (branch kind children).ownMention ++
      match kind with
      | .packageDeclaration | .importDeclaration => []
      | .integralType | .floatingPointType | .booleanType | .voidType | .typeIdentifier => []
      | .scopedTypeIdentifier | .genericType => mentionsOfArguments children
      | .typeParameter => mentionsOfParameter children
      | _ => mentionsOfList children

/-- The types that trees mention one after the other. -/
def mentionsOfList : List Node → List TypeReference
  | [] => []
  | node :: rest => node.mentions ++ mentionsOfList rest

/-- The types that the parts of a type parameter mention; a type name right below it is the name
that it declares. -/
def mentionsOfParameter : List Node → List TypeReference
  | [] => []
  | part :: rest =>
    (if part.kind? = some .typeIdentifier then [.other part.text] else part.mentions) ++
      mentionsOfParameter rest

/-- The types that the type arguments among the parts of a class type mention. -/
def mentionsOfArguments : List Node → List TypeReference
  | [] => []
  | part :: rest =>
    (if part.kind? = some .typeArguments then part.mentions
      else if isCompoundType part then part.mentionsBelow
      else []) ++ mentionsOfArguments rest

/-- The types that the type arguments below a class type mention. -/
def mentionsBelow : Node → List TypeReference
  | branch _ children => mentionsOfArguments children
  | _ => []

end

/-! ### Lists of trees -/

theorem segmentsOfList_eq (nodes : List Node) : segmentsOfList nodes = nodes.flatMap segments := by
  induction nodes with
  | nil => rfl
  | cons node rest ih => rw [segmentsOfList, ih, List.flatMap_cons]

/-- The type arguments that one part of a class type contributes. -/
def argumentsOfPart (part : Node) : List Node :=
  if part.kind? = some .typeArguments then [part]
  else if isCompoundType part then part.typeArguments
  else []

theorem typeArgumentsOfList_eq (parts : List Node) :
    typeArgumentsOfList parts = parts.flatMap argumentsOfPart := by
  induction parts with
  | nil => rfl
  | cons part rest ih => rw [typeArgumentsOfList, ih, List.flatMap_cons]; rfl

theorem mentionsOfList_eq (nodes : List Node) : mentionsOfList nodes = nodes.flatMap mentions := by
  induction nodes with
  | nil => rfl
  | cons node rest ih => rw [mentionsOfList, ih, List.flatMap_cons]

theorem mentionsOfParameter_eq (parts : List Node) : mentionsOfParameter parts =
    parts.flatMap fun part =>
      if part.kind? = some .typeIdentifier then [.other part.text] else part.mentions := by
  induction parts with
  | nil => rfl
  | cons part rest ih => rw [mentionsOfParameter, ih, List.flatMap_cons]

theorem mentionsOfArguments_eq (parts : List Node) : mentionsOfArguments parts =
    parts.flatMap fun part =>
      if part.kind? = some .typeArguments then part.mentions
      else if isCompoundType part then part.mentionsBelow
      else [] := by
  induction parts with
  | nil => rfl
  | cons part rest ih => rw [mentionsOfArguments, ih, List.flatMap_cons]

/-- Bare nodes do not count where nothing is collected from them. -/
theorem flatMap_namedChildren {α : Type} {collect : Node → List α}
    (nothing : ∀ token, collect (bare token) = []) (node : Node) :
    node.namedChildren.flatMap collect = node.children.flatMap collect := by
  rw [namedChildren]
  induction node.children with
  | nil => rfl
  | cons child rest ih =>
    rw [List.flatMap_cons, ← ih]
    cases child with
    | bare token => rw [nothing]; rfl
    | leaf | branch => rfl

end Node

open Node

/-! ### Class types -/

theorem segments_of_name {node : Node} (isName : node.kind? = some .typeIdentifier) :
    node.segments = [node.text] := by
  cases node with
  | bare => cases isName
  | leaf | branch =>
    obtain rfl := Option.some.inj isName
    rfl

theorem segments_of_compound {node : Node} (compound : isCompoundType node = true) :
    node.segments = node.namedChildren.flatMap segments := by
  rw [flatMap_namedChildren (fun _ => rfl)]
  cases node with
  | bare => cases compound
  | leaf kind token => cases kind <;> first | rfl | cases compound
  | branch kind children =>
    have noName : kind ≠ .typeIdentifier := by
      rintro rfl
      cases compound
    rw [segments, if_neg noName, if_pos compound, segmentsOfList_eq]
    rfl

theorem segments_eq_nil {node : Node} (noName : node.kind? ≠ some .typeIdentifier)
    (simple : isCompoundType node ≠ true) : node.segments = [] := by
  cases node with
  | bare => rfl
  | leaf kind token => rw [segments, if_neg (fun isName => noName (congrArg some isName))]
  | branch kind children =>
    rw [segments, if_neg (fun isName => noName (congrArg some isName)), if_neg simple]

/-- The loop over class types finds the segments of each of them, one after the other. -/
theorem segmentsFrom_eq (pending : List Node) :
    segmentsFrom pending = pending.flatMap segments := by
  fun_induction segmentsFrom pending with
  | case1 => rfl
  | case2 node rest isName ih =>
    rw [ih, List.flatMap_cons, segments_of_name (beq_iff_eq.mp isName)]
    rfl
  | case3 node rest _ compound ih =>
    rw [ih, List.flatMap_append, List.flatMap_cons, segments_of_compound compound]
  | case4 node rest noName simple ih =>
    rw [ih, List.flatMap_cons, segments_eq_nil (by simpa using noName) simple]
    rfl

theorem typeArguments_eq (node : Node) :
    node.typeArguments = node.namedChildren.flatMap argumentsOfPart := by
  rw [flatMap_namedChildren (fun _ => rfl)]
  cases node with
  | bare | leaf => rfl
  | branch kind children => exact typeArgumentsOfList_eq children

/-- The loop over the parts of class types finds the type arguments of each of them. -/
theorem argumentsFrom_eq (pending : List Node) :
    argumentsFrom pending = pending.flatMap argumentsOfPart := by
  fun_induction argumentsFrom pending with
  | case1 => rfl
  | case2 node rest isArguments ih =>
    rw [ih, List.flatMap_cons, argumentsOfPart, if_pos (beq_iff_eq.mp isArguments)]
    rfl
  | case3 node rest noArguments compound ih =>
    rw [ih, List.flatMap_append, List.flatMap_cons, ← typeArguments_eq, argumentsOfPart,
      if_neg (by simpa using noArguments), if_pos compound]
  | case4 node rest noArguments simple ih =>
    rw [ih, List.flatMap_cons, argumentsOfPart, if_neg (by simpa using noArguments),
      if_neg simple]
    rfl

theorem argumentsFrom_namedChildren (node : Node) :
    argumentsFrom node.namedChildren = node.typeArguments := by
  rw [argumentsFrom_eq, typeArguments_eq]

theorem compoundReference_eq (node : Node) :
    compoundReference node = joinedReference node.segments := by
  rw [compoundReference, segmentsFrom_eq, List.flatMap_singleton]
  cases node.segments <;> rfl

/-! ### Whole trees -/

/-- Below a class type the mentions are those of its type arguments. -/
theorem mentionsBelow_eq (node : Node) :
    node.mentionsBelow = node.typeArguments.flatMap mentions := by
  induction node using childInduction with
  | bare | leaf => rfl
  | branch kind children ih =>
    rw [mentionsBelow, mentionsOfArguments_eq, typeArguments, typeArgumentsOfList_eq,
      List.flatMap_assoc]
    refine List.flatMap_congr fun part inside => ?_
    rw [argumentsOfPart]
    split_ifs
    · exact (List.flatMap_singleton ..).symm
    · exact ih part inside
    · rfl

/-- The types that the parts of a node mention. -/
def partMentions (node : Node) : List TypeReference :=
  match node.kind? with
  | some .packageDeclaration | some .importDeclaration => []
  | some .integralType | some .floatingPointType | some .booleanType | some .voidType
  | some .typeIdentifier => []
  | some .scopedTypeIdentifier | some .genericType => node.typeArguments.flatMap mentions
  | some .typeParameter => node.namedChildren.flatMap fun part =>
    if part.kind? = some .typeIdentifier then [.other part.text] else part.mentions
  | _ => node.namedChildren.flatMap mentions

/-- The recursion, told over the named children. -/
theorem mentions_eq (node : Node) : node.mentions = node.ownMention ++ partMentions node := by
  cases node with
  | bare => rfl
  | leaf kind token =>
    have nothing : partMentions (.leaf kind token) = [] := by cases kind <;> rfl
    rw [mentions, nothing, List.append_nil]
  | branch kind children =>
    have parts : mentionsOfList children = (Node.branch kind children).namedChildren.flatMap
        mentions := by
      rw [flatMap_namedChildren (fun _ => rfl), mentionsOfList_eq]
      rfl
    have parameter : mentionsOfParameter children =
        (Node.branch kind children).namedChildren.flatMap fun part =>
          if part.kind? = some .typeIdentifier then [.other part.text] else part.mentions := by
      rw [flatMap_namedChildren (fun _ => rfl), mentionsOfParameter_eq]
      rfl
    cases kind with
    | packageDeclaration | importDeclaration => rfl
    | integralType | floatingPointType | booleanType | voidType | typeIdentifier => rfl
    | scopedTypeIdentifier | genericType =>
      exact congrArg (Node.ownMention _ ++ ·) (mentionsBelow_eq (.branch _ children))
    | typeParameter => exact congrArg (Node.ownMention _ ++ ·) parameter
    | _ => exact congrArg (Node.ownMention _ ++ ·) parts

namespace Visit

/-- The references that are owed for a visit. -/
def mentions : Visit → List TypeReference
  | whole node => node.mentions
  | parameterName node => [.other node.text]

theorem flatMap_mentions_whole (nodes : List Node) :
    (nodes.map whole).flatMap mentions = nodes.flatMap Node.mentions :=
  List.flatMap_map ..

theorem mentions_visitParameterPart (part : Node) :
    (visitParameterPart part).mentions =
      if part.kind? = some .typeIdentifier then [.other part.text] else part.mentions := by
  unfold visitParameterPart
  by_cases isName : part.kind? = some .typeIdentifier
  · simp [isName, mentions]
  · simp [isName, mentions]

end Visit

/-! ### The walk -/

/-- A visit reports a node's own mention at once. -/
theorem visitNode_fst (node : Node) : (visitNode node).1 = node.ownMention := by
  unfold visitNode ownMention
  cases node.kind? with
  | none => rfl
  | some kind => cases kind <;> first | rfl | exact compoundReference_eq node

/-- What a visit leaves owes what the parts of the node mention. -/
theorem visitNode_snd (node : Node) :
    (visitNode node).2.flatMap Visit.mentions = partMentions node := by
  have arguments : ((argumentsFrom node.namedChildren).map Visit.whole).flatMap Visit.mentions =
      node.typeArguments.flatMap mentions := by
    rw [Visit.flatMap_mentions_whole, argumentsFrom_namedChildren]
  have parameter : (node.namedChildren.map visitParameterPart).flatMap Visit.mentions =
      node.namedChildren.flatMap fun part =>
        if part.kind? = some .typeIdentifier then [.other part.text] else part.mentions := by
    simp only [List.flatMap_map, Visit.mentions_visitParameterPart]
  unfold visitNode partMentions
  cases node.kind? with
  | none => exact Visit.flatMap_mentions_whole _
  | some kind =>
    cases kind with
    | packageDeclaration | importDeclaration => rfl
    | integralType | floatingPointType | booleanType | voidType | typeIdentifier => rfl
    | scopedTypeIdentifier | genericType => exact arguments
    | typeParameter => exact parameter
    | _ => exact Visit.flatMap_mentions_whole _

/-- One turn of the walk keeps what is owed. -/
theorem mentions_visitNode (node : Node) :
    node.mentions = (visitNode node).1 ++ (visitNode node).2.flatMap Visit.mentions := by
  rw [mentions_eq, visitNode_fst, visitNode_snd]

/-- A walk pays what is owed for its visits, in their order. -/
theorem collectReferences_eq (found : List TypeReference) (pending : List Visit) :
    collectReferences found pending = found.reverse ++ pending.flatMap Visit.mentions := by
  fun_induction collectReferences found pending with
  | case1 found => rw [List.flatMap_nil, List.append_nil]
  | case2 found node rest ih =>
    rw [ih, List.reverse_cons, List.append_assoc, List.flatMap_cons]
    rfl
  | case3 found node rest visited ih =>
    calc collectReferences (visited.1.reverse ++ found) (visited.2 ++ rest)
        = (visited.1.reverse ++ found).reverse ++ (visited.2 ++ rest).flatMap Visit.mentions := ih
      _ = found.reverse ++ (visited.1 ++ visited.2.flatMap Visit.mentions ++
            rest.flatMap Visit.mentions) := by simp
      _ = found.reverse ++ (node.mentions ++ rest.flatMap Visit.mentions) := by
          rw [mentions_visitNode node]

theorem typeReferences_eq (root : Node) : typeReferences root = root.mentions := by
  rw [typeReferences, collectReferences_eq]
  exact List.flatMap_singleton ..

/-- The walk over a tree returns what the recursion over the tree does, and so do the two loops
that take a class type apart. -/
theorem typeReferences_eq_mentions (root : Node) :
    typeReferences root = root.mentions ∧ segmentsFrom [root] = root.segments ∧
      argumentsFrom root.namedChildren = root.typeArguments := by
  refine ⟨typeReferences_eq root, ?_, argumentsFrom_namedChildren root⟩
  rw [segmentsFrom_eq, List.flatMap_singleton]

end JavaIndex.Java
