import JavaIndex.Proofs.ClassTypes

/-!
# No mention is lost or told twice, unless it is passed over

The walk over a tree takes one node after the other. Each step tells what it reads of the node
and does not leave to later steps, so in the end all that is read has been told once. What is not
read are the annotations inside class types. The references tell everything in a tree exactly if
no type is mentioned in these annotations.

## Main definitions

* `Java.Settles` — a step tells its share of a node

## Main results

* `Java.settles_visitNode` — every step does
* `Java.tells_collectReferences` — a whole walk tells what it reads
* `Java.accounts_of_spelled` — the references of a tree, and what they miss
* `Java.accounts_typeReferences` — those of a source
-/

namespace JavaIndex.Java

open Visit (nodesOf parametersOf)

/-! ### Steps of the walk -/

variable {node : Node} {references : List TypeReference} {next : List Visit}

/-- A step tells what is read of a node and not left to be visited. -/
def Settles (node : Node) (references : List TypeReference) (next : List Visit) : Prop :=
  ∃ own : Multiset Node, ↑node.visible = own + nodesOf next ∧
    parameterNames ↑node.visible = parametersOf next ∧ Tells own 0 ↑references

/-- Nodes that stand for a type on their own leave nothing. -/
theorem Settles.of_alone (spelled : Spelled node) {kind : Kind} (isKind : node.kind? = some kind)
    (alone : kind.hasBranches = false) (tells : Tells {node} 0 ↑references) :
    Settles node references [] := by
  have visible := spelled.visible_eq_singleton isKind alone
  refine ⟨{node}, by rw [visible]; rfl, ?_, tells⟩
  rw [visible]
  refine parameterNames_eq_zero fun other member isParameter => ?_
  obtain rfl := List.mem_singleton.mp (Multiset.mem_coe.mp member)
  obtain rfl := Option.some.inj (isParameter.symm.trans isKind)
  cases alone

/-- Nodes of which the named children are visited. -/
theorem Settles.of_children (inside : ∀ kind, node.kind? = some kind → kind.isHeading = false)
    (simple : isCompoundType node = false) (tells : Tells {node} 0 ↑references)
    (nodes : nodesOf next = ↑(node.namedChildren.flatMap Node.visible))
    (parameters : parametersOf next =
      parameterNames {node} + parameterNames ↑(node.namedChildren.flatMap Node.visible)) :
    Settles node references next := by
  generalize marksOf : node.children.filter (!·.isNamed) = marks
  have bare (mark : Node) (member : mark ∈ marks) : mark.kind? = none :=
    Node.kind?_eq_none_of_mem (marksOf ▸ member)
  have visible : (↑node.visible : Multiset Node) =
      {node} + ↑marks + ↑(node.namedChildren.flatMap Node.visible) := by
    have below : node.visible = node :: node.children.flatMap Node.visible := by
      cases node with
      | bare | leaf => rfl
      | branch kind children =>
        have shown : children.filter (!hides kind ·) = children := by
          have other : kind ≠ .scopedTypeIdentifier ∧ kind ≠ .genericType := by
            simpa [isCompoundType, Node.kind?] using simple
          simp [hides, other]
        rw [Node.visible, Node.reached_branch (inside kind rfl), shown]
        rfl
    rw [below, ← Multiset.cons_coe, ← Multiset.singleton_add, Node.coe_flatMap_visible, marksOf,
      add_assoc]
    rfl
  refine ⟨{node} + ↑marks, ?_, ?_, ?_⟩
  · rw [visible, nodes]
  · have none : parameterNames ↑marks = 0 :=
      parameterNames_eq_zero fun mark member => by simp [bare mark (Multiset.mem_coe.mp member)]
    rw [visible, parameterNames_add, parameterNames_add, none, add_zero, parameters]
  · have silent : Balance ↑marks 0 0 := .of_silent fun mark member => by
      simp [Node.isMention, bare mark (Multiset.mem_coe.mp member)]
    simpa using tells.add silent.tells

theorem Settles.of_wholes (inside : ∀ kind, node.kind? = some kind → kind.isHeading = false)
    (simple : isCompoundType node = false) (noParameter : node.kind? ≠ some .typeParameter)
    (tells : Tells {node} 0 ↑references) :
    Settles node references (node.namedChildren.map .whole) := by
  have none : parameterNames {node} = 0 := parameterNames_eq_zero (by simpa using noParameter)
  refine .of_children inside simple tells (Visit.nodesOf_map_whole _) ?_
  rw [Visit.parametersOf_map_whole, none, zero_add]

/-- The parts of a type parameter are read like any others, and its name is told to be one. -/
theorem nodes_visitParameterPart {part : Node} (spelled : Spelled part) :
    (visitParameterPart part).nodes = ↑part.visible ∧
      (visitParameterPart part).parameters = typeNames {part} + parameterNames ↑part.visible := by
  unfold visitParameterPart
  split_ifs with isName
  · rw [beq_iff_eq] at isName
    have none : parameterNames {part} = 0 := parameterNames_eq_zero (by simp [isName])
    rw [spelled.visible_eq_singleton isName rfl, Multiset.coe_singleton, none,
      typeNames_singleton isName]
    exact ⟨rfl, rfl⟩
  · have none : typeNames {part} = 0 := typeNames_eq_zero.mpr (by simpa using isName)
    rw [none, zero_add]
    exact ⟨rfl, rfl⟩

theorem nodesOf_visitParameterPart {parts : List Node} (spelled : ∀ part ∈ parts, Spelled part) :
    nodesOf (parts.map visitParameterPart) = ↑(parts.flatMap Node.visible) ∧
      parametersOf (parts.map visitParameterPart) =
        typeNames ↑parts + parameterNames ↑(parts.flatMap Node.visible) := by
  induction parts with
  | nil => exact ⟨rfl, rfl⟩
  | cons part rest ih =>
    obtain ⟨spelledPart, spelledRest⟩ := List.forall_mem_cons.mp spelled
    obtain ⟨nodes, parameters⟩ := ih spelledRest
    obtain ⟨nodesHere, parametersHere⟩ := nodes_visitParameterPart spelledPart
    constructor
    · rw [List.flatMap_cons, ← Multiset.coe_add, ← nodesHere, ← nodes]
      rfl
    · rw [List.flatMap_cons, ← Multiset.coe_add, parameterNames_add, ← Multiset.cons_coe,
        ← Multiset.singleton_add, typeNames_add, add_add_add_comm, ← parametersHere, ← parameters]
      rfl

theorem typeNames_namedChildren (node : Node) :
    typeNames ↑node.namedChildren = typeNames ↑node.children := by
  have named : (fun child : Node => decide (child.kind? = some .typeIdentifier) && child.isNamed) =
      fun child => decide (child.kind? = some .typeIdentifier) := by
    funext child
    cases known : child.kind? <;> simp [Node.isNamed, known]
  rw [typeNames, typeNames, Multiset.filter_coe, Multiset.filter_coe, Node.namedChildren,
    List.filter_filter, named]

/-- Type parameters mention their names, which are known, and the types in their bounds. -/
theorem Settles.of_typeParameter (spelled : Spelled node)
    (isParameter : node.kind? = some .typeParameter) :
    Settles node [] (node.namedChildren.map visitParameterPart) := by
  obtain ⟨nodes, parameters⟩ := nodesOf_visitParameterPart fun _ => spelled.of_mem_namedChildren
  refine .of_children ?_ ?_ (Balance.of_silent ?_).tells nodes ?_
  · simp [isParameter, Kind.isHeading]
  · simp [isParameter, isCompoundType]
  · simp [Node.isMention, isParameter, Kind.isMention, Kind.isPrimitive]
  · have declared : parameterNames {node} = typeNames ↑node.namedChildren := by
      rw [typeNames_namedChildren, parameterNames,
        Multiset.filter_eq_self.mpr (by simpa using isParameter), Multiset.singleton_bind]
    rw [parameters, declared]

/-- Of the declarations of packages and imports nothing is read. -/
theorem Settles.of_heading {kind : Kind} (isKind : node.kind? = some kind)
    (heading : kind.isHeading = true) : Settles node [] [] := by
  have only (part : Node) (member : part ∈ node.visible) : part.kind? = some kind := by
    cases node with
    | bare | leaf => rwa [List.mem_singleton.mp member]
    | branch =>
      obtain rfl := Option.some.inj isKind
      rw [Node.visible, Node.reached_heading heading] at member
      cases member
  refine ⟨↑node.visible, (add_zero _).symm, ?_, ?_⟩
  · refine parameterNames_eq_zero fun part member isParameter => ?_
    obtain rfl := Option.some.inj ((only part member).symm.trans isParameter)
    cases heading
  · refine (Balance.of_silent fun part member => ?_).tells
    rw [Node.isMention, only part member]
    cases kind <;> first | rfl | cases heading

/-- Class types of several parts, of which the type arguments are left. -/
theorem Settles.of_compound (spelled : Spelled node) (compound : isCompoundType node = true) :
    Settles node (compoundReference node) ((argumentsFrom node.namedChildren).map .whole) := by
  have part : node.kind? ∈ classKinds := by
    rcases isCompoundType_iff.mp compound with isKind | isKind <;> simp [isKind, classKinds]
  obtain ⟨spine, isSpine⟩ := exists_spine [node] (by simpa using ⟨spelled, part⟩)
  have parts := isSpine.parts
  rw [List.filter_cons_of_pos (isRead_of_compound compound), List.filter_nil, List.flatMap_cons,
    List.flatMap_nil, List.append_nil, argumentsFrom_of_compound compound, List.append_nil] at parts
  have none : parameterNames spine = 0 := parameterNames_eq_zero fun node member isParameter =>
    absurd (isSpine.kinds node member) (by rw [isParameter]; decide)
  refine ⟨spine, parts, ?_, (Balance.of_spine spelled isSpine).tells⟩
  rw [parts, parameterNames_add, none, zero_add, Visit.parametersOf_map_whole,
    Visit.nodesOf_map_whole]

/-- Whatever the node is, a step of the walk tells its share of it. -/
theorem settles_visitNode (spelled : Spelled node) :
    Settles node (visitNode node).1 (visitNode node).2 := by
  unfold visitNode
  split
  -- Declarations of packages and imports.
  case h_1 isKind | h_2 isKind => exact .of_heading isKind rfl
  -- The three kinds of primitive types, and `void`.
  case h_3 isKind | h_4 isKind | h_5 isKind | h_6 isKind =>
    exact .of_alone spelled isKind rfl (Balance.single isKind rfl rfl rfl).tells
  -- A name on its own.
  case h_7 isName =>
    refine .of_alone spelled isName rfl ?_
    have dotless := Text.splitAll_of_notMem (spelled.dot_notMem isName)
    unfold nameReference
    split_ifs with isVar
    · exact ⟨1, .single isName (by simp [isVar, TypeReference.segments])
        (by simp [isVar, TypeReference.otherText]) rfl⟩
    · exact (Balance.single isName (by simp [TypeReference.segments, dotless]) rfl rfl).tells
  case h_8 isKind => exact .of_compound spelled (isCompoundType_iff.mpr (.inl isKind))
  case h_9 isKind => exact .of_compound spelled (isCompoundType_iff.mpr (.inr isKind))
  case h_10 isKind => exact .of_typeParameter spelled isKind
  -- A wildcard, and its bound.
  case h_11 isKind =>
    refine .of_wholes ?_ ?_ ?_ (Balance.single isKind rfl rfl rfl).tells
    · simp [isKind, Kind.isHeading]
    · simp [isKind, isCompoundType]
    · simp [isKind]
  -- All others mention nothing by themselves.
  case h_12 _ noPackage noImport noIntegral noFloating noBoolean noVoid noName noScoped noGeneric
      noParameter noWildcard =>
    refine .of_wholes ?_ ?_ noParameter (Balance.of_silent ?_).tells
    · intro kind isKind
      refine Kind.isHeading_eq_false.mpr ⟨?_, ?_⟩
      · rintro rfl
        exact noPackage isKind
      · rintro rfl
        exact noImport isKind
    · simpa [isCompoundType] using ⟨noScoped, noGeneric⟩
    · simp only [Multiset.mem_singleton, forall_eq, Node.isMention_eq_false]
      refine ⟨noName, noVoid, noWildcard, ?_⟩
      cases known : node.kind? with
      | none => rfl
      | some kind =>
        cases kind with
        | integralType => exact absurd known noIntegral
        | floatingPointType => exact absurd known noFloating
        | booleanType => exact absurd known noBoolean
        | _ => rfl

/-- What a step leaves is due. -/
theorem isDue_of_mem_visitNode (spelled : Spelled node) :
    ∀ visit ∈ (visitNode node).2, visit.IsDue := by
  have each (nodes : List Node) (all : ∀ node ∈ nodes, Spelled node) :
      ∀ visit ∈ nodes.map Visit.whole, visit.IsDue := by
    simpa [Visit.IsDue] using all
  have below : ∀ child ∈ node.namedChildren, Spelled child := fun _ => spelled.of_mem_namedChildren
  unfold visitNode
  split
  case h_8 | h_9 => exact each _ (spelled_of_mem_argumentsFrom _ below)
  case h_10 =>
    intro visit member
    obtain ⟨part, isPart, rfl⟩ := List.mem_map.mp member
    unfold visitParameterPart
    split_ifs with isName
    · exact beq_iff_eq.mp isName
    · exact below part isPart
  case h_11 | h_12 => exact each _ below
  all_goals exact nofun

/-! ### The whole walk -/

/-- What is found for pending visits tells what they read. -/
theorem tells_collectReferences (found : List TypeReference) (pending : List Visit)
    (due : ∀ visit ∈ pending, visit.IsDue) :
    ∃ references : List TypeReference,
      collectReferences found pending = found.reverse ++ references ∧
        Tells (nodesOf pending) (parametersOf pending) ↑references := by
  fun_induction collectReferences found pending with
  | case1 found => exact ⟨[], by simp, (Balance.of_silent (by simp [nodesOf])).tells⟩
  | case2 found node rest ih =>
    obtain ⟨isName, dueRest⟩ := List.forall_mem_cons.mp due
    obtain ⟨references, collected, tells⟩ := ih dueRest
    refine ⟨.other node.text :: references, by rw [collected]; simp, ?_⟩
    have here : Balance {node} {node.text} ↑[TypeReference.other node.text] :=
      .single isName rfl rfl rfl
    exact here.tells.add tells
  | case3 found node rest visited ih =>
    obtain ⟨spelled, dueRest⟩ := List.forall_mem_cons.mp due
    obtain ⟨references, collected, tells⟩ := ih
      (List.forall_mem_append.mpr ⟨isDue_of_mem_visitNode spelled, dueRest⟩)
    refine ⟨visited.1 ++ references, by rw [collected]; simp, ?_⟩
    -- The step tells the share of the node, the rest of the walk all that is left of it.
    obtain ⟨own, nodes, parameters, here⟩ := settles_visitNode spelled
    have both := here.add tells
    rw [Visit.nodesOf_append, Visit.parametersOf_append, ← add_assoc, ← nodes, ← parameters,
      zero_add, Multiset.coe_add] at both
    exact both

/-- The references of a tree tell all that is read of it. -/
theorem tells_typeReferences {root : Node} (spelled : Spelled root) :
    Tells ↑root.visible (parameterNames ↑root.visible) ↑(typeReferences root) := by
  obtain ⟨references, collected, tells⟩ :=
    tells_collectReferences [] [.whole root] (by simpa [Visit.IsDue] using spelled)
  rw [typeReferences, collected]
  simpa [nodesOf, parametersOf, Visit.nodes, Visit.parameters] using tells

/-! ### What is passed over -/

/-- Where no part is a name, no type parameter declares one. -/
theorem parameterNames_parts {trees : List Node}
    (none : typeNames ↑(trees.flatMap Node.parts) = 0) :
    parameterNames ↑(trees.flatMap Node.parts) = 0 := by
  refine typeNames_eq_zero.mpr fun child member isName => ?_
  obtain ⟨node, isParameter, below⟩ := Multiset.mem_bind.mp member
  obtain ⟨inside, isParameter⟩ := Multiset.mem_filter.mp isParameter
  obtain ⟨tree, isTree, part⟩ := List.mem_flatMap.mp (Multiset.mem_coe.mp inside)
  have childPart : child ∈ tree.parts := Node.parts_subset part
    (Node.mem_parts_of_mem_children (by simp [isParameter, Kind.isHeading])
      (by simp [isName, Kind.isHeading]) (Multiset.mem_coe.mp below))
  exact typeNames_eq_zero.mp none child (List.mem_flatMap_of_mem isTree childPart) isName

/-- The references of a tree tell all parts of it that are read, each mention once. The other
parts are those of the annotations inside class types, and the references tell the whole tree if
and only if no type is mentioned there. -/
theorem accounts_of_spelled {root : Node} (spelled : Spelled root) :
    Accounts root.visible (typeReferences root) ∧
      root.parts.Perm (root.visible ++ root.unread.flatMap Node.parts) ∧
      (Accounts root.parts (typeReferences root) ↔
        ∀ use ∈ root.unread, ∀ part ∈ use.parts, part.isMention = false) := by
  have tells := tells_typeReferences spelled
  have all : root.parts.Perm (root.visible ++ root.unread.flatMap Node.parts) :=
    root.parts_perm hides
  refine ⟨tells, all, ?_⟩
  rw [Accounts, Multiset.coe_eq_coe.mpr all, ← Multiset.coe_add,
    tells_add_iff tells parameterNames_parts]
  simp only [Multiset.mem_coe, List.mem_flatMap]
  constructor
  · intro silent use unread part member
    exact silent part ⟨use, unread, member⟩
  · rintro silent part ⟨use, unread, member⟩
    exact silent use unread part member

/-- In particular, so do the references of a source. -/
theorem accounts_typeReferences {source : String} {root : Node} (parsed : parse source = .ok root) :
    Accounts root.visible (typeReferences root) ∧
      root.parts.Perm (root.visible ++ root.unread.flatMap Node.parts) ∧
      (Accounts root.parts (typeReferences root) ↔
        ∀ use ∈ root.unread, ∀ part ∈ use.parts, part.isMention = false) :=
  accounts_of_spelled (spelled_of_parse parsed)

/-- The class `Foo` is mentioned in an annotation of `B`, and lost. -/
theorem accounts_typeReferences_annotated :
    ∃ root, parse "class A \x7b a.@N(Foo.class) B f; \x7d" = .ok root ∧
      Accounts root.visible (typeReferences root) ∧
      ¬Accounts root.parts (typeReferences root) := by
  have lost : (parse "class A \x7b a.@N(Foo.class) B f; \x7d").toOption.any (fun root =>
      root.unread.any fun use => use.parts.any Node.isMention) = true := by
    decide +kernel
  cases parsed : parse "class A \x7b a.@N(Foo.class) B f; \x7d" with
  | error _ => rw [parsed] at lost; cases lost
  | ok root =>
    rw [parsed] at lost
    obtain ⟨read, -, whole⟩ := accounts_typeReferences parsed
    obtain ⟨use, unread, mentions⟩ := List.any_eq_true.mp lost
    obtain ⟨part, member, isMention⟩ := List.any_eq_true.mp mentions
    refine ⟨root, rfl, read, fun accounts => ?_⟩
    have silent := whole.mp accounts use unread part member
    rw [silent] at isMention
    cases isMention

end JavaIndex.Java
