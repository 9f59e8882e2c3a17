import JavaIndex.Proofs.Relayout
import JavaIndex.Proofs.SpelledNames

/-!
# What does not depend on gaps

Kinds and the order of parts are the same without the gaps, and so is the text of a node that is a
single token. In the trees of sources, type names, primitive types and the names of declarations
are such nodes, so the types that a tree mentions and those that it declares do not depend on the
gaps at all.

## Main results

* `Java.mentions_withoutGaps` — the types that a tree mentions
* `Java.declaredTypes?_withoutGaps` — the types that a tree declares
-/

namespace JavaIndex.Java

variable {node : Node}

/-! ### Nodes -/

namespace Node

@[simp] theorem kind?_withoutGaps (node : Node) : node.withoutGaps.kind? = node.kind? := by
  cases node <;> rfl

@[simp] theorem isNamed_withoutGaps (node : Node) : node.withoutGaps.isNamed = node.isNamed := by
  rw [isNamed, isNamed, kind?_withoutGaps]

theorem children_withoutGaps (node : Node) :
    node.withoutGaps.children = node.children.map withoutGaps := by
  cases node with
  | bare | leaf => rfl
  | branch kind children => exact withoutGapsOfList_eq children

/-- What is picked by kind is picked without the gaps as well. -/
theorem filter_map_withoutGaps {picks : Node → Bool}
    (alike : ∀ node, picks node.withoutGaps = picks node) (nodes : List Node) :
    (nodes.map withoutGaps).filter picks = (nodes.filter picks).map withoutGaps := by
  rw [List.filter_map]
  congr 2
  exact funext alike

theorem find?_map_withoutGaps {picks : Node → Bool}
    (alike : ∀ node, picks node.withoutGaps = picks node) (nodes : List Node) :
    (nodes.map withoutGaps).find? picks = (nodes.find? picks).map withoutGaps := by
  rw [List.find?_map]
  congr 2
  exact funext alike

theorem namedChildren_withoutGaps (node : Node) :
    node.withoutGaps.namedChildren = node.namedChildren.map withoutGaps := by
  rw [namedChildren, children_withoutGaps, filter_map_withoutGaps isNamed_withoutGaps]
  rfl

end Node

open Node

@[simp] theorem isTypeBody_withoutGaps (node : Node) :
    isTypeBody node.withoutGaps = isTypeBody node := by
  rw [isTypeBody, isTypeBody, kind?_withoutGaps]

@[simp] theorem isTypeDeclaration_withoutGaps (node : Node) :
    isTypeDeclaration node.withoutGaps = isTypeDeclaration node := by
  rw [isTypeDeclaration, isTypeDeclaration, kind?_withoutGaps]

@[simp] theorem isCompoundType_withoutGaps (node : Node) :
    isCompoundType node.withoutGaps = isCompoundType node := by
  rw [isCompoundType, isCompoundType, kind?_withoutGaps]

/-- A node of a kind without branches is one token, and its text is that of the token. -/
theorem Spelled.text_withoutGaps (spelled : Spelled node) {kind : Kind}
    (isKind : node.kind? = some kind) (alone : kind.hasBranches = false) :
    node.withoutGaps.text = node.text := by
  cases spelled.conforms with
  | bare | leaf => rfl
  | branch branches =>
    obtain rfl := Option.some.inj isKind
    rw [alone] at branches
    cases branches

/-- What is collected from each of the children is collected from them without the gaps. -/
theorem flatMap_withoutGaps {α : Type} {collect : Node → List α} {nodes : List Node}
    (each : ∀ node ∈ nodes, collect node.withoutGaps = collect node) :
    (nodes.map withoutGaps).flatMap collect = nodes.flatMap collect := by
  rw [List.flatMap_map]
  exact List.flatMap_congr each

/-! ### Mentions -/

theorem segments_withoutGaps (spelled : Spelled node) :
    node.withoutGaps.segments = node.segments := by
  induction node using Node.childInduction with
  | bare => rfl
  | leaf kind token => rfl
  | branch kind children ih =>
    by_cases compound : isCompoundType (.branch kind children) = true
    · have compound' : isCompoundType (Node.branch kind children).withoutGaps = true := by
        rwa [isCompoundType_withoutGaps]
      rw [segments_of_compound compound, segments_of_compound compound', namedChildren_withoutGaps]
      refine flatMap_withoutGaps fun child member => ?_
      have below := List.mem_of_mem_filter member
      exact ih child below (spelled.of_mem_children below)
    · have noName : (Node.branch kind children).kind? ≠ some .typeIdentifier := fun isName => by
        obtain ⟨_, isLeaf, -⟩ := spelled.exists_word isName (.inr rfl)
        cases isLeaf
      rw [segments_eq_nil noName compound, segments_eq_nil]
      · rwa [kind?_withoutGaps]
      · rwa [isCompoundType_withoutGaps]

theorem ownMention_withoutGaps (spelled : Spelled node) :
    node.withoutGaps.ownMention = node.ownMention := by
  unfold ownMention
  rw [kind?_withoutGaps]
  cases isKind : node.kind? with
  | none => rfl
  | some kind =>
    cases kind with
    | integralType | floatingPointType | booleanType | typeIdentifier =>
      simp only [spelled.text_withoutGaps isKind rfl]
    | scopedTypeIdentifier | genericType => simp only [segments_withoutGaps spelled]
    | _ => rfl

/-- The parts of a node mention the same where each child does. -/
theorem partMentions_withoutGaps (spelled : Spelled node)
    (below : node.withoutGaps.mentionsBelow = node.mentionsBelow)
    (each : ∀ child ∈ node.namedChildren, child.withoutGaps.mentions = child.mentions) :
    partMentions node.withoutGaps = partMentions node := by
  have whole : node.withoutGaps.namedChildren.flatMap mentions =
      node.namedChildren.flatMap mentions := by
    rw [namedChildren_withoutGaps]
    exact flatMap_withoutGaps each
  unfold partMentions
  rw [kind?_withoutGaps]
  cases node.kind? with
  | none => exact whole
  | some kind =>
    cases kind with
    | packageDeclaration | importDeclaration => rfl
    | integralType | floatingPointType | booleanType | voidType | typeIdentifier => rfl
    | scopedTypeIdentifier | genericType => rwa [mentionsBelow_eq, mentionsBelow_eq] at below
    | typeParameter =>
      simp only [namedChildren_withoutGaps]
      refine flatMap_withoutGaps fun child member => ?_
      rw [kind?_withoutGaps]
      split_ifs with isName
      · rw [(spelled.of_mem_namedChildren member).text_withoutGaps isName rfl]
      · exact each child member
    | _ => exact whole

/-- The types that a tree mentions do not depend on the gaps. -/
theorem mentions_withoutGaps (spelled : Spelled node) :
    node.withoutGaps.mentions = node.mentions := by
  -- What is below class types is collected apart, so the induction is for both.
  suffices both : node.withoutGaps.mentions = node.mentions ∧
      node.withoutGaps.mentionsBelow = node.mentionsBelow from both.1
  induction node using Node.childInduction with
  | bare => exact ⟨rfl, rfl⟩
  | leaf kind token =>
    refine ⟨?_, rfl⟩
    exact ownMention_withoutGaps spelled
  | branch kind children ih =>
    have below : (Node.branch kind children).withoutGaps.mentionsBelow =
        (Node.branch kind children).mentionsBelow := by
      rw [withoutGaps_branch, mentionsBelow, mentionsBelow, mentionsOfArguments_eq,
        mentionsOfArguments_eq]
      refine flatMap_withoutGaps fun part inside => ?_
      obtain ⟨whole, inner⟩ := ih part inside (spelled.of_mem_children inside)
      rw [kind?_withoutGaps, isCompoundType_withoutGaps, whole, inner]
    refine ⟨?_, below⟩
    rw [mentions_eq, mentions_eq, ownMention_withoutGaps spelled,
      partMentions_withoutGaps spelled below fun child member => ?_]
    have inside : child ∈ children := List.mem_of_mem_filter member
    exact (ih child inside (spelled.of_mem_children inside)).1

/-! ### Declared types -/

theorem declaredName?_withoutGaps {parts : List Node} (spelled : ∀ part ∈ parts, Spelled part) :
    declaredName? (parts.map withoutGaps) = declaredName? parts := by
  rw [declaredName?, declaredName?, find?_map_withoutGaps (by simp), Option.map_map]
  cases found : parts.find? fun part => part.kind? == some .identifier with
  | none => rfl
  | some word =>
    have isName : word.kind? = some .identifier := by simpa using List.find?_some found
    have isWord := spelled word (List.mem_of_find?_eq_some found)
    exact congrArg some (isWord.text_withoutGaps isName rfl)

/-- The types in a body are the same where they are in each of the parts. -/
theorem typesBelow_withoutGaps {outer : String}
    (each : ∀ part ∈ node.children, memberTypes outer part.withoutGaps = memberTypes outer part) :
    typesBelow outer node.withoutGaps = typesBelow outer node := by
  rw [typesBelow_eq, typesBelow_eq, children_withoutGaps]
  exact flatMap_withoutGaps each

theorem typesInBody_withoutGaps {outer : String} {parts : List Node}
    (each : ∀ part ∈ parts, typesBelow outer part.withoutGaps = typesBelow outer part) :
    typesInBody outer (parts.map withoutGaps) = typesInBody outer parts := by
  rw [typesInBody_eq, typesInBody_eq, find?_map_withoutGaps isTypeBody_withoutGaps, Option.map_map]
  cases found : parts.find? isTypeBody with
  | none => rfl
  | some body => exact each body (List.mem_of_find?_eq_some found)

/-- Neither a part of a body nor a body declares other types without the gaps. -/
theorem memberTypes_withoutGaps (spelled : Spelled node) (outer : String) :
    memberTypes outer node.withoutGaps = memberTypes outer node ∧
      typesBelow outer node.withoutGaps = typesBelow outer node := by
  induction node using Node.childInduction generalizing outer with
  | bare | leaf => exact ⟨rfl, rfl⟩
  | branch kind children ih =>
    have spelledBelow : ∀ child ∈ children, Spelled child :=
      fun child inside => spelled.of_mem_children inside
    have below : typesBelow outer (Node.branch kind children).withoutGaps =
        typesBelow outer (.branch kind children) :=
      typesBelow_withoutGaps fun part inside => (ih part inside (spelledBelow part inside) outer).1
    refine ⟨?_, below⟩
    rw [withoutGaps_branch] at below ⊢
    rw [memberTypes, memberTypes, declaredName?_withoutGaps spelledBelow]
    split_ifs
    · exact below
    · cases declaredName? children with
      | none => rfl
      | some name =>
        refine congrArg _ (typesInBody_withoutGaps fun part inside => ?_)
        exact (ih part inside (spelledBelow part inside) _).2
    · rfl

theorem topLevelTypes_withoutGaps {root : Node} (spelled : Spelled root) :
    topLevelTypes root.withoutGaps = (topLevelTypes root).map (Prod.map withoutGaps id) := by
  rw [topLevelTypes, topLevelTypes, namedChildren_withoutGaps,
    filter_map_withoutGaps isTypeDeclaration_withoutGaps, List.filterMap_map, List.map_filterMap]
  refine List.filterMap_congr fun child member => ?_
  have isSpelled := spelled.of_mem_namedChildren (List.mem_of_mem_filter member)
  have named : declaredName? child.withoutGaps.children = declaredName? child.children := by
    rw [children_withoutGaps]
    exact declaredName?_withoutGaps fun part inside => isSpelled.of_mem_children inside
  rw [Function.comp_apply, named, Option.map_map]
  rfl

/-- The primary type is chosen by name, whatever becomes of the declarations. -/
theorem primaryType?_map (change : Node → Node) (types : List (Node × String))
    (stem : Option String) :
    primaryType? (types.map (Prod.map change id)) stem =
      (primaryType? types stem).map (Prod.map change id) := by
  rw [primaryType?, primaryType?, Option.map_or, List.head?_map]
  cases stem with
  | none => rfl
  | some text =>
    rw [Option.bind_some, Option.bind_some, List.find?_map]
    rfl

/-- The types that a tree declares do not depend on the gaps. -/
theorem declaredTypes?_withoutGaps {root : Node} (regular : Regular root)
    (stem : Option String) : declaredTypes? root.withoutGaps stem = declaredTypes? root stem := by
  rw [declaredTypes?, declaredTypes?, topLevelTypes_withoutGaps regular.spelled, primaryType?_map,
    Option.map_map]
  cases chosen : primaryType? (topLevelTypes root) stem with
  | none => rfl
  | some type =>
    obtain ⟨declaration, name⟩ := type
    obtain ⟨-, listed, -⟩ := isPrimary_of_primaryType? regular chosen
    have spelled := regular.spelled.of_mem_children (List.mem_of_mem_filter listed)
    have inner : typesInBody "" declaration.withoutGaps.children =
        typesInBody "" declaration.children := by
      rw [children_withoutGaps]
      refine typesInBody_withoutGaps fun part inside => ?_
      exact (memberTypes_withoutGaps (spelled.of_mem_children inside) "").2
    simp [inner]

end JavaIndex.Java
