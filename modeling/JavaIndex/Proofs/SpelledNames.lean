import JavaIndex.Proofs.MemberTypes
import JavaIndex.Proofs.SourceOrder

/-!
# How names are spelled

The names in a tree are the tokens of its identifiers. Every name that is read off a source is
made of such tokens and of nothing else: a reference to a class is some of them in source order,
joined by dots, and so is the way to an inner type. Whatever stands between the tokens, be it
white space, a comment, an annotation or type arguments, leaves no trace. References to primitive
types are the keywords of these types.

## Main definitions

* `Java.Node.nameTokens` — the tokens of the identifiers in a tree
* `Java.IsSpelledFrom` — a reference is made of such tokens

## Main results

* `Java.exists_segments` — the segments of a class type are tokens in order
* `Java.isSpelledFrom_of_mem_mentions` — mentions are made of the names in a tree
* `Java.isSpelledFrom_of_mem_typeReferences`, `Java.isToken_of_declaredTypes?` — the names that
  are read off a tree
* `Java.names_spelled` — the names that are read off a source
-/

namespace JavaIndex.Java

variable {node child : Node} {reference : TypeReference}

/-! ### The names in a tree -/

namespace Node

mutual

/-- The tokens of the identifiers in a tree, from left to right. -/
def nameTokens : Node → List Token
  | bare _ => []
  | leaf kind token => if kind = .identifier ∨ kind = .typeIdentifier then [token] else []
  | branch _ children => nameTokensOfList children

/-- The tokens of the identifiers in a list of trees. -/
def nameTokensOfList : List Node → List Token
  | [] => []
  | node :: rest => node.nameTokens ++ nameTokensOfList rest

end

theorem nameTokensOfList_eq (nodes : List Node) :
    nameTokensOfList nodes = nodes.flatMap nameTokens := by
  induction nodes with
  | nil => rfl
  | cons node rest ih => rw [nameTokensOfList, ih, List.flatMap_cons]

theorem tokensOfList_eq (nodes : List Node) : tokensOfList nodes = nodes.flatMap tokens := by
  induction nodes with
  | nil => rfl
  | cons node rest ih => rw [tokensOfList, ih, List.flatMap_cons]

theorem nameTokens_branch (kind : Kind) (children : List Node) :
    (branch kind children).nameTokens = children.flatMap nameTokens :=
  nameTokensOfList_eq children

/-- A child has its names in the order that they have in the whole. -/
theorem nameTokens_sublist_of_mem (member : child ∈ node.children) :
    child.nameTokens.Sublist node.nameTokens := by
  cases node with
  | bare | leaf => cases member
  | branch kind children =>
    rw [nameTokens_branch]
    obtain ⟨before, after, rfl⟩ := List.append_of_mem member
    rw [List.flatMap_append, List.flatMap_cons]
    exact (List.sublist_append_left _ _).trans (List.sublist_append_right _ _)

theorem nameTokens_sublist (node : Node) : node.nameTokens.Sublist node.tokens := by
  induction node using childInduction with
  | bare token => exact List.nil_sublist _
  | leaf kind token =>
    rw [nameTokens]
    split_ifs
    · exact List.Sublist.refl _
    · exact List.nil_sublist _
  | branch kind children ih =>
    rw [nameTokens_branch, tokens, tokensOfList_eq]
    induction children with
    | nil => exact List.nil_sublist _
    | cons child rest ihRest =>
      obtain ⟨here, there⟩ := List.forall_mem_cons.mp ih
      rw [List.flatMap_cons, List.flatMap_cons]
      exact here.append (ihRest there)

end Node

theorem Spelled.sort_of_mem_nameTokens (spelled : Spelled node) :
    ∀ token ∈ node.nameTokens, token.sort = .word := by
  induction node using Node.childInduction with
  | bare => nofun
  | leaf kind token =>
    intro other member
    rw [Node.nameTokens] at member
    split_ifs at member with names
    · obtain ⟨word, same, isWord, -⟩ := spelled.exists_word rfl names
      obtain rfl : token = word := by simpa using same
      rwa [List.mem_singleton.mp member]
    · cases member
  | branch kind children ih =>
    intro token member
    rw [Node.nameTokens_branch, List.mem_flatMap] at member
    obtain ⟨child, inside, member⟩ := member
    exact ih child inside (spelled.of_mem_children inside) token member

/-! ### References -/

/-- The keywords of the primitive types. -/
def primitiveKeywords : List String :=
  ["byte", "short", "int", "long", "char", "float", "double", "boolean"]

/-- A reference to a class is made of names in order, joined by dots; one to a primitive type is
its keyword. -/
def IsSpelledFrom (names : List Token) : TypeReference → Prop
  | .classOrInterface text => ∃ words, words ≠ [] ∧ words.Sublist names ∧
    text = ".".intercalate (words.map Token.text)
  | .primitive text => text ∈ primitiveKeywords
  | .other _ => True

theorem IsSpelledFrom.mono {names names' : List Token} (spelled : IsSpelledFrom names reference)
    (fewer : names.Sublist names') : IsSpelledFrom names' reference := by
  cases reference with
  | primitive text => exact spelled
  | classOrInterface text =>
    obtain ⟨words, nonempty, sublist, joined⟩ := spelled
    exact ⟨words, nonempty, sublist.trans fewer, joined⟩
  | other text => exact trivial

/-- The segments of a class type are names in order: each is a leaf of its own. -/
theorem exists_segments (spelled : Spelled node) :
    ∃ words : List Token, words.Sublist node.nameTokens ∧ node.segments = words.map Token.text := by
  induction node using Node.childInduction with
  | bare token => exact ⟨[], List.nil_sublist _, rfl⟩
  | leaf kind token =>
    by_cases isName : kind = .typeIdentifier
    · subst isName
      exact ⟨[token], List.Sublist.refl _, rfl⟩
    · exact ⟨[], List.nil_sublist _, by rw [Node.segments, if_neg isName]; rfl⟩
  | branch kind children ih =>
    by_cases compound : isCompoundType (.branch kind children) = true
    · rw [segments_of_compound compound, Node.flatMap_namedChildren (fun _ => rfl),
        Node.nameTokens_branch, Node.children]
      replace ih : ∀ child ∈ children, ∃ words : List Token,
          words.Sublist child.nameTokens ∧ child.segments = words.map Token.text :=
        fun child inside => ih child inside (spelled.of_mem_children inside)
      clear spelled compound
      induction children with
      | nil => exact ⟨[], List.nil_sublist _, rfl⟩
      | cons child rest ihRest =>
        obtain ⟨⟨first, firstIn, firstEq⟩, others⟩ := List.forall_mem_cons.mp ih
        obtain ⟨later, laterIn, laterEq⟩ := ihRest others
        refine ⟨first ++ later, firstIn.append laterIn, ?_⟩
        rw [List.flatMap_cons, firstEq, laterEq, List.map_append]
    · refine ⟨[], List.nil_sublist _, segments_eq_nil (fun isName => ?_) compound⟩
      obtain ⟨_, isLeaf, -⟩ := spelled.exists_word isName (.inr rfl)
      cases isLeaf

/-- Only keywords are read as primitive types. -/
theorem Kind.exists_keyword {kind : Kind} {terminal : Terminal}
    (isPrimitive : kind.isPrimitive = true) (spelled : kind.isSpelledBy terminal = true) :
    ∃ text ∈ primitiveKeywords, terminal = .keyword text := by
  have listed {texts : List String} (within : texts ⊆ primitiveKeywords) {text : String}
      (among : texts.contains text = true) : text ∈ primitiveKeywords :=
    within (List.contains_iff_mem.mp among)
  cases kind with
  | integralType | floatingPointType =>
    cases terminal with
    | keyword text => exact ⟨text, listed (by decide) spelled, rfl⟩
    | _ => cases spelled
  | booleanType =>
    cases terminal with
    | keyword text =>
      obtain rfl : text = "boolean" := beq_iff_eq.mp spelled
      exact ⟨"boolean", by decide, rfl⟩
    | _ => cases spelled
  | _ => cases isPrimitive

/-- The text of a primitive type is its keyword. -/
theorem Spelled.text_mem_primitiveKeywords (spelled : Spelled node) {kind : Kind}
    (isKind : node.kind? = some kind) (isPrimitive : kind.isPrimitive = true) :
    node.text ∈ primitiveKeywords := by
  cases spelled.conforms with
  | bare => cases isKind
  | @branch inner _ branches =>
    obtain rfl : inner = kind := Option.some.inj isKind
    cases inner with
    | integralType | floatingPointType | booleanType => cases branches
    | _ => cases isPrimitive
  | @leaf inner terminal token wellSpelled accepted =>
    obtain rfl : inner = kind := Option.some.inj isKind
    obtain ⟨text, listed, rfl⟩ := Kind.exists_keyword isPrimitive wellSpelled
    rw [Terminal.accepts, Bool.and_eq_true, beq_iff_eq, beq_iff_eq] at accepted
    rw [← accepted.2] at listed
    exact listed

/-- What a node mentions by itself is made of its names. -/
theorem isSpelledFrom_ownMention (spelled : Spelled node) :
    ∀ reference ∈ node.ownMention, IsSpelledFrom node.nameTokens reference := by
  have primitive {kind : Kind} (isKind : node.kind? = some kind)
      (isPrimitive : kind.isPrimitive = true) :
      ∀ reference ∈ [TypeReference.primitive node.text],
        IsSpelledFrom node.nameTokens reference := by
    rw [List.forall_mem_singleton]
    exact spelled.text_mem_primitiveKeywords isKind isPrimitive
  have single (isName : node.kind? = some .typeIdentifier) :
      ∀ reference ∈ [nameReference node.text], IsSpelledFrom node.nameTokens reference := by
    obtain ⟨token, rfl, -, -⟩ := spelled.exists_word isName (.inr rfl)
    rw [List.forall_mem_singleton, nameReference]
    split_ifs
    · exact trivial
    · exact ⟨[token], List.cons_ne_nil _ _, List.Sublist.refl _, String.intercalate_singleton.symm⟩
  have joined : ∀ reference ∈ Node.joinedReference node.segments,
      IsSpelledFrom node.nameTokens reference := by
    obtain ⟨words, sublist, segments⟩ := exists_segments spelled
    rw [segments, Node.joinedReference]
    split_ifs with empty
    · nofun
    · rw [List.forall_mem_singleton]
      exact ⟨words, fun none => empty (by rw [none]; rfl), sublist, rfl⟩
  unfold Node.ownMention
  cases isKind : node.kind? with
  | none => nofun
  | some kind =>
    cases kind with
    | integralType | floatingPointType | booleanType => exact primitive isKind rfl
    | typeIdentifier => exact single isKind
    | scopedTypeIdentifier | genericType => exact joined
    | voidType | wildcard => exact List.forall_mem_singleton.mpr trivial
    | _ => nofun

/-! ### Whole trees -/

/-- What the type arguments below a class type mention is mentioned in one of its parts. -/
theorem exists_of_mem_mentionsBelow (member : reference ∈ node.mentionsBelow) :
    ∃ part ∈ node.children, reference ∈ part.mentions ∨ reference ∈ part.mentionsBelow := by
  cases node with
  | bare | leaf => cases member
  | branch kind children =>
    rw [Node.mentionsBelow, Node.mentionsOfArguments_eq, List.mem_flatMap] at member
    obtain ⟨part, inside, mentioned⟩ := member
    refine ⟨part, inside, ?_⟩
    split_ifs at mentioned
    · exact .inl mentioned
    · exact .inr mentioned
    · cases mentioned

/-- What is mentioned below a node is mentioned in one of its parts, unless it is the name of a
type parameter. -/
theorem exists_of_mem_partMentions (member : reference ∈ partMentions node) :
    (∃ text, reference = .other text) ∨
      ∃ part ∈ node.children, reference ∈ part.mentions ∨ reference ∈ part.mentionsBelow := by
  have whole (found : reference ∈ node.namedChildren.flatMap Node.mentions) :
      ∃ part ∈ node.children, reference ∈ part.mentions ∨ reference ∈ part.mentionsBelow := by
    obtain ⟨part, inside, mentioned⟩ := List.mem_flatMap.mp found
    exact ⟨part, List.mem_of_mem_filter inside, .inl mentioned⟩
  unfold partMentions at member
  cases isKind : node.kind? with
  | none => exact .inr (whole (by simpa [isKind] using member))
  | some kind =>
    rw [isKind] at member
    cases kind with
    | packageDeclaration | importDeclaration => cases member
    | integralType | floatingPointType | booleanType | voidType | typeIdentifier => cases member
    | scopedTypeIdentifier | genericType =>
      exact .inr (exists_of_mem_mentionsBelow (mentionsBelow_eq node ▸ member))
    | typeParameter =>
      obtain ⟨part, inside, mentioned⟩ := List.mem_flatMap.mp member
      split_ifs at mentioned
      · exact .inl ⟨part.text, List.mem_singleton.mp mentioned⟩
      · exact .inr ⟨part, List.mem_of_mem_filter inside, .inl mentioned⟩
    | _ => exact .inr (whole member)

/-- All that a tree mentions is made of its names. -/
theorem isSpelledFrom_of_mem_mentions (spelled : Spelled node)
    (member : reference ∈ node.mentions) : IsSpelledFrom node.nameTokens reference := by
  -- What is below a class type is mentioned there apart from the type itself, so the induction is
  -- for both.
  suffices both : reference ∈ node.mentions ∨ reference ∈ node.mentionsBelow →
      IsSpelledFrom node.nameTokens reference from both (.inl member)
  clear member
  induction node using Node.childInduction with
  | bare =>
    rintro (member | member)
    · cases member
    · cases member
  | leaf kind token =>
    rintro (member | member)
    · exact isSpelledFrom_ownMention spelled reference member
    · cases member
  | branch kind children ih =>
    have inPart (found : ∃ part ∈ children,
        reference ∈ part.mentions ∨ reference ∈ part.mentionsBelow) :
        IsSpelledFrom (Node.branch kind children).nameTokens reference := by
      obtain ⟨part, inside, mentioned⟩ := found
      exact (ih part inside (spelled.of_mem_children inside) mentioned).mono
        (Node.nameTokens_sublist_of_mem inside)
    rintro (member | member)
    · rw [mentions_eq, List.mem_append] at member
      rcases member with own | part
      · exact isSpelledFrom_ownMention spelled reference own
      · rcases exists_of_mem_partMentions part with ⟨text, rfl⟩ | found
        · exact trivial
        · exact inPart found
    · exact inPart (exists_of_mem_mentionsBelow member)

/-! ### Declared names -/

/-- The text is that of one of the names in a tree. -/
def IsToken (node : Node) (text : String) : Prop :=
  ∃ token ∈ node.nameTokens, token.text = text

theorem IsToken.of_mem_children {text : String} (isToken : IsToken child text)
    (member : child ∈ node.children) : IsToken node text := by
  obtain ⟨token, inside, rfl⟩ := isToken
  exact ⟨token, (Node.nameTokens_sublist_of_mem member).subset inside, rfl⟩

theorem IsNamed.isToken {name : String} (isNamed : IsNamed node name) : IsToken node name := by
  obtain ⟨token, inside, rfl⟩ := isNamed
  have here : token ∈ (Node.leaf .identifier token).nameTokens := List.mem_singleton_self token
  exact IsToken.of_mem_children ⟨token, here, rfl⟩ inside

theorem IsMember.isToken {body member : Node} {text : String} (isMember : IsMember body member)
    (isToken : IsToken member text) : IsToken body text := by
  induction isMember with
  | direct inside => exact isToken.of_mem_children inside
  | inSection inside _ _ ih => exact (ih isToken).of_mem_children inside

/-- The names on a way along members are names in the tree. -/
theorem MemberPath.isToken {body : Node} {names : List String} (path : MemberPath body names) :
    ∀ name ∈ names, IsToken body name := by
  induction path with
  | last isMember declares =>
    exact List.forall_mem_singleton.mpr (isMember.isToken declares.isNamed.isToken)
  | further isMember declares _ ih =>
    refine List.forall_mem_cons.mpr ⟨isMember.isToken declares.isNamed.isToken, ?_⟩
    exact fun name member => isMember.isToken ((ih name member).of_mem_children declares.body_mem)

/-! ### Trees and sources -/

section

variable {root : Node} (regular : Regular root)
include regular

theorem identifier_of_mem_nameTokens : ∀ token ∈ root.nameTokens,
    token.sort = .word ∧ Text.isIdentifier token.text = true := by
  intro token member
  have isWord := regular.spelled.sort_of_mem_nameTokens token member
  exact ⟨isWord, regular.spelled.words token (root.nameTokens_sublist.subset member) isWord⟩

/-- The references of a tree are made of the names in it. -/
theorem isSpelledFrom_of_mem_typeReferences :
    ∀ reference ∈ typeReferences root, IsSpelledFrom root.nameTokens reference := by
  intro reference member
  rw [typeReferences_eq] at member
  exact isSpelledFrom_of_mem_mentions regular.spelled member

/-- The types that a tree declares are named by names in it, joined by dots. -/
theorem isToken_of_declaredTypes? {stem : Option String} {declared : DeclaredTypes}
    (found : declaredTypes? root stem = some declared) :
    IsToken root declared.primary ∧
      ∀ name ∈ declared.inner, ∀ piece ∈ Text.splitAll '.' name, IsToken root piece := by
  obtain ⟨declaration, body, isPrimary, declares, members⟩ := declaredTypes?_eq_some regular found
  have inside := isPrimary.mem_children
  refine ⟨declares.isNamed.isToken.of_mem_children inside, fun name member piece isPiece => ?_⟩
  obtain ⟨names, path, rfl⟩ := (members name).mp member
  have isRegular := declares.regular (regular.of_mem_children inside)
  have pieces : Text.splitAll '.' (".".intercalate names) = names :=
    Text.splitAll_intercalate path.ne_nil fun name listed =>
      Text.dot_notMem_of_isIdentifier (path.isIdentifier isRegular name listed)
  rw [pieces] at isPiece
  exact ((path.isToken piece isPiece).of_mem_children declares.body_mem).of_mem_children inside

end

/-- All names that are read off a source are made of the names in it. -/
theorem names_spelled {source : String} {root : Node} (parsed : parse source = .ok root) :
    (tokenize source.toList = .ok root.tokens ∧ root.nameTokens.Sublist root.tokens ∧
      ∀ token ∈ root.nameTokens, token.sort = .word ∧ Text.isIdentifier token.text = true) ∧
    (∀ reference ∈ typeReferences root, IsSpelledFrom root.nameTokens reference) ∧
    ∀ stem declared, declaredTypes? root stem = some declared →
      IsToken root declared.primary ∧
        ∀ name ∈ declared.inner, ∀ piece ∈ Text.splitAll '.' name, IsToken root piece := by
  have regular := regular_of_parse parsed
  exact ⟨⟨tokens_of_parse parsed, root.nameTokens_sublist, identifier_of_mem_nameTokens regular⟩,
    isSpelledFrom_of_mem_typeReferences regular, fun _ _ => isToken_of_declaredTypes? regular⟩

/-- A class type with much between its segments, and two types inside a class. -/
def spacedTypes : String :=
  "class A \x7b java . util /* maps */ . @N Map < String , int [ ] > f ; " ++
    "class B \x7b class C \x7b\x7d \x7d \x7d"

/-- Neither the comment nor the annotation nor the type arguments are in the name of the map. -/
theorem names_spelled_spaced : ∃ root declared,
    parse spacedTypes = .ok root ∧ declaredTypes? root none = some declared ∧
      typeReferences root =
        [.classOrInterface "java.util.Map", .classOrInterface "String", .primitive "int"] ∧
      declared = ⟨"A", ["B", "B.C"]⟩ ∧
      (∀ reference ∈ typeReferences root, IsSpelledFrom root.nameTokens reference) ∧
      ∀ name ∈ declared.inner, ∀ piece ∈ Text.splitAll '.' name, IsToken root piece := by
  have references : (parse spacedTypes).toOption.map typeReferences =
      some [.classOrInterface "java.util.Map", .classOrInterface "String", .primitive "int"] := by
    decide +kernel
  have types : (parse spacedTypes).toOption.bind (declaredTypes? · none) =
      some ⟨"A", ["B", "B.C"]⟩ := by
    decide +kernel
  cases parsed : parse spacedTypes with
  | error _ => rw [parsed] at references; cases references
  | ok root =>
    rw [parsed] at references types
    obtain ⟨-, spelled, declares⟩ := names_spelled parsed
    exact ⟨root, _, rfl, types, Option.some.inj references, rfl, spelled, (declares none _ types).2⟩

end JavaIndex.Java
