import JavaIndex.Proofs.Arrangements
import JavaIndex.Proofs.ClassTypes
import JavaIndex.Proofs.Failures
import JavaIndex.Proofs.Lookups

/-!
# Member types

A type declaration has one name and one body, and the types that are declared in the body are its
members. In the body of an enum, members stand in a section of their own behind the constants. A
type inside a method, an initializer, an expression or the body of an enum constant is below the
body but no member of it.

The inner types of a file are the types that are reached from the primary type by going from a
type to its members, one step or more, and each is named by the names on the way. The type that
encloses an inner type is therefore an inner type as well, or the primary one.

## Main definitions

* `Java.Regular` — what is known of the trees of sources
* `Java.Declares` — the name and the body of a declaration
* `Java.IsMember`, `Java.MemberPath` — the members of a body, and the ways to those below
* `Java.IsPrimary` — the declaration of the type that a file is about

## Main results

* `Java.exists_declares` — each declaration has a name and a body
* `Java.mem_typesBelow` — the inner types are the ways along members
* `Java.declaredTypes?_eq_some` — the types that a file declares
* `Outline.declares_of_regular` — the types of an outline, for any parser
* `Outline.declares_members` — those of a Java source
-/

namespace JavaIndex.Java

variable {node child declaration body member inner root : Node} {name text outer : String}
  {names : List String}

/-! ### Trees of sources -/

/-- A tree with the shapes, the words and the order of parts that trees of sources have. -/
structure Regular (node : Node) : Prop where
  spelled : Spelled node
  arranged : Arranged node

theorem regular_of_parse {source : String} (parsed : parse source = .ok root) : Regular root :=
  ⟨spelled_of_parse parsed, arranged_of_parse parsed⟩

theorem Regular.of_mem_children (regular : Regular node) (member : child ∈ node.children) :
    Regular child :=
  ⟨regular.spelled.of_mem_children member, regular.arranged.of_mem_children member⟩

/-! ### Declarations -/

/-- The declaration of a type is named: its name is a word right below it. -/
def IsNamed (declaration : Node) (name : String) : Prop :=
  ∃ token, .leaf .identifier token ∈ declaration.children ∧ token.text = name

/-- A type declaration with its name and its body. -/
structure Declares (declaration : Node) (name : String) (body : Node) : Prop where
  isDeclaration : isTypeDeclaration declaration = true
  isNamed : IsNamed declaration name
  body_mem : body ∈ declaration.children
  isBody : isTypeBody body = true

/-- Types are declared by branches: no single token does it. -/
theorem Regular.exists_branch (regular : Regular declaration)
    (declares : isTypeDeclaration declaration = true) :
    ∃ kind children, declaration = .branch kind children ∧ kind.declaresType = true := by
  cases regular.spelled.conforms with
  | bare => cases declares
  | @leaf kind _ _ wellSpelled => cases kind <;> first | cases wellSpelled | cases declares
  | @branch kind children => exact ⟨kind, children, rfl, declares⟩

/-- One word and one body stand right below the declaration of a type. -/
theorem Regular.exists_parts (regular : Regular declaration)
    (declares : isTypeDeclaration declaration = true) :
    ∃ token body, Text.isIdentifier token.text = true ∧
      declaration.children.filter (fun part => part.kind? == some .identifier) =
        [.leaf .identifier token] ∧
      declaration.children.filter isTypeBody = [body] := by
  obtain ⟨kind, children, rfl, isKind⟩ := regular.exists_branch declares
  obtain ⟨word, onlyWord⟩ := regular.arranged.exists_name isKind
  obtain ⟨body, onlyBody⟩ := regular.arranged.exists_body isKind
  have inside : word ∈ children.filter fun part => part.kind? == some .identifier := by
    rw [onlyWord]
    exact List.mem_singleton_self word
  obtain ⟨below, isName⟩ := List.mem_filter.mp inside
  obtain ⟨token, rfl, -, identifier⟩ :=
    (regular.of_mem_children below).spelled.exists_word (beq_iff_eq.mp isName) (.inl rfl)
  exact ⟨token, body, identifier, onlyWord, onlyBody⟩

/-- The name of a declaration is the only word right below it. -/
theorem declaredName?_eq_some_iff (regular : Regular declaration)
    (declares : isTypeDeclaration declaration = true) :
    declaredName? declaration.children = some name ↔ IsNamed declaration name := by
  obtain ⟨token, -, -, only, -⟩ := regular.exists_parts declares
  have named {other : Token} :
      .leaf .identifier other ∈ declaration.children ↔ other = token := by
    have kept : .leaf .identifier other ∈ declaration.children.filter
        (fun part => part.kind? == some .identifier) ↔ other = token := by
      rw [only, List.mem_singleton, Node.leaf.injEq]
      simp
    rw [← kept, List.mem_filter]
    simp [Node.kind?]
  rw [declaredName?, ← List.head?_filter, only]
  simp [IsNamed, named, Node.text, Node.tokens, Node.spell]

theorem isIdentifier_of_isNamed (regular : Regular declaration)
    (isNamed : IsNamed declaration name) : Text.isIdentifier name = true := by
  obtain ⟨token, inside, rfl⟩ := isNamed
  obtain ⟨other, same, -, identifier⟩ :=
    (regular.of_mem_children inside).spelled.exists_word rfl (.inl rfl)
  obtain rfl : token = other := by simpa using same
  exact identifier

/-- Each declaration of a type has a name and a body. -/
theorem exists_declares (regular : Regular declaration)
    (declares : isTypeDeclaration declaration = true) :
    ∃ name body, Declares declaration name body := by
  obtain ⟨token, body, -, onlyWord, onlyBody⟩ := regular.exists_parts declares
  have word : .leaf .identifier token ∈ declaration.children :=
    List.mem_of_mem_filter (onlyWord ▸ List.mem_singleton_self _)
  have inside : body ∈ declaration.children.filter isTypeBody :=
    onlyBody ▸ List.mem_singleton_self _
  obtain ⟨below, isBody⟩ := List.mem_filter.mp inside
  exact ⟨token.text, body, declares, ⟨token, word, rfl⟩, below, isBody⟩

theorem typesInBody_eq (outer : String) (parts : List Node) :
    typesInBody outer parts = ((parts.find? isTypeBody).map (typesBelow outer)).getD [] := by
  induction parts with
  | nil => rfl
  | cons part rest ih =>
    rw [typesInBody, List.find?_cons]
    cases isTypeBody part with
    | true => rfl
    | false => exact ih

/-- The types in a declaration are those in its body. -/
theorem Declares.typesInBody_eq (declares : Declares declaration name body)
    (regular : Regular declaration) (outer : String) :
    typesInBody outer declaration.children = typesBelow outer body := by
  obtain ⟨-, only, -, -, found⟩ := regular.exists_parts declares.isDeclaration
  have inside : body ∈ declaration.children.filter isTypeBody :=
    List.mem_filter.mpr ⟨declares.body_mem, declares.isBody⟩
  rw [found, List.mem_singleton] at inside
  rw [Java.typesInBody_eq, ← List.head?_filter, found, inside]
  rfl

/-! ### Members -/

/-- The declaration is a member of the body: it stands right in it, or in the section for the
members of an enum. -/
inductive IsMember : Node → Node → Prop
  | direct {body member : Node} (inside : member ∈ body.children)
    (declares : isTypeDeclaration member = true) : IsMember body member
  | inSection {body part member : Node} (inside : part ∈ body.children)
    (isSection : part.kind? = some .enumBodyDeclarations) (isMember : IsMember part member) :
    IsMember body member

/-- The names lead from a body to a member type, to a member type of that one and so on. -/
inductive MemberPath : Node → List String → Prop
  | last {body member inner : Node} {name : String} (isMember : IsMember body member)
    (declares : Declares member name inner) : MemberPath body [name]
  | further {body member inner : Node} {name : String} {names : List String}
    (isMember : IsMember body member) (declares : Declares member name inner)
    (onward : MemberPath inner names) : MemberPath body (name :: names)

theorem IsMember.regular (isMember : IsMember body member) (regular : Regular body) :
    Regular member := by
  induction isMember with
  | direct inside => exact regular.of_mem_children inside
  | inSection inside _ _ ih => exact ih (regular.of_mem_children inside)

theorem Declares.regular (declares : Declares declaration name body)
    (regular : Regular declaration) : Regular body :=
  regular.of_mem_children declares.body_mem

namespace MemberPath

theorem ne_nil (path : MemberPath body names) : names ≠ [] := by
  cases path <;> exact List.cons_ne_nil _ _

theorem isIdentifier (path : MemberPath body names) (regular : Regular body) :
    ∀ name ∈ names, Text.isIdentifier name = true := by
  induction path with
  | last isMember declares =>
    rw [List.forall_mem_singleton]
    exact isIdentifier_of_isNamed (isMember.regular regular) declares.isNamed
  | further isMember declares _ ih =>
    have below := isMember.regular regular
    exact List.forall_mem_cons.mpr
      ⟨isIdentifier_of_isNamed below declares.isNamed, ih (declares.regular below)⟩

/-- Members of an enum's section are members of its body. -/
theorem inSection {part : Node} (path : MemberPath part names) (inside : part ∈ body.children)
    (isSection : part.kind? = some .enumBodyDeclarations) : MemberPath body names := by
  cases path with
  | last isMember declares => exact .last (.inSection inside isSection isMember) declares
  | further isMember declares onward =>
    exact .further (.inSection inside isSection isMember) declares onward

/-- The way to the enclosing type, if there is still one. -/
theorem dropLast {last : String} (path : MemberPath body (names ++ [last])) :
    names = [] ∨ MemberPath body names := by
  induction names generalizing body with
  | nil => exact .inl rfl
  | cons name rest ih =>
    refine .inr ?_
    generalize whole : name :: rest ++ [last] = all at path
    cases path with
    | last => simp at whole
    | further isMember declares onward =>
      obtain ⟨rfl, rfl⟩ := List.cons.inj whole
      rcases ih onward with rfl | shorter
      · exact .last isMember declares
      · exact .further isMember declares shorter

end MemberPath

/-! ### The names of members -/

theorem memberTypesOfList_eq (outer : String) (parts : List Node) :
    memberTypesOfList outer parts = parts.flatMap (memberTypes outer) := by
  induction parts with
  | nil => rfl
  | cons part rest ih => rw [memberTypesOfList, ih, List.flatMap_cons]

theorem typesBelow_eq (outer : String) (body : Node) :
    typesBelow outer body = body.children.flatMap (memberTypes outer) := by
  cases body with
  | bare | leaf => rfl
  | branch kind parts => exact memberTypesOfList_eq outer parts

/-- What one part of a body contributes: the members of a section, or the type that it declares
and the types below that one. -/
theorem mem_memberTypes (regular : Regular node) : text ∈ memberTypes outer node ↔
    node.kind? = some .enumBodyDeclarations ∧ text ∈ typesBelow outer node ∨
      ∃ name inner, Declares node name inner ∧
        (text = below outer name ∨ text ∈ typesBelow (below outer name) inner) := by
  by_cases declares : isTypeDeclaration node = true
  · obtain ⟨kind, parts, rfl, isKind⟩ := regular.exists_branch declares
    obtain ⟨name, inner, isDeclared⟩ := exists_declares regular declares
    have named := (declaredName?_eq_some_iff regular declares).mpr isDeclared.isNamed
    have noSection : kind ≠ .enumBodyDeclarations := by
      rintro rfl
      cases isKind
    -- The name and the body are the only ones, so what is listed for them is all there is.
    have types := isDeclared.typesInBody_eq regular (below outer name)
    rw [Node.children] at named types
    rw [memberTypes, if_neg noSection, if_pos isKind, named]
    simp only [types, List.mem_cons]
    constructor
    · exact fun found => .inr ⟨name, inner, isDeclared, found⟩
    · rintro (⟨isSection, -⟩ | ⟨name', inner', isDeclared', found⟩)
      · exact absurd (Option.some.inj isSection) noSection
      · obtain rfl : name = name' := by
          have named' := (declaredName?_eq_some_iff regular declares).mpr isDeclared'.isNamed
          exact Option.some.inj (named.symm.trans named')
        rw [← isDeclared'.typesInBody_eq regular, Node.children, types] at found
        exact found
  · have nothing (name inner) : ¬Declares node name inner :=
      fun isDeclared => declares isDeclared.isDeclaration
    simp only [nothing, false_and, exists_false, or_false]
    cases node with
    | bare | leaf => simp [memberTypes, typesBelow]
    | branch kind parts =>
      have noType : ¬kind.declaresType = true := declares
      rw [memberTypes, typesBelow, if_neg noType]
      split_ifs with isSection
      · simp [Node.kind?, isSection]
      · simp [Node.kind?, isSection]

theorem below_intercalate (outer : String) (named : name ≠ "") (nonempty : names ≠ []) :
    below (below outer name) (".".intercalate names) =
      below outer (".".intercalate (name :: names)) := by
  rw [String.intercalate_cons_of_ne_nil nonempty]
  unfold below
  by_cases isEmpty : outer = ""
  · simp [isEmpty, named]
  · simp [isEmpty, String.append_assoc]

/-- A member and the types below it are among the types below the body. -/
theorem IsMember.mem_typesBelow (isMember : IsMember body member) (regular : Regular body)
    (declares : Declares member name inner)
    (found : text = Java.below outer name ∨ text ∈ typesBelow (Java.below outer name) inner) :
    text ∈ typesBelow outer body := by
  induction isMember with
  | direct inside =>
    rw [typesBelow_eq, List.mem_flatMap]
    refine ⟨_, inside, (mem_memberTypes (regular.of_mem_children inside)).mpr ?_⟩
    exact .inr ⟨name, inner, declares, found⟩
  | inSection inside isSection _ ih =>
    have below := regular.of_mem_children inside
    rw [typesBelow_eq, List.mem_flatMap]
    exact ⟨_, inside, (mem_memberTypes below).mpr (.inl ⟨isSection, ih below declares⟩)⟩

/-- No way along members is missing. -/
theorem MemberPath.mem_typesBelow (path : MemberPath body names) (regular : Regular body)
    (outer : String) : Java.below outer (".".intercalate names) ∈ typesBelow outer body := by
  induction path generalizing outer with
  | last isMember declares =>
    rw [String.intercalate_singleton]
    exact isMember.mem_typesBelow regular declares (.inl rfl)
  | further isMember declares onward ih =>
    have member := isMember.regular regular
    have named := isIdentifier_of_isNamed member declares.isNamed
    rw [← below_intercalate outer (Text.ne_empty_of_isIdentifier named) onward.ne_nil]
    exact isMember.mem_typesBelow regular declares (.inr (ih (declares.regular member) _))

/-- Nothing else is there: a type below a body lies at the end of a way along members. -/
theorem exists_memberPath (regular : Regular body) (found : text ∈ typesBelow outer body) :
    ∃ names, MemberPath body names ∧ text = below outer (".".intercalate names) := by
  -- The bodies of members are two levels below, so the induction covers the children as well.
  suffices both : ∀ node, (node = body ∨ node ∈ body.children) → Regular node → ∀ outer,
      text ∈ typesBelow outer node →
        ∃ names, MemberPath node names ∧ text = below outer (".".intercalate names) from
    both body (.inl rfl) regular outer found
  clear regular found
  induction body using Node.childInduction with
  | bare | leaf =>
    rintro node (rfl | inside) regular outer found
    · cases found
    · cases inside
  | branch kind children ih =>
    rintro node (rfl | inside) regular outer found
    · rw [typesBelow_eq, List.mem_flatMap] at found
      obtain ⟨part, inside, found⟩ := found
      have below := regular.of_mem_children inside
      rcases (mem_memberTypes below).mp found with
        ⟨isSection, found⟩ | ⟨name, inner, declares, found⟩
      · obtain ⟨names, path, rfl⟩ := ih part inside part (.inl rfl) below outer found
        exact ⟨names, path.inSection inside isSection, rfl⟩
      · have isMember : IsMember (.branch kind children) part :=
          .direct inside declares.isDeclaration
        rcases found with rfl | found
        · exact ⟨[name], .last isMember declares, by rw [String.intercalate_singleton]⟩
        · obtain ⟨names, path, rfl⟩ := ih part inside inner (.inr declares.body_mem)
            (declares.regular below) _ found
          refine ⟨name :: names, .further isMember declares path, ?_⟩
          have named := isIdentifier_of_isNamed below declares.isNamed
          exact below_intercalate outer (Text.ne_empty_of_isIdentifier named) path.ne_nil
    · exact ih node inside node (.inl rfl) regular outer found

/-- The types below a body are the ways from it along members. -/
theorem mem_typesBelow (regular : Regular body) : text ∈ typesBelow "" body ↔
    ∃ names, MemberPath body names ∧ text = ".".intercalate names := by
  constructor
  · exact exists_memberPath regular
  · rintro ⟨names, path, rfl⟩
    exact path.mem_typesBelow regular ""

/-! ### The primary type -/

/-- The declarations of types at the top level, in order. -/
def topLevel (root : Node) : List Node :=
  root.children.filter isTypeDeclaration

/-- The declaration of the type that a file is about: the first one at the top level that is named
like the file, or where there is none the first one of all. -/
inductive IsPrimary (root : Node) (stem : Option String) (declaration : Node) : Prop
  | named {before after : List Node} {name : String}
    (placed : topLevel root = before ++ declaration :: after) (sameName : stem = some name)
    (isNamed : IsNamed declaration name) (isFirst : ∀ other ∈ before, ¬IsNamed other name)
  | first {after : List Node} (placed : topLevel root = declaration :: after)
    (unnamed : ∀ other ∈ topLevel root, ∀ name, stem = some name → ¬IsNamed other name)

theorem IsPrimary.mem_children {stem : Option String}
    (isPrimary : IsPrimary root stem declaration) : declaration ∈ root.children := by
  have listed : declaration ∈ topLevel root := by
    cases isPrimary with
    | named placed => simp [placed]
    | first placed => simp [placed]
  exact List.mem_of_mem_filter listed

theorem filter_namedChildren (root : Node) :
    root.namedChildren.filter isTypeDeclaration = topLevel root := by
  rw [Node.namedChildren, List.filter_filter, topLevel]
  refine List.filter_congr fun child _ => ?_
  cases child <;> simp [Node.isNamed, Node.kind?, isTypeDeclaration]

/-- Top-level declarations are listed with their names. -/
theorem mem_topLevelTypes (regular : Regular root) :
    (declaration, name) ∈ topLevelTypes root ↔
      declaration ∈ topLevel root ∧ IsNamed declaration name := by
  rw [topLevelTypes, filter_namedChildren]
  simp only [List.mem_filterMap, Option.map_eq_some_iff, Prod.mk.injEq]
  constructor
  · rintro ⟨child, inside, name, named, rfl, rfl⟩
    obtain ⟨below, declares⟩ := List.mem_filter.mp inside
    exact ⟨inside, (declaredName?_eq_some_iff (regular.of_mem_children below) declares).mp named⟩
  · rintro ⟨inside, isNamed⟩
    obtain ⟨below, declares⟩ := List.mem_filter.mp inside
    refine ⟨declaration, inside, name, ?_, rfl, rfl⟩
    exact (declaredName?_eq_some_iff (regular.of_mem_children below) declares).mpr isNamed

/-- No top-level declaration is passed over: each has a name. -/
theorem map_fst_topLevelTypes (regular : Regular root) :
    (topLevelTypes root).map Prod.fst = topLevel root := by
  rw [topLevelTypes, filter_namedChildren, List.map_filterMap]
  refine (List.filterMap_congr fun child inside => ?_).trans List.filterMap_some
  obtain ⟨below, declares⟩ := List.mem_filter.mp inside
  have isRegular := regular.of_mem_children below
  obtain ⟨name, _, isDeclared⟩ := exists_declares isRegular declares
  rw [(declaredName?_eq_some_iff isRegular declares).mpr isDeclared.isNamed]
  rfl

theorem eq_of_isNamed {other : String} (regular : Regular declaration)
    (declares : isTypeDeclaration declaration = true) (isNamed : IsNamed declaration name)
    (isNamed' : IsNamed declaration other) : name = other := by
  rw [← declaredName?_eq_some_iff regular declares] at isNamed isNamed'
  exact Option.some.inj (isNamed.symm.trans isNamed')

/-- The type that is chosen is the primary one. -/
theorem isPrimary_of_primaryType? {stem : Option String} (regular : Regular root)
    (chosen : primaryType? (topLevelTypes root) stem = some (declaration, name)) :
    IsPrimary root stem declaration ∧ declaration ∈ topLevel root ∧ IsNamed declaration name := by
  have all := map_fst_topLevelTypes regular
  have named {type : Node × String} (listed : type ∈ topLevelTypes root) {text : String} :
      IsNamed type.1 text ↔ text = type.2 := by
    obtain ⟨inside, isNamed⟩ := (mem_topLevelTypes regular).mp listed
    obtain ⟨below, declares⟩ := List.mem_filter.mp inside
    constructor
    · exact fun isNamed' => eq_of_isNamed (regular.of_mem_children below) declares isNamed' isNamed
    · rintro rfl
      exact isNamed
  rw [primaryType?, Option.or_eq_some_iff] at chosen
  rcases chosen with found | ⟨unnamed, first⟩
  · obtain ⟨text, rfl, found⟩ := Option.bind_eq_some_iff.mp found
    obtain ⟨sameName, before, after, split, isFirst⟩ := List.find?_eq_some_iff_append.mp found
    obtain rfl : name = text := beq_iff_eq.mp sameName
    have listed : (declaration, name) ∈ topLevelTypes root := by simp [split]
    refine ⟨?_, (mem_topLevelTypes regular).mp listed⟩
    have placed : topLevel root = before.map Prod.fst ++ declaration :: after.map Prod.fst := by
      rw [← all, split, List.map_append, List.map_cons]
    refine .named placed rfl ((named listed).mpr rfl) fun other inside isNamed => ?_
    obtain ⟨type, earlier, rfl⟩ := List.mem_map.mp inside
    have isListed : type ∈ topLevelTypes root := by simp [split, earlier]
    have differs := isFirst type earlier
    simp [(named isListed).mp isNamed] at differs
  · obtain ⟨rest, split⟩ := List.head?_eq_some_iff.mp first
    have listed : (declaration, name) ∈ topLevelTypes root := by simp [split]
    have placed : topLevel root = declaration :: rest.map Prod.fst := by
      rw [← all, split, List.map_cons]
    refine ⟨.first placed ?_, (mem_topLevelTypes regular).mp listed⟩
    rintro other inside text rfl isNamed
    have isListed := (mem_topLevelTypes regular).mpr ⟨inside, isNamed⟩
    have absent : ∀ type ∈ topLevelTypes root, type.2 ≠ text := by simpa using unnamed
    exact absent _ isListed rfl

theorem declaredTypes?_eq_none_iff {stem : Option String} (regular : Regular root) :
    declaredTypes? root stem = none ↔ topLevel root = [] := by
  rw [declaredTypes?, Option.map_eq_none_iff, primaryType?, Option.or_eq_none_iff,
    List.head?_eq_none_iff, ← map_fst_topLevelTypes regular, List.map_eq_nil_iff]
  constructor
  · exact And.right
  · intro empty
    rw [empty]
    exact ⟨by cases stem <;> rfl, rfl⟩

/-- The types that a file declares are the primary one and those along its members. -/
theorem declaredTypes?_eq_some {stem : Option String} {declared : DeclaredTypes}
    (regular : Regular root) (found : declaredTypes? root stem = some declared) :
    ∃ declaration body, IsPrimary root stem declaration ∧
      Declares declaration declared.primary body ∧
      ∀ text, text ∈ declared.inner ↔
        ∃ names, MemberPath body names ∧ text = ".".intercalate names := by
  obtain ⟨⟨declaration, name⟩, chosen, rfl⟩ := Option.map_eq_some_iff.mp found
  obtain ⟨isPrimary, inside, isNamed⟩ := isPrimary_of_primaryType? regular chosen
  obtain ⟨below, declares⟩ := List.mem_filter.mp inside
  have isRegular := regular.of_mem_children below
  obtain ⟨other, body, isDeclared⟩ := exists_declares isRegular declares
  obtain rfl : name = other := eq_of_isNamed isRegular declares isNamed isDeclared.isNamed
  refine ⟨declaration, body, isPrimary, isDeclared, fun text => ?_⟩
  rw [← mem_typesBelow (isDeclared.regular isRegular), ← isDeclared.typesInBody_eq isRegular]

end JavaIndex.Java

namespace JavaIndex

/-- Where all types come from the project, a set of types has the types of its list. -/
theorem TypeSet.mem_ofList_of_tag {types : List QualifiedType} {type : QualifiedType}
    (project : ∀ other ∈ types, other.tag = .projectReference) :
    type ∈ ofList types ↔ type ∈ types := by
  constructor
  · exact mem_of_mem_ofList
  · intro listed
    have named : type.name ∈ (ofList types).map QualifiedType.name :=
      (name_mem_ofList types).mpr (List.mem_map_of_mem listed)
    obtain ⟨other, inside, sameName⟩ := List.mem_map.mp named
    have sameTag : other.tag = type.tag := by
      rw [project type listed, project other (mem_of_mem_ofList inside)]
    obtain ⟨otherName, otherTag⟩ := other
    obtain rfl : otherName = type.name := sameName
    obtain rfl : otherTag = type.tag := sameTag
    exact inside

namespace Outline

open Java (Declares IsPrimary MemberPath Regular topLevel regular_of_parse)

variable {path : Path} {root : Java.Node} {declared : Java.DeclaredTypes} {body : Java.Node}

/-- The inner types of an outline are named from the primary type on. -/
theorem mem_inner_ofDeclared (path : Path) (root : Java.Node)
    (members : ∀ text, text ∈ declared.inner ↔
      ∃ names, MemberPath body names ∧ text = ".".intercalate names) (type : QualifiedType) :
    type ∈ (ofDeclared path root declared).inner ↔ ∃ names, MemberPath body names ∧
      type = ⟨".".intercalate ((ofDeclared path root declared).primary.name :: names),
        .projectReference⟩ := by
  rw [ofDeclared, TypeSet.mem_ofList_of_tag (by simp)]
  simp only [List.mem_map, members]
  constructor
  · rintro ⟨_, ⟨names, isPath, rfl⟩, rfl⟩
    exact ⟨names, isPath, by rw [String.intercalate_cons_of_ne_nil isPath.ne_nil]⟩
  · rintro ⟨names, isPath, rfl⟩
    exact ⟨_, ⟨names, isPath, rfl⟩, by rw [String.intercalate_cons_of_ne_nil isPath.ne_nil]⟩

/-- Without its last name, a way along members leads to the type around. -/
theorem packageName_of_memberPath {names : List String} (isPath : MemberPath body names)
    (regular : Regular body) (front : String) (tag : TypeTag) :
    ∃ shorter, (shorter = [] ∨ MemberPath body shorter) ∧
      QualifiedType.packageName ⟨".".intercalate (front :: names), tag⟩ =
        ".".intercalate (front :: shorter) := by
  obtain rfl | ⟨shorter, last, rfl⟩ := List.eq_nil_or_concat' names
  · exact absurd rfl isPath.ne_nil
  have dotless : '.' ∉ last.toList :=
    Text.dot_notMem_of_isIdentifier (isPath.isIdentifier regular last (by simp))
  refine ⟨shorter, isPath.dropLast, ?_⟩
  rw [QualifiedType.packageName, ← List.cons_append,
    String.intercalate_append_of_ne_nil (List.cons_ne_nil _ _) (List.cons_ne_nil _ _),
    String.intercalate_singleton]
  exact Text.beforeLast_append _ dotless

theorem ofSource_eq_untyped_iff {parser : Parser} {source : String}
    (accepted : parser source = .ok root) :
    ofSource parser path source = .error (.error (.noDeclaredTypes path)) ↔
      Java.declaredTypes? root path.stemText? = none := by
  rw [ofSource, accepted]
  cases made : ofTree path root with
  | error error =>
    obtain ⟨nothing, rfl⟩ := ofTree_eq_error.mp made
    simp [made, nothing]
  | ok outline =>
    obtain ⟨declared, found, -⟩ := ofTree_eq_ok.mp made
    simp [made, found]

/-- A file has an outline if it declares a type at the top level. The outline is that of the
primary type; its inner types are those that are reached from the primary type along member types,
each named by the names on the way, and with an inner type the type around it is declared. This is
so for every parser, whenever the tree it returns is regular. -/
theorem declares_of_regular {parser : Parser} {source : String}
    (accepted : parser source = .ok root) (regular : Regular root) (path : Path) :
    (ofSource parser path source = .error (.error (.noDeclaredTypes path)) ↔
      topLevel root = []) ∧
    (topLevel root ≠ [] → ∃ outline declaration name body,
      ofSource parser path source = .ok outline ∧
      IsPrimary root path.stemText? declaration ∧ Declares declaration name body ∧
      outline.primary = .inPackage (Java.packageName root) name ∧
      (∀ type, type ∈ outline.inner ↔ ∃ names, MemberPath body names ∧
        type = ⟨".".intercalate (outline.primary.name :: names), .projectReference⟩) ∧
      ∀ type ∈ outline.inner, ⟨type.packageName, .projectReference⟩ ∈ outline.declaredTypes) := by
  have untyped : Java.declaredTypes? root path.stemText? = none ↔ topLevel root = [] :=
    Java.declaredTypes?_eq_none_iff regular
  refine ⟨(ofSource_eq_untyped_iff accepted).trans untyped, fun something => ?_⟩
  obtain ⟨declared, found⟩ :=
    Option.ne_none_iff_exists'.mp fun nothing => something (untyped.mp nothing)
  obtain ⟨declaration, body, isPrimary, declares, members⟩ :=
    Java.declaredTypes?_eq_some regular found
  have isRegular := regular.of_mem_children isPrimary.mem_children
  have inner := mem_inner_ofDeclared path root members
  refine ⟨ofDeclared path root declared, declaration, declared.primary, body, ?_, isPrimary,
    declares, rfl, inner, ?_⟩
  · exact ofSource_eq_ok.mpr ⟨root, accepted, ofTree_eq_ok.mpr ⟨declared, found, rfl⟩⟩
  · intro type isInner
    obtain ⟨names, isPath, rfl⟩ := (inner type).mp isInner
    -- Its package is named by a way that is shorter by one; the empty way is the primary type.
    obtain ⟨shorter, enclosing, named⟩ :=
      packageName_of_memberPath isPath (declares.regular isRegular) _ .projectReference
    rw [named, declaredTypes, List.mem_cons]
    rcases enclosing with rfl | isPath'
    · exact .inl (by rw [String.intercalate_singleton]; rfl)
    · exact .inr ((inner _).mpr ⟨shorter, isPath', rfl⟩)

/-- The types that the outline of a Java source declares. -/
theorem declares_members {source : String} (parsed : Java.parse source = .ok root) (path : Path) :
    (ofSource Java.parser path source = .error (.error (.noDeclaredTypes path)) ↔
      topLevel root = []) ∧
    (topLevel root ≠ [] → ∃ outline declaration name body,
      ofSource Java.parser path source = .ok outline ∧
      IsPrimary root path.stemText? declaration ∧ Declares declaration name body ∧
      outline.primary = .inPackage (Java.packageName root) name ∧
      (∀ type, type ∈ outline.inner ↔ ∃ names, MemberPath body names ∧
        type = ⟨".".intercalate (outline.primary.name :: names), .projectReference⟩) ∧
      ∀ type ∈ outline.inner, ⟨type.packageName, .projectReference⟩ ∈ outline.declaredTypes) :=
  declares_of_regular (by rw [Java.parser, parsed]) (regular_of_parse parsed) path

/-- A file with types in types: members of a class and of an enum, a type in the body of an enum
constant and one in a method. -/
def nestedTypes : String :=
  "package p; class First \x7b\x7d class Outer \x7b " ++
    "enum E \x7b A \x7b class Hidden \x7b\x7d \x7d; interface I \x7b\x7d \x7d " ++
    "void f() \x7b class Local \x7b\x7d \x7d \x7d"

/-- The type named like the file is the primary one, and its inner types are the members. -/
theorem declares_members_nested : ∃ root outline,
    Java.parse nestedTypes = .ok root ∧ topLevel root ≠ [] ∧
      ofSource Java.parser ⟨"src/Outer.java"⟩ nestedTypes = .ok outline ∧
      outline.primary.name = "p.Outer" ∧
      outline.inner.map QualifiedType.name = ["p.Outer.E", "p.Outer.E.I"] ∧
      ∀ type ∈ outline.inner, ⟨type.packageName, .projectReference⟩ ∈ outline.declaredTypes := by
  have types : (Java.parse nestedTypes).toOption.any (fun root => !(topLevel root).isEmpty) =
      true := by
    decide +kernel
  have names : (ofSource Java.parser ⟨"src/Outer.java"⟩ nestedTypes).toOption.any (fun outline =>
      outline.primary.name == "p.Outer" &&
        outline.inner.map QualifiedType.name == ["p.Outer.E", "p.Outer.E.I"]) = true := by
    decide +kernel
  cases parsed : Java.parse nestedTypes with
  | error _ => rw [parsed] at types; cases types
  | ok root =>
    have something : topLevel root ≠ [] := by simpa [parsed, Except.toOption] using types
    obtain ⟨outline, _, _, _, made, -, -, -, -, closed⟩ :=
      (declares_members parsed ⟨"src/Outer.java"⟩).2 something
    obtain ⟨primary, inner⟩ : outline.primary.name = "p.Outer" ∧
        outline.inner.map QualifiedType.name = ["p.Outer.E", "p.Outer.E.I"] := by
      simpa [made, Except.toOption] using names
    exact ⟨root, outline, rfl, something, made, primary, inner, closed⟩

end Outline

end JavaIndex
