import JavaIndex.Outline.Build
import JavaIndex.Proofs.GapFree

/-!
# The names of packages and imports

The name in the declaration of a package or an import is read as the text from its first word to
its last one, without the white space. Other names are put together from their words. The two
ways agree if only white space stands between the words and dots of the name; a comment there
stays in the name.

A source that is laid out anew therefore mentions and declares the same types. It has the same
package and imports as well, and so the same outline, as long as there is no comment inside one
of these names, before and afterwards.

## Main definitions

* `Java.SpellsName` — the tokens of a dotted name, and the words among them
* `Java.Node.dotted` — a name as its words, joined by dots
* `Java.Node.IsPlain`, `Java.PlainHeadings` — names without comments inside

## Main results

* `Java.SpellsName.withoutBlanks_spell_eq_iff` — when the text of a name is its words, joined by
  dots
* `Java.spellsName_of_isName` — the names in trees of sources are such names
* `Java.readings_of_plain` — the package and the imports, put together from words
* `Outline.ofSource_of_withoutGaps` — the outline of a tree with other gaps
* `Outline.layout_of_headings` — what depends on the layout of a source, and what does not
-/

namespace JavaIndex

/-! ### White space -/

namespace Text

theorem withoutBlanks_append (front back : String) :
    withoutBlanks (front ++ back) = withoutBlanks front ++ withoutBlanks back := by
  rw [withoutBlanks, withoutBlanks, withoutBlanks, String.toList_append, List.filter_append,
    String.ofList_append]

/-- White space, by its code points. -/
def blanks : List Nat :=
  [0x9, 0xa, 0xb, 0xc, 0xd, 0x20, 0x85, 0xa0, 0x1680, 0x2000, 0x2001, 0x2002, 0x2003, 0x2004,
    0x2005, 0x2006, 0x2007, 0x2008, 0x2009, 0x200a, 0x2028, 0x2029, 0x202f, 0x205f, 0x3000]

theorem mem_blanks_of_isBlank {c : Char} (blank : isBlank c = true) : c.toNat ∈ blanks := by
  simp only [isBlank, Bool.or_eq_true, Bool.and_eq_true, decide_eq_true_eq] at blank
  simp only [blanks, List.mem_cons, List.not_mem_nil, or_false]
  omega

/-- White space is no part of an identifier. -/
theorem isBlank_of_isIdentifierPart {c : Char}
    (part : isIdentifierStart c = true ∨ isIdentifierPart c = true) : isBlank c = false := by
  have none : ∀ code ∈ blanks, isIdentifierStart (Char.ofNat code) = false ∧
      isIdentifierPart (Char.ofNat code) = false := by
    decide +kernel
  by_contra blank
  rw [Bool.not_eq_false] at blank
  have found := none c.toNat (mem_blanks_of_isBlank blank)
  rw [Char.ofNat_toNat] at found
  simp [found] at part

theorem withoutBlanks_of_isIdentifier {text : String} (identifier : isIdentifier text = true) :
    withoutBlanks text = text := by
  have kept : text.toList.filter (fun c => !isBlank c) = text.toList := by
    rw [List.filter_eq_self]
    intro c member
    rw [Bool.not_eq_true', isBlank_of_isIdentifierPart]
    unfold isIdentifier at identifier
    split at identifier
    · cases identifier
    · rename_i first rest chars
      rw [Bool.and_eq_true, List.all_eq_true] at identifier
      rw [chars] at member
      rcases List.mem_cons.mp member with rfl | later
      · exact .inl identifier.1
      · exact .inr (identifier.2 c later)
  rw [withoutBlanks, kept, String.ofList_toList]

end Text

namespace Java

/-! ### Dotted names -/

/-- Tokens that spell a dotted name, and the words among them. -/
inductive SpellsName : List Token → List Token → Prop
  | word {token : Token} (identifier : Text.isIdentifier token.text = true) :
    SpellsName [token] [token]
  | further {tokens words : List Token} {dot word : Token} (front : SpellsName tokens words)
    (isDot : dot.text = ".") (identifier : Text.isIdentifier word.text = true) :
    SpellsName (tokens ++ [dot, word]) (words ++ [word])

theorem spell_append {tokens : List Token} (nonempty : tokens ≠ []) (dot word : Token) :
    Node.spell (tokens ++ [dot, word]) =
      Node.spell tokens ++ dot.gap ++ dot.text ++ word.gap ++ word.text := by
  obtain ⟨first, rest, rfl⟩ := List.exists_cons_of_ne_nil nonempty
  rw [List.cons_append, Node.spell, Node.spell, List.foldl_append]
  rfl

/-- A token with no white space in the gap in front of it. -/
def Token.squeezed (token : Token) : Token :=
  { token with gap := Text.withoutBlanks token.gap }

/-- The words of a name, joined by dots. -/
def joinWords (words : List Token) : String :=
  ".".intercalate (words.map Token.text)

theorem joinWords_append {words : List Token} (nonempty : words ≠ []) (word : Token) :
    joinWords (words ++ [word]) = joinWords words ++ "." ++ word.text := by
  rw [joinWords, List.map_append, List.map_singleton,
    String.intercalate_append_of_ne_nil (by simpa using nonempty) (List.cons_ne_nil _ _),
    String.intercalate_singleton, joinWords]

namespace SpellsName

variable {tokens words : List Token}

theorem ne_nil (spells : SpellsName tokens words) : tokens ≠ [] ∧ words ≠ [] := by
  cases spells <;> simp

theorem withoutBlanks_spell_word {token : Token}
    (identifier : Text.isIdentifier token.text = true) :
    Text.withoutBlanks (Node.spell [token]) = joinWords [token] := by
  rw [Node.spell, List.foldl_nil, Text.withoutBlanks_of_isIdentifier identifier, joinWords,
    List.map_singleton, String.intercalate_singleton]

/-- What is left of a longer name without the white space. -/
theorem withoutBlanks_spell {dot word : Token} (front : SpellsName tokens words)
    (isDot : dot.text = ".") (identifier : Text.isIdentifier word.text = true) :
    Text.withoutBlanks (Node.spell (tokens ++ [dot, word])) =
      Text.withoutBlanks (Node.spell tokens) ++ Text.withoutBlanks dot.gap ++ "." ++
        Text.withoutBlanks word.gap ++ word.text := by
  have dotKept : Text.withoutBlanks "." = "." := by decide
  rw [spell_append front.ne_nil.1, Text.withoutBlanks_append, Text.withoutBlanks_append,
    Text.withoutBlanks_append, Text.withoutBlanks_append, isDot, dotKept,
    Text.withoutBlanks_of_isIdentifier identifier]

/-- The text of a name without the white space is spelled by its tokens when white space is taken
out of the gaps; comments stay there. -/
theorem withoutBlanks_spell_eq (spells : SpellsName tokens words) :
    Text.withoutBlanks (Node.spell tokens) = Node.spell (tokens.map Token.squeezed) := by
  induction spells with
  | word identifier => exact Text.withoutBlanks_of_isIdentifier identifier
  | @further tokens _ _ _ front isDot identifier ih =>
    have nonempty : tokens.map Token.squeezed ≠ [] := by simpa using front.ne_nil.1
    rw [front.withoutBlanks_spell isDot identifier, List.map_append, List.map_cons,
      List.map_singleton, spell_append nonempty, ih, ← isDot]
    rfl

/-- The text of a name is never shorter than its words with the dots. -/
theorem length_le (spells : SpellsName tokens words) :
    (joinWords words).length ≤ (Text.withoutBlanks (Node.spell tokens)).length := by
  induction spells with
  | word identifier => rw [withoutBlanks_spell_word identifier]
  | further front isDot identifier ih =>
    rw [front.withoutBlanks_spell isDot identifier, joinWords_append front.ne_nil.2]
    simp only [String.length_append]
    omega

/-- The text of a name without the white space is its words, joined by dots, if and only if there
is nothing but white space between them. -/
theorem withoutBlanks_spell_eq_iff (spells : SpellsName tokens words) :
    Text.withoutBlanks (Node.spell tokens) = joinWords words ↔
      ∀ token ∈ tokens.tail, Text.withoutBlanks token.gap = "" := by
  induction spells with
  | word identifier => simp [withoutBlanks_spell_word identifier]
  | @further tokens words dot word front isDot identifier ih =>
    have shorter := front.length_le
    rw [front.withoutBlanks_spell isDot identifier, joinWords_append front.ne_nil.2,
      List.tail_append_of_ne_nil front.ne_nil.1, List.forall_mem_append, ← ih]
    constructor
    · intro same
      -- The front is not shorter than its words, so there is no room for anything in the gaps.
      have lengths := congrArg String.length same
      simp only [String.length_append] at lengths
      have noGaps : (Text.withoutBlanks dot.gap).length = 0 ∧
          (Text.withoutBlanks word.gap).length = 0 := by omega
      rw [String.length_eq_zero_iff, String.length_eq_zero_iff] at noGaps
      refine ⟨?_, by simpa using noGaps⟩
      simpa [noGaps.1, noGaps.2] using same
    · rintro ⟨same, noGaps⟩
      obtain ⟨noDotGap, noWordGap⟩ : Text.withoutBlanks dot.gap = "" ∧
        Text.withoutBlanks word.gap = "" := by simpa using noGaps
      rw [same, noDotGap, noWordGap]
      simp

end SpellsName

/-! ### Names in trees -/

/-- A name as its words, joined by dots. -/
def Node.dotted (name : Node) : String :=
  joinWords name.nameTokens

/-- There is nothing but white space between the tokens of a name. -/
def Node.IsPlain (name : Node) : Prop :=
  ∀ token ∈ name.tokens.tail, Text.withoutBlanks token.gap = ""

instance (name : Node) : Decidable name.IsPlain :=
  inferInstanceAs (Decidable (∀ token ∈ name.tokens.tail, Text.withoutBlanks token.gap = ""))

theorem isName_iff {node : Node} : isName node = true ↔
    node.kind? = some .identifier ∨ node.kind? = some .scopedIdentifier := by
  rw [isName, Bool.or_eq_true, beq_iff_eq, beq_iff_eq]

/-- A single word spells a name. -/
theorem Regular.spellsName_of_word {node : Node} (regular : Regular node)
    (isWord : node.kind? = some .identifier) : SpellsName node.tokens node.nameTokens := by
  obtain ⟨token, rfl, -, identifier⟩ := regular.spelled.exists_word isWord (.inl rfl)
  exact .word identifier

/-- The names in trees of sources are words with dots in between. -/
theorem spellsName_of_isName {name : Node} (regular : Regular name) (named : isName name = true) :
    SpellsName name.tokens name.nameTokens := by
  induction name using Node.childInduction with
  | bare => cases named
  | leaf kind token =>
    rcases isName_iff.mp named with isWord | isScoped
    · exact regular.spellsName_of_word isWord
    · obtain rfl : kind = .scopedIdentifier := Option.some.inj isScoped
      cases regular.spelled.conforms with
      | leaf wellSpelled => cases wellSpelled
  | branch kind children ih =>
    rcases isName_iff.mp named with isWord | isScoped
    · exact regular.spellsName_of_word isWord
    · obtain rfl : kind = .scopedIdentifier := Option.some.inj isScoped
      obtain ⟨scope, dot, word, rfl, isScope, isDot, isWord⟩ := regular.arranged.exists_scope
      have below : ∀ child ∈ [scope, dot, word], Regular child :=
        fun child inside => regular.of_mem_children inside
      have front := ih scope (by simp) (below scope (by simp)) isScope
      obtain ⟨mark, rfl, -, isMark⟩ := exists_dot isDot
      obtain ⟨token, rfl, -, identifier⟩ :=
        (below word (by simp)).spelled.exists_word isWord (.inl rfl)
      have longer := front.further isMark identifier
      simpa [Node.tokens, Node.tokensOfList, Node.nameTokens, Node.nameTokensOfList] using longer

/-- A name is read as its words, joined by dots, if and only if it is plain. -/
theorem dottedName_eq_iff {name : Node} (regular : Regular name) (named : isName name = true) :
    dottedName name = name.dotted ↔ name.IsPlain :=
  (spellsName_of_isName regular named).withoutBlanks_spell_eq_iff

/-! ### Declarations of packages and imports -/

/-- Whether a node declares a package or an import. -/
def isHeading (node : Node) : Bool :=
  node.kind?.any Kind.isHeading

/-- There are no comments inside the names of the package and the imports. -/
def PlainHeadings (root : Node) : Prop :=
  ∀ declaration ∈ root.children, isHeading declaration = true →
    ∀ name ∈ declaration.children, isName name = true → name.IsPlain

instance (root : Node) : Decidable (PlainHeadings root) :=
  inferInstanceAs (Decidable (∀ declaration ∈ root.children, isHeading declaration = true →
    ∀ name ∈ declaration.children, isName name = true → name.IsPlain))

/-- The declaration of a package or an import has one name. -/
theorem exists_heading_name {declaration : Node} (regular : Regular declaration)
    (heading : isHeading declaration = true) :
    ∃ name, declaration.children.filter isName = [name] := by
  cases regular.spelled.conforms with
  | bare => cases heading
  | @leaf kind _ _ wellSpelled => cases kind <;> first | cases wellSpelled | cases heading
  | branch => exact regular.arranged.exists_heading_name heading

/-- The package of a file, with a way to read its name. -/
def packageBy (read : Node → String) (root : Node) : String :=
  match root.namedChildren.find? fun child => child.kind? == some .packageDeclaration with
  | some declaration => ((nameBelow? declaration).map read).getD ""
  | none => ""

/-- The import that a declaration stands for, with a way to read its name. -/
def importBy? (read : Node → String) (declaration : Node) : Option Import :=
  (nameBelow? declaration).map fun name =>
    { path := read name
      isStatic := hasKeyword declaration "static"
      isStar := declaration.children.any fun child => child.kind? == some .asterisk }

/-- The imports of a file, with a way to read their names. -/
def importsBy (read : Node → String) (root : Node) : List Import :=
  (root.namedChildren.filter fun child => child.kind? == some .importDeclaration).filterMap
    (importBy? read)

theorem packageName_eq (root : Node) : packageName root = packageBy dottedName root :=
  rfl

theorem importsOf_eq (root : Node) : importsOf root = importsBy dottedName root :=
  rfl

theorem mem_of_nameBelow? {declaration name : Node} (found : nameBelow? declaration = some name) :
    name ∈ declaration.children ∧ isName name = true :=
  ⟨List.mem_of_mem_filter (List.mem_of_find?_eq_some found), List.find?_some found⟩

section Readings

variable {read read' : Node → String} {root : Node}

/-- Only the names in the headings of a file are read. -/
theorem readings_congr (alike : ∀ declaration ∈ root.children, isHeading declaration = true →
      ∀ name ∈ declaration.children, isName name = true → read name = read' name) :
    packageBy read root = packageBy read' root ∧ importsBy read root = importsBy read' root := by
  have named {declaration : Node} (member : declaration ∈ root.namedChildren)
      (heading : isHeading declaration = true) {name : Node}
      (found : nameBelow? declaration = some name) : read name = read' name := by
    obtain ⟨inside, isName⟩ := mem_of_nameBelow? found
    exact alike declaration (List.mem_of_mem_filter member) heading name inside isName
  constructor
  · unfold packageBy
    cases chosen : root.namedChildren.find? fun child =>
        child.kind? == some .packageDeclaration with
    | none => rfl
    | some declaration =>
      have isKind : declaration.kind? = some .packageDeclaration := by
        simpa using List.find?_some chosen
      have heading : isHeading declaration = true := by simp [isHeading, isKind, Kind.isHeading]
      cases found : nameBelow? declaration with
      | none => simp [found]
      | some name => simp [found, named (List.mem_of_find?_eq_some chosen) heading found]
  · refine List.filterMap_congr fun declaration member => ?_
    obtain ⟨inside, isKind⟩ := List.mem_filter.mp member
    have heading : isHeading declaration = true := by
      simp [isHeading, beq_iff_eq.mp isKind, Kind.isHeading]
    unfold importBy?
    cases found : nameBelow? declaration with
    | none => rfl
    | some name => simp [named inside heading found]

/-- Where the headings are plain, their names are their words, joined by dots. -/
theorem readings_of_plain (regular : Regular root) (plain : PlainHeadings root) :
    packageName root = packageBy Node.dotted root ∧
      importsOf root = importsBy Node.dotted root := by
  rw [packageName_eq, importsOf_eq]
  refine readings_congr fun declaration member heading name inside isName => ?_
  have isRegular := (regular.of_mem_children member).of_mem_children inside
  have isPlain := plain declaration member heading name inside isName
  exact (dottedName_eq_iff isRegular isName).mpr isPlain

end Readings

/-! ### Without gaps -/

open Node

theorem Node.nameTokens_withoutGaps (node : Node) :
    node.withoutGaps.nameTokens = node.nameTokens.map Token.withoutGap := by
  induction node using Node.childInduction with
  | bare => rfl
  | leaf kind token =>
    rw [withoutGaps, nameTokens, nameTokens]
    split_ifs <;> rfl
  | branch kind children ih =>
    rw [withoutGaps_branch, nameTokens_branch, nameTokens_branch, List.flatMap_map,
      List.map_flatMap]
    exact List.flatMap_congr ih

theorem Node.dotted_withoutGaps (name : Node) : name.withoutGaps.dotted = name.dotted := by
  rw [dotted, joinWords, nameTokens_withoutGaps, List.map_map]
  rfl

theorem nameBelow?_withoutGaps (node : Node) :
    nameBelow? node.withoutGaps = (nameBelow? node).map withoutGaps := by
  rw [nameBelow?, nameBelow?, namedChildren_withoutGaps, find?_map_withoutGaps]
  intro name
  rw [isName, isName, kind?_withoutGaps]

theorem hasKeyword_withoutGaps (node : Node) (text : String) :
    hasKeyword node.withoutGaps text = hasKeyword node text := by
  rw [hasKeyword, hasKeyword, children_withoutGaps, List.any_map]
  congr 1
  funext child
  cases child <;> rfl

theorem importBy?_withoutGaps (declaration : Node) :
    importBy? dotted declaration.withoutGaps = importBy? dotted declaration := by
  have stars : declaration.withoutGaps.children.any (fun child =>
      child.kind? == some .asterisk) =
        declaration.children.any fun child => child.kind? == some .asterisk := by
    rw [children_withoutGaps, List.any_map]
    simp [Function.comp_def]
  rw [importBy?, importBy?, nameBelow?_withoutGaps, hasKeyword_withoutGaps, stars, Option.map_map]
  simp only [Function.comp_def, dotted_withoutGaps]

/-- Names that are put together from their words do not depend on the gaps. -/
theorem readings_withoutGaps (root : Node) :
    packageBy dotted root.withoutGaps = packageBy dotted root ∧
      importsBy dotted root.withoutGaps = importsBy dotted root := by
  constructor
  · unfold packageBy
    rw [namedChildren_withoutGaps, find?_map_withoutGaps (by simp)]
    cases root.namedChildren.find? fun child => child.kind? == some .packageDeclaration with
    | none => rfl
    | some declaration =>
      simp only [Option.map_some, nameBelow?_withoutGaps, Option.map_map, Function.comp_def,
        dotted_withoutGaps]
  · unfold importsBy
    rw [namedChildren_withoutGaps, filter_map_withoutGaps (by simp), List.filterMap_map]
    exact List.filterMap_congr fun declaration _ => importBy?_withoutGaps declaration

end Java

namespace Outline

open Java

theorem ofTree_congr {root root' : Java.Node} {path : Path}
    (declared : declaredTypes? root' path.stemText? = declaredTypes? root path.stemText?)
    (package : Java.packageName root' = Java.packageName root)
    (imports : importsOf root' = importsOf root)
    (references : typeReferences root' = typeReferences root) :
    ofTree path root' = ofTree path root := by
  unfold ofTree
  rw [declared, package, imports, references]

/-- The name in the declaration of a package or an import is read with the comments inside, so it
is its words, joined by dots, if and only if there are none. -/
theorem headings_of_regular {root declaration : Java.Node} (regular : Regular root)
    (member : declaration ∈ root.children) (heading : isHeading declaration = true) :
    ∃ name, declaration.children.filter isName = [name] ∧
      SpellsName name.tokens name.nameTokens ∧
      dottedName name = Node.spell (name.tokens.map Token.squeezed) ∧
      (dottedName name = name.dotted ↔ name.IsPlain) := by
  have isRegular := regular.of_mem_children member
  obtain ⟨name, only⟩ := exists_heading_name isRegular heading
  have picked : name ∈ declaration.children.filter isName := only ▸ List.mem_singleton_self name
  obtain ⟨inside, named⟩ := List.mem_filter.mp picked
  have nameRegular := isRegular.of_mem_children inside
  have spells := spellsName_of_isName nameRegular named
  exact ⟨name, only, spells, spells.withoutBlanks_spell_eq, dottedName_eq_iff nameRegular named⟩

section Relaid

variable {root root' : Java.Node} (regular : Regular root) (regular' : Regular root')
  (same : root.withoutGaps = root'.withoutGaps)
include regular regular' same

/-- Trees that only differ in their gaps mention the same types. -/
theorem typeReferences_of_withoutGaps : typeReferences root' = typeReferences root := by
  rw [typeReferences_eq, typeReferences_eq, ← mentions_withoutGaps regular.spelled,
    ← mentions_withoutGaps regular'.spelled, same]

/-- Trees that only differ in their gaps declare the same types. -/
theorem declaredTypes?_of_withoutGaps (stem : Option String) :
    declaredTypes? root' stem = declaredTypes? root stem := by
  rw [← declaredTypes?_withoutGaps regular, ← declaredTypes?_withoutGaps regular', same]

/-- Names in headings do depend on the gaps, except where they are put together from words. -/
theorem readings_of_withoutGaps (plain : PlainHeadings root) (plain' : PlainHeadings root') :
    Java.packageName root' = Java.packageName root ∧ importsOf root' = importsOf root := by
  obtain ⟨package, imports⟩ := readings_of_plain regular plain
  obtain ⟨package', imports'⟩ := readings_of_plain regular' plain'
  obtain ⟨packageLeft, importsLeft⟩ := readings_withoutGaps root
  obtain ⟨packageLeft', importsLeft'⟩ := readings_withoutGaps root'
  constructor
  · rw [package, package', ← packageLeft, ← packageLeft', same]
  · rw [imports, imports', ← importsLeft, ← importsLeft', same]

/-- Sources whose trees only differ in their gaps have the same outline, whatever the parser, if
their headings are plain. -/
theorem ofSource_of_withoutGaps {parser : Parser} {source source' : String}
    (accepted : parser source = .ok root) (accepted' : parser source' = .ok root')
    (plain : PlainHeadings root) (plain' : PlainHeadings root') (path : Path) :
    ofSource parser path source' = ofSource parser path source := by
  obtain ⟨package, imports⟩ := readings_of_withoutGaps regular regular' same plain plain'
  have trees := ofTree_congr (declaredTypes?_of_withoutGaps regular regular' same path.stemText?)
    package imports (typeReferences_of_withoutGaps regular regular' same)
  simp only [ofSource, accepted, accepted', trees]

end Relaid

/-- The name in the declaration of a package or an import is read with the comments inside, so it
is its words, joined by dots, if and only if there are none. A source that is laid out anew has a
tree as well, with the same types mentioned and declared; and if there are no comments inside these
names, neither before nor afterwards, it has the same package, imports and outline. -/
theorem layout_of_headings {source : String} {root : Java.Node}
    (parsed : Java.parse source = .ok root) :
    (∀ declaration ∈ root.children, isHeading declaration = true →
      ∃ name, declaration.children.filter isName = [name] ∧
        SpellsName name.tokens name.nameTokens ∧
        dottedName name = Node.spell (name.tokens.map Token.squeezed) ∧
        (dottedName name = name.dotted ↔ name.IsPlain)) ∧
    (PlainHeadings root → Java.packageName root = packageBy Node.dotted root ∧
      importsOf root = importsBy Node.dotted root) ∧
    ∀ source' tokens', tokenize source'.toList = .ok tokens' → Relaid "" root.tokens tokens' →
      ∃ root', Java.parse source' = .ok root' ∧ typeReferences root' = typeReferences root ∧
        (∀ stem, declaredTypes? root' stem = declaredTypes? root stem) ∧
        (PlainHeadings root → PlainHeadings root' →
          Java.packageName root' = Java.packageName root ∧ importsOf root' = importsOf root ∧
            ∀ path, ofSource Java.parser path source' = ofSource Java.parser path source) := by
  have regular := regular_of_parse parsed
  refine ⟨fun _ => headings_of_regular regular, readings_of_plain regular, ?_⟩
  intro source' tokens' lexed' relaid
  obtain ⟨root', parsed', same⟩ := exists_parse_of_relaid parsed lexed' relaid
  have regular' := regular_of_parse parsed'
  have accepted : Java.parser source = .ok root := by rw [Java.parser, parsed]
  have accepted' : Java.parser source' = .ok root' := by rw [Java.parser, parsed']
  refine ⟨root', parsed', typeReferences_of_withoutGaps regular regular' same,
    declaredTypes?_of_withoutGaps regular regular' same, fun plain plain' => ?_⟩
  obtain ⟨package, imports⟩ := readings_of_withoutGaps regular regular' same plain plain'
  exact ⟨package, imports,
    ofSource_of_withoutGaps regular regular' same accepted accepted' plain plain'⟩

/-- A file whose names have white space between the words. -/
def spacedHeadings : String :=
  "package a . b ; import c . * ; class A \x7b\x7d"

/-- The same tokens, with a line for each declaration and a comment outside of the names. -/
def tidyHeadings : String :=
  "package a.b; // note\nimport c.*;\nclass A \x7b\x7d"

/-- White space in names makes no difference, and neither does a comment elsewhere. -/
theorem layout_of_headings_tidy : ∃ root root',
    Java.parse spacedHeadings = .ok root ∧ Java.parse tidyHeadings = .ok root' ∧
      Relaid "" root.tokens root'.tokens ∧ PlainHeadings root ∧ PlainHeadings root' ∧
      Java.packageName root = "a.b" ∧ Java.packageName root' = Java.packageName root ∧
      importsOf root' = importsOf root ∧ typeReferences root' = typeReferences root ∧
      ∀ path, ofSource Java.parser path tidyHeadings =
        ofSource Java.parser path spacedHeadings := by
  have checks : (Java.parse spacedHeadings).toOption.any (fun root =>
      (Java.parse tidyHeadings).toOption.any fun root' =>
        Relaid "" root.tokens root'.tokens ∧ PlainHeadings root ∧ PlainHeadings root' ∧
          Java.packageName root = "a.b") = true := by
    decide +kernel
  cases parsed : Java.parse spacedHeadings with
  | error _ => rw [parsed] at checks; cases checks
  | ok root =>
    cases parsed' : Java.parse tidyHeadings with
    | error _ => rw [parsed, parsed'] at checks; cases checks
    | ok root' =>
      rw [parsed, parsed'] at checks
      obtain ⟨relaid, plain, plain', named⟩ := of_decide_eq_true checks
      obtain ⟨found, again, references, -, same⟩ :=
        (layout_of_headings parsed).2.2 tidyHeadings root'.tokens (tokens_of_parse parsed') relaid
      obtain rfl : root' = found := Except.ok.inj (parsed'.symm.trans again)
      obtain ⟨package, imports, outlines⟩ := same plain plain'
      exact ⟨root, root', rfl, rfl, relaid, plain, plain', named, package, imports, references,
        outlines⟩

/-- A comment inside the name is a part of the package. -/
example : (Java.parse "package a /* x */ . b; class A \x7b\x7d").toOption.map Java.packageName =
    some "a/*x*/.b" := by
  decide +kernel

end Outline

end JavaIndex
