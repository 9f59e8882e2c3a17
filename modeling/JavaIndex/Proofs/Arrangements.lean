import JavaIndex.Java.Unit
import JavaIndex.Proofs.TreeShapes
import JavaIndex.Proofs.TreeParts
import Mathlib.Data.Finset.Card

/-!
# The order of parts

The shapes say which kinds of nodes may stand below a node, but not how often and in which order.
For names and declarations this matters: a dotted name is made of a name, a dot and a word, and a
declaration of a type has one name and one body. The parts of a level are therefore read as words,
and the words that may stand in a level are computed along the grammar. Parts that play no role
count once in a row, so that annotations and the like do not make the words longer and longer; a
level of which the words go on growing is one of which nothing is known.

## Main definitions

* `Java.Node.part`, `Java.wordOf` — what a node is among the parts of another, and their words
* `Java.Kind.arranges` — the words of the parts of names and declarations
* `Java.Grammar.follow` — the words that may be in a level after a grammar
* `Java.Grammar.arranged` — a grammar closes only words that the kinds arrange
* `Java.Arranged` — the parts are in order everywhere in a tree

## Main results

* `Java.Grammar.Matches.among_follow` — a match leaves one of these words
* `Java.Grammar.Matches.arranged` — a match of an arranged grammar builds arranged trees
* `Java.arranged_of_parse` — the trees of sources are arranged
* `Java.Arranged.exists_scope`, `Java.Arranged.exists_heading_name`, `Java.Arranged.exists_name`,
  `Java.Arranged.exists_body` — the parts of dotted names, of headings and of declarations
-/

namespace JavaIndex.Java

/-! ### Parts and words -/

/-- What a node is among the parts of another one. -/
inductive Part where
  | identifier
  | scoped
  | body
  | dot
  /-- A keyword, an operator or a separator other than a dot. -/
  | mark
  | other
  deriving DecidableEq

/-- What nodes of the kind are among the parts of others. -/
def Kind.part : Kind → Part
  | identifier => .identifier
  | scopedIdentifier => .scoped
  | kind => if kind.isTypeBody then .body else .other

/-- What a node is among the parts of another one. -/
def Node.part : Node → Part
  | bare token => if token.sort = .mark ∧ token.text = "." then .dot else .mark
  | leaf kind _ => kind.part
  | branch kind _ => kind.part

/-- What the bare nodes are that the terminal makes, if this is known. -/
def Terminal.part? : Terminal → Option Part
  | mark text => some (if text = "." then .dot else .mark)
  | glued text => if text = "." then none else some .mark
  | ofSort sort => if sort = .mark then none else some .mark
  | keyword _ | name _ => some .mark

theorem Terminal.part_bare {terminal : Terminal} {token : Token} {part : Part}
    (known : terminal.part? = some part) (accepted : terminal.accepts token = true) :
    (Node.bare token).part = part := by
  cases terminal <;> simp_all [Terminal.part?, Terminal.accepts, Node.part]

/-- Puts a part in front of a word; parts that play no role count once in a row. -/
def Part.push (part : Part) (word : List Part) : List Part :=
  if part = .other ∧ word.head? = some .other then word else part :: word

/-- The word of a list of nodes. -/
def wordOf (nodes : List Node) : List Part :=
  nodes.foldr (fun node => node.part.push) []

theorem push_push_other (word : List Part) :
    Part.push .other (Part.push .other word) = Part.push .other word := by
  unfold Part.push
  split_ifs <;> simp_all

/-- Nothing is lost when the word of the nodes in front is made first. -/
theorem foldr_push_push (part : Part) (front back : List Part) :
    (Part.push part front).foldr Part.push back = Part.push part (front.foldr Part.push back) := by
  by_cases again : part = .other ∧ front.head? = some .other
  · obtain ⟨rfl, first⟩ := again
    obtain ⟨rest, rfl⟩ := List.head?_eq_some_iff.mp first
    rw [Part.push, if_pos ⟨rfl, rfl⟩, List.foldr_cons, push_push_other]
  · rw [Part.push, if_neg again, List.foldr_cons]

theorem wordOf_append (front back : List Node) :
    wordOf (front ++ back) = (wordOf front).foldr Part.push (wordOf back) := by
  rw [wordOf, List.foldr_append]
  induction front with
  | nil => rfl
  | cons node rest ih =>
    rw [List.foldr_cons, ih]
    exact (foldr_push_push ..).symm

theorem wordOf_singleton (node : Node) : wordOf [node] = [node.part] := by
  simp [wordOf, Part.push]

theorem wordOf_cons (node : Node) (rest : List Node) :
    wordOf (node :: rest) = node.part.push (wordOf rest) :=
  rfl

/-- The parts that play a role are all in the word. -/
theorem countP_wordOf {counts : Part → Bool} (noOther : counts .other = false)
    (nodes : List Node) : (wordOf nodes).countP counts = nodes.countP (counts ·.part) := by
  induction nodes with
  | nil => rfl
  | cons node rest ih =>
    rw [wordOf_cons, Part.push, List.countP_cons, ← ih]
    split_ifs with again counted
    · rw [again.1, noOther] at counted
      cases counted
    · rfl
    · rw [List.countP_cons_of_pos (by assumption)]
    · rw [List.countP_cons_of_neg (by assumption)]
      rfl

/-- A word in which every part plays a role has one letter for each node. -/
theorem map_part_of_notMem {nodes : List Node} (noOther : .other ∉ wordOf nodes) :
    nodes.map Node.part = wordOf nodes := by
  induction nodes with
  | nil => rfl
  | cons node rest ih =>
    rw [wordOf_cons, Part.push] at noOther ⊢
    split_ifs at noOther ⊢ with again
    · exact absurd (List.mem_of_mem_head? again.2) noOther
    · rw [List.map_cons, ih (fun inside => noOther (List.mem_cons_of_mem _ inside))]

/-! ### Arranged trees -/

namespace Kind

/-- Whether branches of the kind may have any parts in any order. -/
def isFree : Kind → Bool
  | scopedIdentifier | packageDeclaration | importDeclaration => false
  | kind => !kind.declaresType

/-- Whether the parts of a branch of the kind, the last one first, may make up the word. A dotted
name is a name, a dot and a word; declarations of packages and imports have one name, and those of
types have one name and one body. -/
def arranges : Kind → List Part → Bool
  | scopedIdentifier, word =>
    [[.identifier, .dot, .identifier], [.identifier, .dot, .scoped]].contains word
  | packageDeclaration, word | importDeclaration, word =>
    word.countP (fun part => part = .identifier || part = .scoped) == 1
  | kind, word => !kind.declaresType ||
    (word.countP (· = .identifier) == 1 && word.countP (· = .body) == 1)

theorem arranges_of_isFree {kind : Kind} (free : kind.isFree = true) (word : List Part) :
    kind.arranges word = true := by
  cases kind <;> first | rfl | cases free

end Kind

/-- The parts are in order everywhere in a tree. -/
inductive Arranged : Node → Prop
  | bare (token : Token) : Arranged (.bare token)
  | leaf (kind : Kind) (token : Token) : Arranged (.leaf kind token)
  | branch {kind : Kind} {children : List Node}
    (inOrder : kind.arranges (wordOf children.reverse) = true)
    (below : ∀ child ∈ children, Arranged child) :
    Arranged (.branch kind children)

namespace Grammar

variable {σ : Type} {rules : σ → Grammar σ} {grammar : Grammar σ} {nodes nodes' : List Node}
  {tokens rest : List Token}

/-! ### The words in a level -/

/-- The words that may be in a level, the last part first; `none` is no knowledge of them. -/
abbrev Words := Option (Finset (List Part))

namespace Words

/-- The words with a part in front. -/
def push (part : Part) (words : Words) : Words :=
  words.map (Finset.image part.push)

/-- The words with those of another level in front. -/
def append (inner outer : Words) : Words :=
  inner.bind fun fronts =>
    outer.map fun backs => fronts.biUnion fun front => backs.image (front.foldr Part.push)

/-- The words of two alternatives. Where they are many, no track is kept of them. -/
def union (left right : Words) : Words :=
  (left.bind fun these => right.map (these ∪ ·)).filter fun possible => possible.card ≤ 8

/-- The nodes make up one of the words. -/
def Among (words : Words) (nodes : List Node) : Prop :=
  ∀ possible ∈ words, wordOf nodes ∈ possible

variable {words left right : Words} {nodes : List Node}

theorem Among.push {part : Part} (among : Among words nodes) {node : Node}
    (isPart : node.part = part) : Among (words.push part) (node :: nodes) := by
  intro possible known
  obtain ⟨before, knownBefore, rfl⟩ := Option.map_eq_some_iff.mp known
  rw [wordOf_cons, isPart]
  exact Finset.mem_image_of_mem _ (among before knownBefore)

theorem Among.append {front : List Node} (inside : Among left front) (among : Among words nodes) :
    Among (left.append words) (front ++ nodes) := by
  intro possible known
  obtain ⟨fronts, knownFronts, known⟩ := Option.bind_eq_some_iff.mp known
  obtain ⟨backs, knownBacks, rfl⟩ := Option.map_eq_some_iff.mp known
  rw [wordOf_append, Finset.mem_biUnion]
  refine ⟨_, inside fronts knownFronts, ?_⟩
  exact Finset.mem_image_of_mem _ (among backs knownBacks)

theorem union_comm (left right : Words) : left.union right = right.union left := by
  cases left <;> cases right <;> simp [union, Finset.union_comm]

theorem Among.union_left (among : Among left nodes) : Among (left.union right) nodes := by
  intro possible known
  obtain ⟨known, -⟩ := Option.filter_eq_some_iff.mp known
  obtain ⟨these, knownThese, known⟩ := Option.bind_eq_some_iff.mp known
  obtain ⟨those, -, rfl⟩ := Option.map_eq_some_iff.mp known
  exact Finset.mem_union_left _ (among these knownThese)

theorem Among.union_right (among : Among right nodes) : Among (left.union right) nodes := by
  rw [union_comm]
  exact among.union_left

end Words

open Words (Among)

/-- The kind of the one branch that a grammar adds to its level, if it is made that way. -/
def single? : Grammar σ → Option Kind
  | level (both _ (close kind)) => some kind
  | _ => none

/-- The words that may be in the level after a grammar, given those before. A repetition has to
settle after its first turn: a further turn may bring no words that are not there yet. -/
def follow (rules : σ → Grammar σ) : Grammar σ → Words → Words
  | bare terminal, words => terminal.part?.bind words.push
  | leaf kind _, words => words.push kind.part
  | rule name, words => (rules name).single?.bind fun kind => words.push kind.part
  | both first second, words => second.follow rules (first.follow rules words)
  | either first second, words => (first.follow rules words).union (second.follow rules words)
  | many body, words =>
    let all := words.union (body.follow rules words)
    if all.union (body.follow rules all) = all then all else none
  | level body, words => (body.follow rules (some {[]})).append words
  | close kind, _ => some {[kind.part]}
  | _, words => words

variable {words : Words}

theorem Matches.of_single? {kind : Kind} (single : grammar.single? = some kind)
    (matched : Matches rules grammar nodes tokens nodes' rest) :
    ∃ children, nodes' = .branch kind children :: nodes := by
  unfold single? at single
  split at single
  · obtain rfl := Option.some.inj single
    cases matched with
    | level inside =>
      cases inside with
      | both _ closed =>
        cases closed
        exact ⟨_, rfl⟩
  · cases single

/-- Where one more turn brings nothing new, the words of a repetition are those it starts with. -/
theorem follow_many_of_settled {body : Grammar σ}
    (settled : words.union (body.follow rules words) = words) :
    (many body).follow rules words = words := by
  rw [follow]
  simp only [settled, if_true]

/-- The words of a repetition are settled. -/
theorem follow_many_follow (body : Grammar σ) (words : Words) :
    (many body).follow rules ((many body).follow rules words) = (many body).follow rules words := by
  rw [follow.eq_def rules (many body) words]
  simp only
  split_ifs with settled
  · exact follow_many_of_settled settled
  · exact follow_many_of_settled rfl

/-- A match leaves one of the words that are computed for its grammar. -/
theorem Matches.among_follow (matched : Matches rules grammar nodes tokens nodes' rest)
    (among : Among words nodes) : Among (grammar.follow rules words) nodes' := by
  induction matched generalizing words with
  | done | ahead | absent => exact among
  | bare accepted =>
    intro possible known
    obtain ⟨part, knownPart, known⟩ := Option.bind_eq_some_iff.mp known
    exact among.push (Terminal.part_bare knownPart accepted) possible known
  | leaf => exact among.push rfl
  | @rule name _ _ _ _ body =>
    intro possible known
    obtain ⟨kind, single, known⟩ := Option.bind_eq_some_iff.mp known
    obtain ⟨children, rfl⟩ := body.of_single? single
    exact among.push rfl possible known
  | both _ _ one two => exact two (one among)
  | first _ one => exact (one among).union_left
  | second _ two => exact (two among).union_right
  | stop =>
    rw [follow]
    split_ifs
    · exact among.union_left
    · exact nofun
  | more _ _ one further =>
    rw [follow]
    split_ifs with settled
    · -- The words after the first turn are among those of a second one, and stay there.
      have next := further ((settled ▸ (one among.union_left).union_right))
      rwa [follow_many_of_settled settled] at next
    · exact nofun
  | level _ ih =>
    have start : Among (some {[]}) [] := by
      rintro _ ⟨⟩
      exact Finset.mem_singleton_self _
    exact (ih start).append among
  | close =>
    rintro _ ⟨⟩
    rw [wordOf_singleton]
    exact Finset.mem_singleton_self _

/-! ### What a grammar closes -/

/-- Whether a grammar closes only words that the kinds arrange, given those before; in rules
nothing is known of these. -/
def arranged (rules : σ → Grammar σ) : Grammar σ → Words → Bool
  | both first second, words =>
    first.arranged rules words && second.arranged rules (first.follow rules words)
  | either first second, words => first.arranged rules words && second.arranged rules words
  | many body, words => body.arranged rules ((many body).follow rules words)
  | level body, _ => body.arranged rules (some {[]})
  | close kind, none => kind.isFree
  | close kind, some possible => decide (∀ word ∈ possible, kind.arranges word = true)
  | _, _ => true

/-- A match of an arranged grammar turns arranged trees into arranged trees. -/
theorem Matches.arranged (all : ∀ name, (rules name).arranged rules none = true)
    (matched : Matches rules grammar nodes tokens nodes' rest)
    (closes : grammar.arranged rules words = true) (among : Among words nodes)
    (before : ∀ node ∈ nodes, Arranged node) : ∀ node ∈ nodes', Arranged node := by
  induction matched generalizing words with
  | done | stop | ahead | absent => exact before
  | bare => exact List.forall_mem_cons.mpr ⟨.bare _, before⟩
  | leaf => exact List.forall_mem_cons.mpr ⟨.leaf _ _, before⟩
  | @rule name _ _ _ _ _ ih =>
    -- A rule may be used anywhere, and is checked without knowledge of the words before it.
    exact ih (all name) nofun before
  | both one _ first second =>
    rw [Grammar.arranged, Bool.and_eq_true] at closes
    exact second closes.2 (one.among_follow among) (first closes.1 among before)
  | first _ ih =>
    rw [Grammar.arranged, Bool.and_eq_true] at closes
    exact ih closes.1 among before
  | second _ ih =>
    rw [Grammar.arranged, Bool.and_eq_true] at closes
    exact ih closes.2 among before
  | @more body nodes _ middle _ _ _ one _ first further =>
    -- The words of the whole repetition are there at the start of each turn.
    have nothing : Matches rules (many body) nodes [] nodes [] := .stop
    have start : Among ((many body).follow rules words) nodes := nothing.among_follow among
    have next : Among ((many body).follow rules words) middle :=
      (Matches.more one .stop).among_follow among
    refine further ?_ next (first closes start before)
    rw [Grammar.arranged, follow_many_follow]
    exact closes
  | level _ ih =>
    intro node member
    rcases List.mem_append.mp member with inside | outside
    · refine ih closes ?_ nofun node inside
      rintro _ ⟨⟩
      exact Finset.mem_singleton_self _
    · exact before node outside
  | @close kind nodes _ =>
    intro node member
    obtain rfl := List.mem_singleton.mp member
    refine .branch ?_ fun child below => before child (List.mem_reverse.mp below)
    rw [List.reverse_reverse]
    cases words with
    | none => exact Kind.arranges_of_isFree closes _
    | some possible => exact of_decide_eq_true closes _ (among possible rfl)

end Grammar

/-! ### The rules of the language -/

theorem arranged_rules (name : Symbol) : (rules name).arranged rules none = true := by
  cases name with
  | expression inLabel | operand inLabel => cases inLabel <;> decide +kernel
  | _ => decide +kernel

/-- The trees of sources are arranged. -/
theorem arranged_of_parse {source : String} {root : Node} (parsed : parse source = .ok root) :
    Arranged root := by
  obtain ⟨tokens, nodes, -, rfl, matched⟩ := parse_eq_ok parsed
  have start : Grammar.Words.Among none [] := by simp [Grammar.Words.Among]
  have below : ∀ node ∈ nodes, Arranged node := matched.arranged arranged_rules rfl start nofun
  exact .branch rfl fun child member => below child (List.mem_reverse.mp member)

/-! ### Names and declarations -/

section Parts

variable {node : Node}

theorem part_eq_identifier : node.part = .identifier ↔ node.kind? = some .identifier := by
  have each (kind : Kind) : kind.part = .identifier ↔ kind = .identifier := by
    cases kind <;> decide
  cases node with
  | bare token =>
    rw [Node.part]
    split_ifs <;> simp [Node.kind?]
  | leaf kind _ | branch kind _ => simp [Node.part, Node.kind?, each]

theorem part_eq_scoped : node.part = .scoped ↔ node.kind? = some .scopedIdentifier := by
  have each (kind : Kind) : kind.part = .scoped ↔ kind = .scopedIdentifier := by
    cases kind <;> decide
  cases node with
  | bare token =>
    rw [Node.part]
    split_ifs <;> simp [Node.kind?]
  | leaf kind _ | branch kind _ => simp [Node.part, Node.kind?, each]

theorem part_eq_body : node.part = .body ↔ isTypeBody node = true := by
  have each (kind : Kind) : kind.part = .body ↔ kind.isTypeBody = true := by
    cases kind <;> decide
  cases node with
  | bare token =>
    rw [Node.part]
    split_ifs <;> simp [isTypeBody, Node.kind?]
  | leaf kind _ | branch kind _ => simp [Node.part, isTypeBody, Node.kind?, each]

theorem exists_dot (isDot : node.part = .dot) :
    ∃ token, node = .bare token ∧ token.sort = .mark ∧ token.text = "." := by
  cases node with
  | bare token =>
    rw [Node.part] at isDot
    split_ifs at isDot with named
    exact ⟨token, rfl, named⟩
  | leaf kind _ | branch kind _ => cases kind <;> cases isDot

theorem isName_iff_part : isName node = true ↔ node.part = .identifier ∨ node.part = .scoped := by
  rw [isName, Bool.or_eq_true, beq_iff_eq, beq_iff_eq, part_eq_identifier, part_eq_scoped]

end Parts

/-- Where one letter of a word counts, one of the nodes does. -/
theorem exists_filter (counts : Part → Bool) (picks : Node → Bool) {children : List Node}
    (noOther : counts .other = false) (alike : ∀ node, counts node.part = picks node)
    (once : (wordOf children.reverse).countP counts = 1) :
    ∃ child, children.filter picks = [child] := by
  rw [countP_wordOf noOther, List.countP_reverse, List.countP_eq_length_filter] at once
  obtain ⟨child, only⟩ := List.length_eq_one_iff.mp once
  refine ⟨child, ?_⟩
  rw [← only]
  exact List.filter_congr fun node _ => (alike node).symm

namespace Arranged

variable {kind : Kind} {children : List Node}

theorem inOrder (arranged : Arranged (.branch kind children)) :
    kind.arranges (wordOf children.reverse) = true := by
  cases arranged
  assumption

theorem of_mem_children {node child : Node} (arranged : Arranged node)
    (member : child ∈ node.children) : Arranged child := by
  cases arranged with
  | bare | leaf => cases member
  | branch _ below => exact below child member

/-- A dotted name is a name, a dot and a word. -/
theorem exists_scope (arranged : Arranged (.branch .scopedIdentifier children)) :
    ∃ scope dot name, children = [scope, dot, name] ∧ isName scope = true ∧ dot.part = .dot ∧
      name.kind? = some .identifier := by
  obtain ⟨first, word, isName⟩ : ∃ first, wordOf children.reverse = [.identifier, .dot, first] ∧
      (first = .identifier ∨ first = .scoped) := by
    have inOrder := arranged.inOrder
    simp only [Kind.arranges, List.contains_iff_mem, List.mem_cons, List.not_mem_nil,
      or_false] at inOrder
    rcases inOrder with word | word
    · exact ⟨_, word, .inl rfl⟩
    · exact ⟨_, word, .inr rfl⟩
  have noOther : .other ∉ wordOf children.reverse := by
    rw [word]
    rcases isName with rfl | rfl <;> decide
  have parts := map_part_of_notMem noOther
  rw [word, List.map_reverse, List.reverse_eq_iff] at parts
  simp only [List.reverse_cons, List.reverse_nil, List.nil_append, List.cons_append,
    List.map_eq_cons_iff, List.map_eq_nil_iff] at parts
  obtain ⟨scope, _, rfl, isScope, dot, _, rfl, isDot, name, _, rfl, isWord, rfl⟩ := parts
  exact ⟨scope, dot, name, rfl, isName_iff_part.mpr (isScope ▸ isName), isDot,
    part_eq_identifier.mp isWord⟩

/-- The declaration of a package or an import has one name. -/
theorem exists_heading_name (arranged : Arranged (.branch kind children))
    (heading : kind.isHeading = true) : ∃ name, children.filter isName = [name] := by
  refine exists_filter (fun part => part = .identifier || part = .scoped) _ rfl ?_ ?_
  · intro node
    rw [Bool.eq_iff_iff, isName_iff_part]
    simp
  · have inOrder := arranged.inOrder
    cases kind with
    | packageDeclaration | importDeclaration => exact beq_iff_eq.mp inOrder
    | _ => cases heading

theorem counts_of_declaresType (arranged : Arranged (.branch kind children))
    (declares : kind.declaresType = true) :
    (wordOf children.reverse).countP (· = .identifier) = 1 ∧
      (wordOf children.reverse).countP (· = .body) = 1 := by
  have inOrder := arranged.inOrder
  cases kind with
  | classDeclaration | interfaceDeclaration | enumDeclaration | recordDeclaration
  | annotationTypeDeclaration => simpa [Kind.arranges, Kind.declaresType] using inOrder
  | _ => cases declares

/-- The declaration of a type has one name. -/
theorem exists_name (arranged : Arranged (.branch kind children))
    (declares : kind.declaresType = true) :
    ∃ name, children.filter (fun part => part.kind? == some .identifier) = [name] := by
  refine exists_filter (· = .identifier) _ rfl ?_ (arranged.counts_of_declaresType declares).1
  intro node
  rw [Bool.eq_iff_iff, decide_eq_true_iff, part_eq_identifier, beq_iff_eq]

/-- The declaration of a type has one body. -/
theorem exists_body (arranged : Arranged (.branch kind children))
    (declares : kind.declaresType = true) : ∃ body, children.filter isTypeBody = [body] := by
  refine exists_filter (· = .body) _ rfl ?_ (arranged.counts_of_declaresType declares).2
  intro node
  rw [Bool.eq_iff_iff, decide_eq_true_iff, part_eq_body]

end Arranged

end JavaIndex.Java
