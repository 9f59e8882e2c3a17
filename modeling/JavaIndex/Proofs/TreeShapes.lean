import JavaIndex.Proofs.Matches
import Mathlib.Data.Finset.Union

/-!
# The shapes of trees

Which nodes may stand right below a node is fixed by the rules of the language, though nothing
in the type of trees says so. The kinds of the nodes that a grammar adds to its level are read
off the grammar, and so is what it closes into one branch. Where these are as the shapes demand,
for all rules at once, every tree that a match builds has the shapes.

The shapes told here are those of the class types, of the words in names and of the primitive
types. Names of types and the words of other names are identifiers, and a primitive type is one of
its keywords. A scoped type has the type in front of the dot, annotations and a name below it; a
generic type has the type that is made generic and the type arguments.

## Main definitions

* `Java.Kind.hasBranches`, `Java.Kind.admits`, `Java.Kind.isSpelledBy` — the shapes
* `Java.Conforms` — a tree has the shapes everywhere
* `Java.Grammar.added`, `Java.Grammar.keeps` — what a grammar leaves in its level
* `Java.Grammar.fits` — a grammar closes only what the shapes allow

## Main results

* `Java.Grammar.Matches.kind?_mem` — the nodes in a level after a match
* `Java.Grammar.Matches.conforms` — a match of a grammar that fits builds trees with the shapes
* `Java.added_rules`, `Java.fits_rules` — the rules of the language fit
* `Java.conforms_of_parse` — the trees of sources have the shapes
-/

namespace JavaIndex.Java

/-! ### Shapes -/

namespace Kind

/-- Whether nodes of the kind may have others below them. -/
def hasBranches : Kind → Bool
  | identifier | asterisk => false
  | typeIdentifier | integralType | floatingPointType | booleanType | voidType => false
  | _ => true

/-- Whether a node of the second kind, or a bare one, may stand right below a branch of the
first. -/
def admits : Kind → Option Kind → Bool
  | scopedTypeIdentifier, child =>
    [none, some typeIdentifier, some scopedTypeIdentifier, some genericType,
      some annotationUse].contains child
  | genericType, child =>
    [some typeIdentifier, some scopedTypeIdentifier, some genericType,
      some typeArguments].contains child
  | _, _ => true

/-- Whether a leaf of the kind may be what the terminal asks for; most kinds have no leaves. -/
def isSpelledBy : Kind → Terminal → Bool
  | identifier, .name _ | typeIdentifier, .name _ => true
  | integralType, .keyword text => ["byte", "short", "int", "long", "char"].contains text
  | floatingPointType, .keyword text => ["float", "double"].contains text
  | booleanType, .keyword text => text == "boolean"
  | voidType, .keyword text => text == "void"
  | asterisk, .mark text => text == "*"
  | literal, .ofSort _ => true
  | _, _ => false

end Kind

/-- A tree has the shapes everywhere. -/
inductive Conforms : Node → Prop
  | bare (token : Token) : Conforms (.bare token)
  | leaf {kind : Kind} {terminal : Terminal} {token : Token}
    (spelled : kind.isSpelledBy terminal = true) (accepted : terminal.accepts token = true) :
    Conforms (.leaf kind token)
  | branch {kind : Kind} {children : List Node} (branches : kind.hasBranches = true)
    (admitted : ∀ child ∈ children, kind.admits child.kind? = true)
    (below : ∀ child ∈ children, Conforms child) :
    Conforms (.branch kind children)

namespace Grammar

variable {σ : Type} {rules : σ → Grammar σ} {kinds : σ → Finset (Option Kind)} {grammar : Grammar σ}
  {nodes nodes' : List Node} {tokens rest : List Token}

/-! ### What a grammar leaves in its level -/

/-- Whether nodes that were in the level before may still be there afterwards. -/
def keeps : Grammar σ → Bool
  | both first second => first.keeps && second.keeps
  | either first second => first.keeps || second.keeps
  | close _ => false
  | _ => true

/-- The kinds of the nodes that are new in the level, given those that each rule adds; bare nodes
have none. -/
def added (kinds : σ → Finset (Option Kind)) : Grammar σ → Finset (Option Kind)
  | bare _ => {none}
  | leaf kind _ => {some kind}
  | rule name => kinds name
  | both first second => second.added kinds ∪ if second.keeps then first.added kinds else ∅
  | either first second => first.added kinds ∪ second.added kinds
  | many body => body.added kinds
  | level body => body.added kinds
  | close kind => {some kind}
  | _ => ∅

/-- A node in the level after a match is new, or it was there before and has been kept. -/
theorem Matches.kind?_mem (sound : ∀ name, (rules name).added kinds ⊆ kinds name)
    (matched : Matches rules grammar nodes tokens nodes' rest) :
    ∀ node ∈ nodes', node.kind? ∈ grammar.added kinds ∨ grammar.keeps = true ∧ node ∈ nodes := by
  induction matched with
  | done | stop | ahead | absent => exact fun node member => .inr ⟨rfl, member⟩
  | bare | leaf =>
    rintro node (_ | ⟨_, before⟩)
    · exact .inl (Finset.mem_singleton_self _)
    · exact .inr ⟨rfl, before⟩
  | rule _ ih =>
    intro node member
    rcases ih node member with new | ⟨-, before⟩
    · exact .inl (sound _ new)
    · exact .inr ⟨rfl, before⟩
  | @both first second _ _ _ _ _ _ _ _ one two =>
    intro node member
    rw [added, keeps, Finset.mem_union, Bool.and_eq_true]
    -- What the first part adds is seen afterwards only where the second part keeps it.
    rcases two node member with new | ⟨kept, between⟩
    · exact .inl (.inl new)
    · rw [if_pos kept]
      rcases one node between with new | ⟨kept', before⟩
      · exact .inl (.inr new)
      · exact .inr ⟨⟨kept', kept⟩, before⟩
  | first _ ih =>
    intro node member
    rw [added, keeps, Finset.mem_union, Bool.or_eq_true]
    rcases ih node member with new | ⟨kept, before⟩
    · exact .inl (.inl new)
    · exact .inr ⟨.inl kept, before⟩
  | second _ ih =>
    intro node member
    rw [added, keeps, Finset.mem_union, Bool.or_eq_true]
    rcases ih node member with new | ⟨kept, before⟩
    · exact .inl (.inr new)
    · exact .inr ⟨.inr kept, before⟩
  | more _ _ one further =>
    intro node member
    rcases further node member with new | ⟨-, between⟩
    · exact .inl new
    · rcases one node between with new | ⟨-, before⟩
      · exact .inl new
      · exact .inr ⟨rfl, before⟩
  | level _ ih =>
    intro node member
    rcases List.mem_append.mp member with inside | before
    · rcases ih node inside with new | ⟨-, nothing⟩
      · exact .inl new
      · cases nothing
    · exact .inr ⟨rfl, before⟩
  | close =>
    intro node member
    obtain rfl := List.mem_singleton.mp member
    exact .inl (Finset.mem_singleton_self _)

/-! ### What a grammar closes -/

/-- The kinds that may be in a level where the grammar may have added nodes; `none` is no
knowledge of them. -/
def widen (kinds : σ → Finset (Option Kind)) (grammar : Grammar σ)
    (present : Option (Finset (Option Kind))) : Option (Finset (Option Kind)) :=
  present.map (grammar.added kinds ∪ ·)

/-- The kinds that may be in the level after a grammar, given those before. -/
def after (kinds : σ → Finset (Option Kind)) (grammar : Grammar σ)
    (present : Option (Finset (Option Kind))) : Option (Finset (Option Kind)) :=
  if grammar.keeps then grammar.widen kinds present else some (grammar.added kinds)

/-- Whether a grammar makes only leaves and branches of the shapes, given the kinds that may be
in the level before; in rules nothing is known of these. -/
def fits (kinds : σ → Finset (Option Kind)) : Grammar σ → Option (Finset (Option Kind)) → Bool
  | leaf kind terminal, _ => kind.isSpelledBy terminal
  | both first second, present =>
    first.fits kinds present && second.fits kinds (first.after kinds present)
  | either first second, present => first.fits kinds present && second.fits kinds present
  | many body, present => body.fits kinds (body.widen kinds present)
  | level body, _ => body.fits kinds (some ∅)
  | close kind, some present =>
    kind.hasBranches && decide (∀ child ∈ present, kind.admits child = true)
  | close _, none => false
  | _, _ => true

/-- The nodes have kinds that may be present. -/
def Holds (present : Option (Finset (Option Kind))) (nodes : List Node) : Prop :=
  ∀ possible, present = some possible → ∀ node ∈ nodes, node.kind? ∈ possible

variable {present : Option (Finset (Option Kind))}

theorem holds_widen (before : Holds present nodes)
    (each : ∀ node ∈ nodes', node.kind? ∈ grammar.added kinds ∨ node ∈ nodes) :
    Holds (grammar.widen kinds present) nodes' := by
  intro possible known node member
  obtain ⟨earlier, knownBefore, rfl⟩ := Option.map_eq_some_iff.mp known
  rw [Finset.mem_union]
  exact (each node member).imp_right (before earlier knownBefore node)

theorem widen_widen : grammar.widen kinds (grammar.widen kinds present) =
    grammar.widen kinds present := by
  cases present with
  | none => rfl
  | some possible =>
    exact congrArg some (Finset.union_eq_right.mpr Finset.subset_union_left)

theorem Matches.holds_after (sound : ∀ name, (rules name).added kinds ⊆ kinds name)
    (matched : Matches rules grammar nodes tokens nodes' rest) (holds : Holds present nodes) :
    Holds (grammar.after kinds present) nodes' := by
  have each := matched.kind?_mem sound
  rw [after]
  split_ifs with keeps
  · exact holds_widen holds fun node member => (each node member).imp_right And.right
  · rintro _ ⟨⟩ node member
    exact (each node member).resolve_right fun kept => keeps kept.1

/-- A match of a grammar that fits turns trees with the shapes into trees with the shapes. -/
theorem Matches.conforms (sound : ∀ name, (rules name).added kinds ⊆ kinds name)
    (fit : ∀ name, (rules name).fits kinds none = true)
    (matched : Matches rules grammar nodes tokens nodes' rest)
    (fits : grammar.fits kinds present = true) (holds : Holds present nodes)
    (conform : ∀ node ∈ nodes, Conforms node) : ∀ node ∈ nodes', Conforms node := by
  induction matched generalizing present with
  | done | stop | ahead | absent => exact conform
  | bare => exact List.forall_mem_cons.mpr ⟨.bare _, conform⟩
  | leaf accepted => exact List.forall_mem_cons.mpr ⟨.leaf fits accepted, conform⟩
  | @rule name _ _ _ _ _ ih =>
    -- A rule closes nothing from outside, so it fits whatever is there.
    exact ih (fit name) nofun conform
  | both one _ first second =>
    rw [Grammar.fits, Bool.and_eq_true] at fits
    exact second fits.2 (one.holds_after sound holds) (first fits.1 holds conform)
  | first _ ih =>
    rw [Grammar.fits, Bool.and_eq_true] at fits
    exact ih fits.1 holds conform
  | second _ ih =>
    rw [Grammar.fits, Bool.and_eq_true] at fits
    exact ih fits.2 holds conform
  | @more body nodes _ middle _ _ _ one _ first further =>
    -- The kinds that the body adds count as present from the start; that set is the same
    -- after the first turn, so the same fit serves all turns.
    have start : Holds (body.widen kinds present) nodes :=
      holds_widen holds fun node member => .inr member
    have next : Holds (body.widen kinds present) middle :=
      holds_widen holds fun node member => (one.kind?_mem sound node member).imp_right And.right
    refine further ?_ next (first fits start conform)
    rw [Grammar.fits, widen_widen]
    exact fits
  | level _ ih =>
    intro node member
    rcases List.mem_append.mp member with inside | before
    · exact ih fits (by simp [Holds]) (by simp) node inside
    · exact conform node before
  | @close kind nodes _ =>
    intro node member
    obtain rfl := List.mem_singleton.mp member
    cases present with
    | none => cases fits
    | some possible =>
      rw [Grammar.fits, Bool.and_eq_true, decide_eq_true_iff] at fits
      refine .branch fits.1 (fun child below => ?_) (fun child below => ?_)
      · exact fits.2 _ (holds possible rfl child (List.mem_reverse.mp below))
      · exact conform child (List.mem_reverse.mp below)

end Grammar

/-! ### The rules of the language -/

/-- The kinds of the nodes that each rule adds to the level it is used in. Most rules add one
branch of their own. -/
def ruleKinds : Symbol → Finset (Option Kind)
  | .annotationUse => {some .annotationUse}
  | .annotationArguments => {some .annotationArguments}
  | .elementValue => {some .arrayInitializer, some .annotationUse, some .expression}
  | .type => {some .integralType, some .floatingPointType, some .booleanType, some .voidType,
    some .typeIdentifier, some .scopedTypeIdentifier, some .genericType,
    some .arrayType, some .annotatedType}
  | .dimensions => {some .dimensions}
  | .typeArguments => {some .typeArguments}
  | .typeParameters => {some .typeParameters}
  | .formalParameters => {some .formalParameters}
  | .expression _ => {some .expression}
  | .operand _ => {none, some .identifier, some .literal,
    some .expression, some .lambda, some .cast, some .parenthesized,
    some .switchExpression, some .objectCreation, some .arrayCreation,
    some .argumentList, some .typeArguments, some .classLiteral, some .methodReference}
  | .arguments => {some .argumentList}
  | .arrayInitializer => {some .arrayInitializer}
  | .recordPattern => {some .recordPattern}
  | .switchBlock => {some .switchBlock}
  | .block => {some .block}
  | .modifiers => {some .modifiers}
  | .classBody => {some .classBody}
  | .interfaceBody => {some .interfaceBody}
  | .enumBody => {some .enumBody}
  | .annotationTypeBody => {some .annotationTypeBody}
  | .statement | .program => {none, some .block, some .statement, some .switchExpression,
    some .localVariable, some .importDeclaration, some .packageDeclaration,
    some .moduleDeclaration, some .classDeclaration, some .interfaceDeclaration,
    some .enumDeclaration, some .recordDeclaration, some .annotationTypeDeclaration,
    some .methodDeclaration}

theorem added_rules (name : Symbol) : (rules name).added ruleKinds ⊆ ruleKinds name := by
  cases name with
  | expression inLabel | operand inLabel => cases inLabel <;> decide +kernel
  | _ => decide +kernel

theorem fits_rules (name : Symbol) : (rules name).fits ruleKinds none = true := by
  cases name with
  | expression inLabel | operand inLabel => cases inLabel <;> decide +kernel
  | _ => decide +kernel

/-- The trees of sources have the shapes. -/
theorem conforms_of_parse {source : String} {root : Node} (parsed : parse source = .ok root) :
    Conforms root := by
  obtain ⟨tokens, nodes, -, rfl, matched⟩ := parse_eq_ok parsed
  have start : Grammar.Holds none [] := nofun
  have conform : ∀ node ∈ nodes, Conforms node :=
    matched.conforms added_rules fits_rules rfl start nofun
  refine .branch rfl (fun _ _ => rfl) fun child below => ?_
  exact conform child (List.mem_reverse.mp below)

end JavaIndex.Java
