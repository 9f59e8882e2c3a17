import JavaIndex.Proofs.Matches
import Mathlib.Data.Option.Basic
import Mathlib.Tactic.SplitIfs

/-!
# Sources laid out anew

White space and comments stand in the gaps between tokens. The rules of the language ask for the
sort and the text of a token and not for the gap in front of it, with one exception: the operators
that begin with `>`, and the keyword `non-sealed`, are made of several tokens and have no gaps
inside. Where two sources have the same tokens and the same gaps at these places, a run takes the
same steps on both. The trees are the same up to the gaps that their tokens carry.

That a run looks at gaps nowhere else is read off the rules: along a grammar one computes which
token was taken last, as far as this is known, and a token that may have no gap in front is asked
for only behind a token that it joins.

## Main definitions

* `Java.joins`, `Java.Relaid` — tokens laid out anew
* `Java.Node.withoutGaps` — a tree without the gaps between its tokens
* `Java.Grammar.lastText`, `Java.Grammar.gluesJoins` — a grammar looks at gaps inside joins only

## Main results

* `Java.Grammar.run_relaid` — runs agree on tokens that are laid out anew
* `Java.gluesJoins_rules` — the rules of the language look at gaps inside joins only
* `Java.exists_parse_of_relaid` — a source that is laid out anew has the same tree up to gaps
-/

namespace JavaIndex.Java

/-! ### Gaps -/

/-- The second token goes on with an operator or a keyword that the first one begins. -/
def joins (first second : String) : Bool :=
  [(">", ">"), (">", "="), ("non", "-"), ("-", "sealed")].contains (first, second)

/-- The same tokens laid out anew, behind a token of the given text. Gaps may change, but no
operator or keyword of several tokens is torn apart or put together. -/
inductive Relaid : String → List Token → List Token → Prop
  | nil {last : String} : Relaid last [] []
  | cons {last : String} {token token' : Token} {rest rest' : List Token}
    (sort : token.sort = token'.sort) (text : token.text = token'.text)
    (joined : joins last token.text = true → (token.gap = "" ↔ token'.gap = ""))
    (behind : Relaid token.text rest rest') :
    Relaid last (token :: rest) (token' :: rest')

instance decidableRelaid : (last : String) → (tokens tokens' : List Token) →
    Decidable (Relaid last tokens tokens')
  | _, [], [] => isTrue .nil
  | _, [], _ :: _ => isFalse nofun
  | _, _ :: _, [] => isFalse nofun
  | last, token :: rest, token' :: rest' =>
    have := decidableRelaid token.text rest rest'
    decidable_of_iff (token.sort = token'.sort ∧ token.text = token'.text ∧
      (joins last token.text = true → (token.gap = "" ↔ token'.gap = "")) ∧
      Relaid token.text rest rest')
      ⟨fun ⟨sort, text, joined, behind⟩ => .cons sort text joined behind,
        fun | .cons sort text joined behind => ⟨sort, text, joined, behind⟩⟩

theorem Relaid.length_eq {last : String} {tokens tokens' : List Token}
    (relaid : Relaid last tokens tokens') : tokens.length = tokens'.length := by
  induction relaid with
  | nil => rfl
  | cons _ _ _ _ ih => rw [List.length_cons, List.length_cons, ih]

/-- A token without the gap in front of it. -/
def Token.withoutGap (token : Token) : Token :=
  { token with gap := "" }

namespace Node

mutual

/-- A tree without the gaps between its tokens. -/
def withoutGaps : Node → Node
  | bare token => bare token.withoutGap
  | leaf kind token => leaf kind token.withoutGap
  | branch kind children => branch kind (withoutGapsOfList children)

/-- A list of trees without the gaps between their tokens. -/
def withoutGapsOfList : List Node → List Node
  | [] => []
  | node :: rest => node.withoutGaps :: withoutGapsOfList rest

end

theorem withoutGapsOfList_eq (nodes : List Node) :
    withoutGapsOfList nodes = nodes.map withoutGaps := by
  induction nodes with
  | nil => rfl
  | cons node rest ih => rw [withoutGapsOfList, ih, List.map_cons]

theorem withoutGaps_branch (kind : Kind) (children : List Node) :
    (branch kind children).withoutGaps = branch kind (children.map withoutGaps) := by
  rw [withoutGaps, withoutGapsOfList_eq]

end Node

/-! ### Where grammars look at gaps -/

/-- The text of the tokens that the terminal accepts, if it is always the same. -/
def Terminal.text? : Terminal → Option String
  | keyword text | mark text | glued text => some text
  | name _ | ofSort _ => none

/-- Whether the terminal asks for a gap only where two tokens are joined; `known` is the text of
the token before. -/
def Terminal.gluesJoins (known : Option String) : Terminal → Bool
  | glued text => known.any (joins · text)
  | _ => true

namespace Grammar

variable {σ : Type} {rules : σ → Grammar σ} {grammar : Grammar σ} {known : Option String}

/-- The text of the token that was taken last, as far as it is known, given that before. -/
def lastText : Grammar σ → Option String → Option String
  | bare terminal, _ | leaf _ terminal, _ => terminal.text?
  | rule _, _ | many _, _ => none
  | both first second, known => second.lastText (first.lastText known)
  | either first second, known =>
    if first.lastText known = second.lastText known then first.lastText known else none
  | level body, known => body.lastText known
  | _, known => known

/-- Whether a grammar looks at gaps only inside joins, given the text of the token before. In
rules and in repetitions nothing is known of it. -/
def gluesJoins : Grammar σ → Option String → Bool
  | bare terminal, known | leaf _ terminal, known => terminal.gluesJoins known
  | both first second, known =>
    first.gluesJoins known && second.gluesJoins (first.lastText known)
  | either first second, known => first.gluesJoins known && second.gluesJoins known
  | many body, _ => body.gluesJoins none
  | level body, known | ahead body, known | absent body, known => body.gluesJoins known
  | _, _ => true

/-- Two runs agree so far: their nodes are the same up to gaps, and what is left are the same
tokens, laid out anew behind the token taken last. -/
structure Agree (known : Option String) (state state' : List Node × List Token) : Prop where
  nodes : state.1.map Node.withoutGaps = state'.1.map Node.withoutGaps
  tokens : ∃ last, (∀ text ∈ known, last = text) ∧ Relaid last state.2 state'.2

namespace Agree

variable {state state' : List Node × List Token}

theorem weaken (agree : Agree known state state') {less : Option String}
    (fewer : ∀ text ∈ less, text ∈ known) : Agree less state state' := by
  obtain ⟨nodes, last, isLast, relaid⟩ := agree
  exact ⟨nodes, last, fun text member => isLast text (fewer text member), relaid⟩

theorem forget (agree : Agree known state state') : Agree none state state' :=
  agree.weaken nofun

/-- What is left does not depend on the nodes so far. -/
theorem withNodes (agree : Agree known state state') {nodes nodes' : List Node}
    (same : nodes.map Node.withoutGaps = nodes'.map Node.withoutGaps) :
    Agree known (nodes, state.2) (nodes', state'.2) :=
  ⟨same, agree.tokens⟩

theorem atStart (agree : Agree known state state') : Agree known ([], state.2) ([], state'.2) :=
  agree.withNodes rfl

end Agree

theorem lastText_either_left {first : Grammar σ} (second : Grammar σ) :
    ∀ text ∈ (either first second).lastText known, text ∈ first.lastText known := by
  intro text member
  rw [lastText] at member
  split_ifs at member
  · exact member
  · cases member

theorem lastText_either_right (first : Grammar σ) {second : Grammar σ} :
    ∀ text ∈ (either first second).lastText known, text ∈ second.lastText known := by
  intro text member
  rw [lastText] at member
  split_ifs at member with same
  · rwa [← same]
  · cases member

/-- Terminals do not tell apart tokens that are laid out anew. -/
theorem accepts_eq {terminal : Terminal} {token token' : Token} {last : String}
    (sort : token.sort = token'.sort) (text : token.text = token'.text)
    (joined : joins last token.text = true → (token.gap = "" ↔ token'.gap = ""))
    (isLast : ∀ text ∈ known, last = text) (glues : terminal.gluesJoins known = true) :
    terminal.accepts token = terminal.accepts token' := by
  cases terminal with
  | keyword | name | mark | ofSort => simp only [Terminal.accepts, sort, text]
  | glued wanted =>
    rw [Terminal.accepts, Terminal.accepts, text]
    by_cases same : token'.text = wanted
    · cases known with
      | none => cases glues
      | some before =>
        obtain rfl : last = before := isLast before rfl
        have gaps : token.gap = "" ↔ token'.gap = "" := joined (by rwa [text, same])
        rw [Bool.eq_iff_iff]
        simp [gaps]
    · have differs : (token'.text == wanted) = false := beq_eq_false_iff_ne.mpr same
      rw [differs, Bool.and_false, Bool.and_false]

theorem text_of_accepts {terminal : Terminal} {token : Token}
    (accepted : terminal.accepts token = true) : ∀ text ∈ terminal.text?, token.text = text := by
  cases terminal with
  | keyword | mark | glued =>
    rw [Terminal.accepts, Bool.and_eq_true, beq_iff_eq, beq_iff_eq] at accepted
    rintro _ ⟨⟩
    exact accepted.2
  | name | ofSort => nofun

/-- Takes one token and makes a node of it. -/
def take (terminal : Terminal) (make : Token → Node) (nodes : List Node) :
    List Token → Option (List Node × List Token)
  | [] => none
  | token :: rest => if terminal.accepts token then some (make token :: nodes, rest) else none

/-- Both runs take a token, or neither does. -/
theorem rel_take {terminal : Terminal} {nodes nodes' : List Node} {tokens tokens' : List Token}
    (make : Token → Node) (makes : ∀ token, (make token).withoutGaps = make token.withoutGap)
    (glues : terminal.gluesJoins known = true)
    (agree : Agree known (nodes, tokens) (nodes', tokens')) :
    Option.Rel (Agree terminal.text?) (take terminal make nodes tokens)
      (take terminal make nodes' tokens') := by
  obtain ⟨sameNodes, last, isLast, relaid⟩ := agree
  cases relaid with
  | nil => exact .none
  | @cons _ token token' rest rest' sort text joined behind =>
    rw [take, take, ← accepts_eq sort text joined isLast glues]
    split_ifs with accepted
    · refine .some ⟨?_, token.text, text_of_accepts accepted, behind⟩
      have sameToken : token.withoutGap = token'.withoutGap := by
        simp only [Token.withoutGap, sort, text]
      rw [List.map_cons, List.map_cons, makes, makes, sameToken]
      exact congrArg _ sameNodes
    · exact .none

theorem rel_weaken {less : Option String} {result result' : Option (List Node × List Token)}
    (rel : Option.Rel (Agree known) result result') (fewer : ∀ text ∈ less, text ∈ known) :
    Option.Rel (Agree less) result result' := by
  cases rel with
  | none => exact .none
  | some agree => exact .some (agree.weaken fewer)

theorem rel_forget {result result' : Option (List Node × List Token)}
    (rel : Option.Rel (Agree known) result result') : Option.Rel (Agree none) result result' :=
  rel_weaken rel nofun

/-- Runs take the same steps on tokens that are laid out anew. -/
theorem run_relaid (all : ∀ name, (rules name).gluesJoins none = true) {fuel : Nat}
    {nodes nodes' : List Node} {tokens tokens' : List Token}
    (glues : grammar.gluesJoins known = true)
    (agree : Agree known (nodes, tokens) (nodes', tokens')) :
    Option.Rel (Agree (grammar.lastText known)) (run rules fuel grammar nodes tokens)
      (run rules fuel grammar nodes' tokens') := by
  induction fuel generalizing grammar known nodes nodes' tokens tokens' with
  | zero => exact .none
  | succ fuel ih =>
    cases grammar with
    | done => exact .some agree
    | bare terminal => exact rel_take .bare (fun _ => rfl) glues agree
    | leaf kind terminal => exact rel_take (.leaf kind) (fun _ => rfl) glues agree
    | rule name => exact rel_forget (ih (all name) agree.forget)
    | both first second =>
      rw [gluesJoins, Bool.and_eq_true] at glues
      have one := ih glues.1 agree
      rw [run, run]
      generalize run rules fuel first nodes tokens = result at one ⊢
      generalize run rules fuel first nodes' tokens' = result' at one ⊢
      cases one with
      | none => exact .none
      | some middle => exact ih glues.2 middle
    | either first second =>
      rw [gluesJoins, Bool.and_eq_true] at glues
      have one := rel_weaken (ih glues.1 agree) (lastText_either_left second)
      have two := rel_weaken (ih glues.2 agree) (lastText_either_right first)
      rw [run, run]
      generalize run rules fuel first nodes tokens = result at one ⊢
      generalize run rules fuel first nodes' tokens' = result' at one ⊢
      cases one with
      | none => exact two
      | some same => exact .some same
    | many body =>
      -- A turn may begin behind any token, so nothing is kept of the last one.
      have turn : gluesJoins body none = true := glues
      have one := ih turn agree.forget
      rw [run, run]
      generalize run rules fuel body nodes tokens = result at one ⊢
      generalize run rules fuel body nodes' tokens' = result' at one ⊢
      cases one with
      | none => exact .some agree.forget
      | some middle =>
        have again : gluesJoins (many body) none = true := glues
        exact rel_forget (ih again middle.forget)
    | level body =>
      have within : gluesJoins body known = true := glues
      have inside := ih within agree.atStart
      rw [run, run]
      generalize run rules fuel body [] tokens = result at inside ⊢
      generalize run rules fuel body [] tokens' = result' at inside ⊢
      cases inside with
      | none => exact .none
      | some same =>
        refine .some (same.withNodes ?_)
        rw [List.map_append, List.map_append, same.nodes, agree.nodes]
    | close kind =>
      refine .some (agree.withNodes ?_)
      have sameNodes := agree.nodes
      rw [List.map_singleton, List.map_singleton, Node.withoutGaps_branch, Node.withoutGaps_branch,
        List.map_reverse, List.map_reverse, sameNodes]
    | ahead body =>
      -- Nothing is taken: it only counts that the runs agree on whether there is a match.
      have within : gluesJoins body known = true := glues
      have inside := ih within agree.atStart
      rw [run, run]
      generalize run rules fuel body [] tokens = result at inside ⊢
      generalize run rules fuel body [] tokens' = result' at inside ⊢
      cases inside with
      | none => exact .none
      | some _ => exact .some agree
    | absent body =>
      have within : gluesJoins body known = true := glues
      have inside := ih within agree.atStart
      rw [run, run]
      generalize run rules fuel body [] tokens = result at inside ⊢
      generalize run rules fuel body [] tokens' = result' at inside ⊢
      cases inside with
      | none => exact .some agree
      | some _ => exact .none

end Grammar

/-! ### The rules of the language -/

theorem gluesJoins_rules (name : Symbol) : (rules name).gluesJoins none = true := by
  cases name with
  | expression inLabel | operand inLabel => cases inLabel <;> decide +kernel
  | _ => decide +kernel

/-- A source that is laid out anew has a tree as well, the same up to gaps. -/
theorem exists_parse_of_relaid {source source' : String} {root : Node} {tokens' : List Token}
    (parsed : parse source = .ok root) (lexed' : tokenize source'.toList = .ok tokens')
    (relaid : Relaid "" root.tokens tokens') :
    ∃ root', parse source' = .ok root' ∧ root.withoutGaps = root'.withoutGaps := by
  obtain ⟨tokens, nodes, lexed, result, isRoot⟩ := parse_eq_ok_iff.mp parsed
  obtain rfl : tokens = root.tokens := Except.ok.inj (lexed.symm.trans (tokens_of_parse parsed))
  have glues : (Grammar.rule Symbol.program).gluesJoins none = true := rfl
  have start : Grammar.Agree none ([], root.tokens) ([], tokens') := ⟨rfl, "", nofun, relaid⟩
  have agree : Option.Rel (Grammar.Agree none)
      (Grammar.run rules (Grammar.fuelFor root.tokens) (.rule .program) [] root.tokens)
      (Grammar.run rules (Grammar.fuelFor root.tokens) (.rule .program) [] tokens') :=
    Grammar.run_relaid gluesJoins_rules glues start
  have fuel : Grammar.fuelFor root.tokens = Grammar.fuelFor tokens' := by
    rw [Grammar.fuelFor, Grammar.fuelFor, relaid.length_eq]
  rw [result, fuel] at agree
  generalize result' : Grammar.run rules (Grammar.fuelFor tokens') (.rule .program) [] tokens' =
    built at agree
  cases agree with
  | @some _ built same =>
    obtain ⟨nodes', rest'⟩ := built
    obtain ⟨sameNodes, last, -, behind⟩ := same
    obtain rfl : rest' = [] := by
      cases behind
      rfl
    refine ⟨.branch .program nodes'.reverse, ?_, ?_⟩
    · exact parse_eq_ok_iff.mpr ⟨tokens', nodes', lexed', result', rfl⟩
    · rw [isRoot, Node.withoutGaps_branch, Node.withoutGaps_branch, List.map_reverse,
        List.map_reverse, sameNodes]

end JavaIndex.Java
