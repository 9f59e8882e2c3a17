import JavaIndex.Java.Language

/-!
# What a match may build

A run of a grammar chooses between alternatives by trying them. What it builds in the end
depends only on the alternatives that it took, and these are told by a relation without the
trying: a match of a grammar takes some nodes of a level and a rest of tokens to other nodes
and a shorter rest. What every match keeps is then proved rule by rule.

A match loses no token: those that it takes away from the rest stand, in order, below the nodes
that it builds. A tree therefore has the tokens of its source.

## Main definitions

* `Java.Grammar.Matches` — a grammar may take these nodes and tokens to those

## Main results

* `Java.Grammar.matches_of_run` — a run is a match
* `Java.Grammar.Matches.tokens_eq` — a match keeps all tokens in order
* `Java.parse_eq_ok_iff`, `Java.parse_eq_ok` — what a tree of a source comes from
* `Java.tokens_of_parse` — the tokens of a tree are those of its source
-/

namespace JavaIndex.Java

/-! ### Tokens of lists of trees -/

namespace Node

theorem tokensOfList_append (left right : List Node) :
    tokensOfList (left ++ right) = tokensOfList left ++ tokensOfList right := by
  induction left with
  | nil => rfl
  | cons node rest ih => rw [List.cons_append, tokensOfList, tokensOfList, ih, List.append_assoc]

theorem mem_tokensOfList {token : Token} {nodes : List Node} :
    token ∈ tokensOfList nodes ↔ ∃ node ∈ nodes, token ∈ node.tokens := by
  induction nodes with
  | nil => simp [tokensOfList]
  | cons node rest ih => simp [tokensOfList, ih]

end Node

namespace Grammar

variable {σ : Type} {rules : σ → Grammar σ}

/-! ### Matches -/

/-- A grammar may take the nodes of a level, the last one first, and the tokens left to other
nodes and tokens. Nothing is said about alternatives that were tried before, so a match need
not be the one that a run takes. -/
inductive Matches (rules : σ → Grammar σ) :
    Grammar σ → List Node → List Token → List Node → List Token → Prop
  | done {nodes tokens} : Matches rules .done nodes tokens nodes tokens
  | bare {terminal token nodes rest} (accepted : Terminal.accepts terminal token = true) :
    Matches rules (.bare terminal) nodes (token :: rest) (.bare token :: nodes) rest
  | leaf {kind terminal token nodes rest} (accepted : Terminal.accepts terminal token = true) :
    Matches rules (.leaf kind terminal) nodes (token :: rest) (.leaf kind token :: nodes) rest
  | rule {name nodes tokens nodes' rest}
    (body : Matches rules (rules name) nodes tokens nodes' rest) :
    Matches rules (.rule name) nodes tokens nodes' rest
  | both {first second nodes tokens middle between nodes' rest}
    (one : Matches rules first nodes tokens middle between)
    (two : Matches rules second middle between nodes' rest) :
    Matches rules (.both first second) nodes tokens nodes' rest
  | first {first second nodes tokens nodes' rest}
    (one : Matches rules first nodes tokens nodes' rest) :
    Matches rules (.either first second) nodes tokens nodes' rest
  | second {first second nodes tokens nodes' rest}
    (two : Matches rules second nodes tokens nodes' rest) :
    Matches rules (.either first second) nodes tokens nodes' rest
  | stop {body nodes tokens} : Matches rules (.many body) nodes tokens nodes tokens
  | more {body nodes tokens middle between nodes' rest}
    (one : Matches rules body nodes tokens middle between)
    (further : Matches rules (.many body) middle between nodes' rest) :
    Matches rules (.many body) nodes tokens nodes' rest
  | level {body nodes tokens inner rest} (inside : Matches rules body [] tokens inner rest) :
    Matches rules (.level body) nodes tokens (inner ++ nodes) rest
  | close {kind nodes tokens} :
    Matches rules (.close kind) nodes tokens [.branch kind nodes.reverse] tokens
  | ahead {body nodes tokens} : Matches rules (.ahead body) nodes tokens nodes tokens
  | absent {body nodes tokens} : Matches rules (.absent body) nodes tokens nodes tokens

/-- What a run builds is a match. -/
theorem matches_of_run {fuel : Nat} {grammar : Grammar σ} {nodes nodes' : List Node}
    {tokens rest : List Token}
    (result : run rules fuel grammar nodes tokens = some (nodes', rest)) :
    Matches rules grammar nodes tokens nodes' rest := by
  induction fuel generalizing grammar nodes nodes' tokens rest with
  | zero => simp [run] at result
  | succ fuel ih =>
    cases grammar with
    | done =>
      obtain ⟨rfl, rfl⟩ : nodes = nodes' ∧ tokens = rest := by simpa [run] using result
      exact .done
    | bare terminal =>
      cases tokens with
      | nil => simp [run] at result
      | cons token tokens =>
        obtain ⟨accepted, rfl, rfl⟩ :
            terminal.accepts token = true ∧ .bare token :: nodes = nodes' ∧ tokens = rest := by
          simpa [run] using result
        exact .bare accepted
    | leaf kind terminal =>
      cases tokens with
      | nil => simp [run] at result
      | cons token tokens =>
        obtain ⟨accepted, rfl, rfl⟩ :
            terminal.accepts token = true ∧ .leaf kind token :: nodes = nodes' ∧ tokens = rest := by
          simpa [run] using result
        exact .leaf accepted
    | rule name => exact .rule (ih (by simpa [run] using result))
    | both first second =>
      rw [run] at result
      split at result
      · cases result
      · rename_i one
        exact .both (ih one) (ih result)
    | either first second =>
      rw [run] at result
      split at result
      · rename_i one
        exact .first (ih (one.trans result))
      · exact .second (ih result)
    | many body =>
      rw [run] at result
      split at result
      · obtain ⟨rfl, rfl⟩ : nodes = nodes' ∧ tokens = rest := by simpa using result
        exact .stop
      · rename_i one
        exact .more (ih one) (ih result)
    | level body =>
      rw [run] at result
      split at result
      · cases result
      · rename_i inside
        obtain ⟨rfl, rfl⟩ := Prod.mk.inj (Option.some.inj result)
        exact .level (ih inside)
    | close kind =>
      obtain ⟨rfl, rfl⟩ : [.branch kind nodes.reverse] = nodes' ∧ tokens = rest := by
        simpa [run] using result
      exact .close
    | ahead body =>
      rw [run] at result
      split at result
      · cases result
      · obtain ⟨rfl, rfl⟩ := Prod.mk.inj (Option.some.inj result)
        exact .ahead
    | absent body =>
      rw [run] at result
      split at result
      · obtain ⟨rfl, rfl⟩ := Prod.mk.inj (Option.some.inj result)
        exact .absent
      · cases result

/-- The tokens below the nodes and the tokens left are together the same before and after. -/
theorem Matches.tokens_eq {grammar : Grammar σ} {nodes nodes' : List Node}
    {tokens rest : List Token} (matched : Matches rules grammar nodes tokens nodes' rest) :
    Node.tokensOfList nodes'.reverse ++ rest = Node.tokensOfList nodes.reverse ++ tokens := by
  induction matched with
  | done | stop | ahead | absent => rfl
  | bare | leaf =>
    simp [Node.tokensOfList_append, Node.tokensOfList, Node.tokens]
  | rule _ ih | first _ ih | second _ ih => exact ih
  | both _ _ one two | more _ _ one two => exact two.trans one
  | level _ ih =>
    -- The tokens of the level itself stand behind those of the nodes before it.
    rw [List.reverse_append, Node.tokensOfList_append, List.append_assoc, ih]
    rfl
  | close => simp [Node.tokensOfList, Node.tokens]

end Grammar

/-! ### Sources -/

/-- A source has a tree if it consists of tokens and a run of the rule for files takes all of
them. -/
theorem parse_eq_ok_iff {source : String} {root : Node} : parse source = .ok root ↔
    ∃ tokens nodes, tokenize source.toList = .ok tokens ∧
      Grammar.run rules (Grammar.fuelFor tokens) (.rule .program) [] tokens = some (nodes, []) ∧
      root = .branch .program nodes.reverse := by
  unfold parse
  cases lexed : tokenize source.toList with
  | error unread => simp [lexed]
  | ok tokens =>
    unfold parseTokens Grammar.parse
    cases result : Grammar.run rules (Grammar.fuelFor tokens) (.rule .program) [] tokens with
    | none => simp [lexed, result]
    | some built =>
      obtain ⟨nodes, rest⟩ := built
      cases rest with
      | nil => simp [lexed, result, eq_comm]
      | cons token rest => simp [lexed, result]

theorem parse_eq_ok {source : String} {root : Node} (parsed : parse source = .ok root) :
    ∃ tokens nodes, tokenize source.toList = .ok tokens ∧ root = .branch .program nodes.reverse ∧
      Grammar.Matches rules (.rule .program) [] tokens nodes [] := by
  obtain ⟨tokens, nodes, lexed, result, isRoot⟩ := parse_eq_ok_iff.mp parsed
  exact ⟨tokens, nodes, lexed, isRoot, Grammar.matches_of_run result⟩

/-- The tokens of a tree are those of its source. -/
theorem tokens_of_parse {source : String} {root : Node} (parsed : parse source = .ok root) :
    tokenize source.toList = .ok root.tokens := by
  obtain ⟨tokens, nodes, lexed, rfl, matched⟩ := parse_eq_ok parsed
  have kept := matched.tokens_eq
  rw [List.append_nil, List.reverse_nil, Node.tokensOfList, List.nil_append] at kept
  rw [lexed, Node.tokens, kept]

end JavaIndex.Java
