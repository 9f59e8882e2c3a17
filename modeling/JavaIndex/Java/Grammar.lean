import JavaIndex.Java.Node

/-!
# Grammars and how they are run

A grammar is a value: it says which tokens may come next and which nodes they
make up. Choices are ordered and the first alternative that matches is taken;
repetition takes as much as it can. Nodes are collected in levels. A `level`
collects the nodes of its own part apart from those before it, and `close` turns
all that the innermost level holds so far into one branch, so that a node may be
wrapped again by what follows it: after `A`, reading `.B` wraps it into a scoped
name, and reading `<X>` wraps that into a generic type.

Recursion goes through named rules. Running a grammar takes fuel, one unit for
each step down; `Grammar.parse` supplies more than a run without repetition of
nothing can use.

## Main definitions

* `Java.Terminal` — what a single token has to be
* `Java.Grammar` — the grammars over a type of rule names
* `Java.Grammar.run` — the nodes and the rest of the tokens after a match
* `Java.Grammar.parse` — the longest match of a rule
-/

namespace JavaIndex.Java

/-- What a single token has to be. -/
inductive Terminal where
  /-- A given word, used as a keyword. -/
  | keyword (text : String)
  /-- Any word but those that are keywords at this place. -/
  | name (keywords : List String)
  /-- A given operator or separator. -/
  | mark (text : String)
  /-- A given token with no gap in front. -/
  | glued (text : String)
  /-- Any token of a sort. -/
  | ofSort (sort : TokenSort)
  deriving DecidableEq, Repr

/-- Whether a token is what the terminal asks for. -/
def Terminal.accepts (terminal : Terminal) (token : Token) : Bool :=
  match terminal with
  | keyword text => token.sort == .word && token.text == text
  | name keywords => token.sort == .word && !keywords.contains token.text
  | mark text => token.sort == .mark && token.text == text
  | glued text => token.gap == "" && token.text == text
  | ofSort sort => token.sort == sort

/-- Grammars whose rules are named by `σ`. -/
inductive Grammar (σ : Type) where
  /-- Matches nothing and succeeds. -/
  | done
  /-- One token that makes a bare node. -/
  | bare (terminal : Terminal)
  /-- One token that makes a named leaf. -/
  | leaf (kind : Kind) (terminal : Terminal)
  /-- What a rule stands for. -/
  | rule (name : σ)
  /-- One after the other. -/
  | both (first second : Grammar σ)
  /-- The first that matches. -/
  | either (first second : Grammar σ)
  /-- As often as it matches. -/
  | many (body : Grammar σ)
  /-- Collects nodes apart from those before. -/
  | level (body : Grammar σ)
  /-- Makes the nodes of the innermost level one branch. -/
  | close (kind : Kind)
  /-- Succeeds on nothing if the body would match. -/
  | ahead (body : Grammar σ)
  /-- Succeeds on nothing if the body would not match. -/
  | absent (body : Grammar σ)

namespace Grammar

variable {σ : Type}

/-! ### Running -/

/-- Runs a grammar on tokens. The nodes of the innermost level so far are passed in
and handed back in reverse order. -/
def run (rules : σ → Grammar σ) :
    Nat → Grammar σ → List Node → List Token → Option (List Node × List Token)
  | 0, _, _, _ => none
  | fuel + 1, grammar, nodes, tokens =>
    match grammar with
    | done => some (nodes, tokens)
    | bare terminal =>
      match tokens with
      | [] => none
      | token :: rest =>
        if terminal.accepts token then some (Node.bare token :: nodes, rest) else none
    | leaf kind terminal =>
      match tokens with
      | [] => none
      | token :: rest =>
        if terminal.accepts token then some (Node.leaf kind token :: nodes, rest) else none
    | rule name => run rules fuel (rules name) nodes tokens
    | both first second =>
      match run rules fuel first nodes tokens with
      | none => none
      | some (nodes, tokens) => run rules fuel second nodes tokens
    | either first second =>
      match run rules fuel first nodes tokens with
      | some result => some result
      | none => run rules fuel second nodes tokens
    | many body =>
      match run rules fuel body nodes tokens with
      | none => some (nodes, tokens)
      | some (nodes, tokens) => run rules fuel (many body) nodes tokens
    | level body =>
      match run rules fuel body [] tokens with
      | none => none
      | some (inner, tokens) => some (inner ++ nodes, tokens)
    | close kind => some ([Node.branch kind nodes.reverse], tokens)
    | ahead body =>
      match run rules fuel body [] tokens with
      | none => none
      | some _ => some (nodes, tokens)
    | absent body =>
      match run rules fuel body [] tokens with
      | none => some (nodes, tokens)
      | some _ => none

/-- The steps that a run over so many tokens may take on one path: each token is
reached in a bounded number of steps down. -/
def fuelFor (tokens : List Token) : Nat :=
  1024 * (tokens.length + 1)

/-- Matches a rule at the front of the tokens: its nodes, in order, and the tokens left. -/
def parse (rules : σ → Grammar σ) (start : σ) (tokens : List Token) :
    Option (List Node × List Token) :=
  (run rules (fuelFor tokens) (rule start) [] tokens).map fun (nodes, rest) =>
    (nodes.reverse, rest)

/-! ### Building -/

/-- All of the listed grammars in a row. -/
def row : List (Grammar σ) → Grammar σ
  | [] => done
  | [last] => last
  | first :: rest => both first (row rest)

/-- The first of the listed grammars that matches; none of none. -/
def oneOf : List (Grammar σ) → Grammar σ
  | [] => absent done
  | [last] => last
  | first :: rest => either first (oneOf rest)

/-- The grammar or nothing. -/
def optional (body : Grammar σ) : Grammar σ :=
  either body done

/-- The grammar once or more often. -/
def oneOrMore (body : Grammar σ) : Grammar σ :=
  both body (many body)

/-- A part that makes one branch. -/
def node (kind : Kind) (parts : List (Grammar σ)) : Grammar σ :=
  level (both (row parts) (close kind))

/-- A keyword. -/
def word (text : String) : Grammar σ :=
  bare (.keyword text)

/-- An operator or a separator. -/
def mark (text : String) : Grammar σ :=
  bare (.mark text)

/-- A token right after the one before. -/
def glued (text : String) : Grammar σ :=
  bare (.glued text)

/-- Any of the listed words. -/
def anyWord (texts : List String) : Grammar σ :=
  oneOf (texts.map word)

/-- Any of the listed marks. -/
def anyMark (texts : List String) : Grammar σ :=
  oneOf (texts.map mark)

/-- One or more, with a mark in between. -/
def separated (separator : String) (item : Grammar σ) : Grammar σ :=
  both item (many (both (mark separator) item))

/-- Any number, with commas in between. -/
def listOf (item : Grammar σ) : Grammar σ :=
  optional (separated "," item)

end Grammar

end JavaIndex.Java
