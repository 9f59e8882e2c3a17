import JavaIndex.Text.Word
import JavaIndex.Text.CaseFold

/-!
# Patterns

Regular expressions over characters, and the search for a match anywhere in a
text. A match is computed on sets of positions: a pattern sends the positions
where a match may start to those where it may end. Only whether there is a match
is asked, so greedy and lazy repetition mean the same.

## Main definitions

* `CharSet` — sets of characters, closed under the Boolean operations
* `Pattern` — regular expressions
* `Pattern.ends` — where matches that start at given positions may end
* `Pattern.isMatch` — whether a text has a match somewhere
-/

namespace JavaIndex

/-- A set of characters. -/
inductive CharSet where
  | range (first last : Char)
  | digit
  | word
  | blank
  | none
  | union (left right : CharSet)
  | inter (left right : CharSet)
  | compl (set : CharSet)
  /-- All case variants of the members. -/
  | anyCase (set : CharSet)
  deriving Repr

namespace CharSet

/-- The characters that differ from `c` only in case, `c` itself among them. -/
def caseVariants (c : Char) : List Char :=
  let folded := Text.foldCase c
  c :: folded :: Text.foldRuns.filterMap fun run =>
    let source := (folded.toNat : Int) - run.shift
    if (run.first : Int) ≤ source && source ≤ run.last && (source - run.first) % run.step == 0 then
      some (Char.ofNat source.toNat)
    else Option.none

/-- Membership. -/
def contains : CharSet → Char → Bool
  | range first last, c => first ≤ c && c ≤ last
  | digit, c => Text.isAnyDigit c
  | word, c => Text.isWordChar c
  | blank, c => Text.isBlank c
  | none, _ => false
  | union left right, c => left.contains c || right.contains c
  | inter left right, c => left.contains c && right.contains c
  | compl set, c => !set.contains c
  | anyCase set, c => (caseVariants c).any set.contains

/-- One character alone. -/
def single (c : Char) : CharSet := range c c

/-- The members of the first set that the second does not have. -/
def minus (left right : CharSet) : CharSet := inter left (compl right)

/-- The members of exactly one of the sets. -/
def exclusive (left right : CharSet) : CharSet := union (minus left right) (minus right left)

end CharSet

/-- Conditions on a position in a text. -/
inductive Anchor where
  | textStart
  | textEnd
  | lineStart
  | lineEnd
  | wordBoundary
  | noWordBoundary
  | wordStart
  | wordEnd
  /-- No word in front. -/
  | noWordBefore
  /-- No word behind. -/
  | noWordAfter
  deriving DecidableEq, Repr

/-- Regular expressions. -/
inductive Pattern where
  | empty
  | one (set : CharSet)
  | anchor (condition : Anchor)
  | both (first second : Pattern)
  | either (left right : Pattern)
  /-- A part with a name. -/
  | named (name : String) (body : Pattern)
  /-- At least `least` times and, where a bound is given, at most that often. -/
  | times (body : Pattern) (least : Nat) (most : Option Nat)
  deriving Repr

namespace Anchor

/-- Whether a condition holds between two characters; the ends of the text have none. -/
def holds (before after : Option Char) : Anchor → Bool
  | textStart => before.isNone
  | textEnd => after.isNone
  | lineStart => before.isNone || before == some '\n'
  | lineEnd => after.isNone || after == some '\n'
  | wordBoundary => before.any Text.isWordChar != after.any Text.isWordChar
  | noWordBoundary => before.any Text.isWordChar == after.any Text.isWordChar
  | wordStart => !before.any Text.isWordChar && after.any Text.isWordChar
  | wordEnd => before.any Text.isWordChar && !after.any Text.isWordChar
  | noWordBefore => !before.any Text.isWordChar
  | noWordAfter => !after.any Text.isWordChar

end Anchor

namespace Pattern

/-- The character in front of a position. -/
def charBefore (text : Array Char) (position : Nat) : Option Char :=
  if position = 0 then none else text[position - 1]?

/-- The positions of two sets, each once. -/
def union (left right : List Nat) : List Nat :=
  left ++ right.filter fun position => !left.contains position

/-- Applies a step so many times. -/
def iterate (step : List Nat → List Nat) : Nat → List Nat → List Nat
  | 0, positions => positions
  | count + 1, positions => iterate step count (step positions)

/-- Where matches may end that start at one of the given positions. Repeating more
often than there are positions reaches nothing new. -/
def ends (text : Array Char) : Pattern → List Nat → List Nat
  | empty, starts => starts
  | one set, starts => starts.filterMap fun position =>
    if text[position]?.any set.contains then some (position + 1) else none
  | anchor condition, starts => starts.filter fun position =>
    condition.holds (charBefore text position) text[position]?
  | both first second, starts => second.ends text (first.ends text starts)
  | either left right, starts => union (left.ends text starts) (right.ends text starts)
  | named _ body, starts => body.ends text starts
  | times body least most, starts =>
    let extra := match most with
      | some most => min (most - least) (text.size + 1)
      | none => text.size + 1
    let grow := fun positions => union positions (body.ends text positions)
    iterate grow extra (iterate (body.ends text) least starts)

/-- The names of parts, in order. -/
def names : Pattern → List String
  | both first second => first.names ++ second.names
  | either left right => left.names ++ right.names
  | named name body => name :: body.names
  | times body _ _ => body.names
  | _ => []

/-- Whether a text has a match somewhere. -/
def isMatch (pattern : Pattern) (text : String) : Bool :=
  let chars := text.toList.toArray
  !(pattern.ends chars (List.range (chars.size + 1))).isEmpty

end Pattern

end JavaIndex
