import JavaIndex.Java.Token
import JavaIndex.Proofs.PathOrder

/-!
# Words of a source

Whatever stands around it, a token is read as a word only if it is an identifier: it starts with
a letter, `_` or `$`, and goes on as far as there are characters of identifiers. So no word has a
dot in it, and words joined by dots can be taken apart again.

## Main results

* `Java.isIdentifier_of_lexemeLength?` — a lexeme of a word is an identifier
* `Java.isIdentifier_of_tokenize` — the words of a source are identifiers
* `Text.dot_notMem_of_isIdentifier` — identifiers have no dots
* `Text.splitAll_intercalate` — pieces that were joined are found again
-/

namespace JavaIndex

theorem Text.dot_notMem_of_isIdentifier {text : String} (identifier : isIdentifier text = true) :
    '.' ∉ text.toList := by
  unfold isIdentifier at identifier
  cases chars : text.toList with
  | nil => simp
  | cons c rest =>
    simp only [chars, Bool.and_eq_true, List.all_eq_true] at identifier
    obtain ⟨starts, goesOn⟩ := identifier
    rintro (_ | ⟨_, member⟩)
    · exact absurd starts (by decide)
    · exact absurd (goesOn '.' member) (by decide)

theorem Text.ne_empty_of_isIdentifier {text : String} (identifier : isIdentifier text = true) :
    text ≠ "" := by
  rintro rfl
  cases identifier

theorem Text.splitAll_intercalate {mark : Char} {pieces : List String} (nonempty : pieces ≠ [])
    (absent : ∀ piece ∈ pieces, mark ∉ piece.toList) :
    splitAll mark ((String.singleton mark).intercalate pieces) = pieces := by
  induction pieces with
  | nil => exact absurd rfl nonempty
  | cons piece rest ih =>
    have alone : splitAll mark piece = [piece] :=
      splitAll_of_notMem (absent piece List.mem_cons_self)
    cases rest with
    | nil => rw [String.intercalate_singleton, alone]
    | cons next more =>
      rw [String.intercalate_cons_cons, splitAll_append, alone,
        ih (List.cons_ne_nil _ _) fun piece member => absent piece (List.mem_cons_of_mem _ member)]
      rfl

namespace Java

/-- What is read as a word is an identifier. -/
theorem isIdentifier_of_lexemeLength? {source : List Char} {length : Nat}
    (lexed : lexemeLength? source = some (.word, length)) :
    Text.isIdentifier (String.ofList (source.take length)) = true := by
  cases source with
  | nil => simp [lexemeLength?] at lexed
  | cons c rest =>
    simp only [lexemeLength?] at lexed
    split_ifs at lexed with starts quote text
    · -- Only here a word begins, and it takes all characters that may go on with it.
      obtain rfl : 1 + (rest.takeWhile Text.isIdentifierPart).length = length := by
        simpa using lexed
      have part : (c :: rest).take (1 + (rest.takeWhile Text.isIdentifierPart).length) =
          c :: rest.takeWhile Text.isIdentifierPart := by
        rw [Nat.add_comm, List.take_succ_cons,
          ← List.prefix_iff_eq_take.mp (List.takeWhile_prefix Text.isIdentifierPart)]
      rw [part, Text.isIdentifier, String.toList_ofList]
      simp [starts]
    · simp at lexed
    · simp only [Option.bind_eq_some_iff, Option.map_eq_some_iff, Prod.mk.injEq] at lexed
      obtain ⟨_, _, _, _, sort, -⟩ := lexed
      split at sort <;> cases sort
    · split at lexed
      · simp at lexed
      · simp at lexed

theorem isIdentifier_of_nextLexeme? {stack : List Embedding} {source : List Char} {length : Nat}
    (lexed : nextLexeme? stack source = some (.word, length)) :
    Text.isIdentifier (String.ofList (source.take length)) = true := by
  unfold nextLexeme? at lexed
  split at lexed
  · simp only [Option.map_eq_some_iff, Prod.mk.injEq] at lexed
    obtain ⟨_, _, sort, -⟩ := lexed
    split at sort <;> cases sort
  · exact isIdentifier_of_lexemeLength? lexed

theorem isIdentifier_of_readTokens {fuel : Nat} {stack : List Embedding}
    {taken tokens : List Token} {gap source : List Char}
    (read : readTokens fuel stack taken gap source = .ok tokens)
    (words : ∀ token ∈ taken, token.sort = .word → Text.isIdentifier token.text = true) :
    ∀ token ∈ tokens, token.sort = .word → Text.isIdentifier token.text = true := by
  induction fuel generalizing stack taken gap source with
  | zero => simp [readTokens] at read
  | succ fuel ih =>
    simp only [readTokens] at read
    split at read
    · obtain rfl : taken.reverse = tokens := by simpa using read
      simpa using words
    · split at read
      · cases read
      · rename_i sort length lexed
        refine ih read ?_
        rintro token (_ | ⟨_, member⟩) isWord
        · obtain rfl : sort = .word := isWord
          simpa [List.splitAt_eq] using isIdentifier_of_nextLexeme? lexed
        · exact words token member isWord

/-- The words of a source are identifiers. -/
theorem isIdentifier_of_tokenize {source : List Char} {tokens : List Token}
    (lexed : tokenize source = .ok tokens) :
    ∀ token ∈ tokens, token.sort = .word → Text.isIdentifier token.text = true := by
  unfold tokenize at lexed
  split at lexed
  · exact isIdentifier_of_readTokens lexed (by simp)
  · exact isIdentifier_of_readTokens lexed (by simp)

end Java

end JavaIndex
