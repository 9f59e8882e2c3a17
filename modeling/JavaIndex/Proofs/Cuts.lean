import JavaIndex.Proofs.PathOrder

/-!
# Texts and their pieces

A text is taken apart at a mark: at its first occurrence, at its last one, or at all of them.
Each cut is determined by what stands where the mark does not occur, in front of the first
mark or behind the last one, and these are the first and the last of the pieces between all
marks.

## Main definitions

* `Text.IsCutInto` — a text is made up of pieces with a mark between them

## Main results

* `Text.first_cases`, `Text.last_cases` — the two shapes that a text has for a cut
* `Text.beforeFirst_append`, `Text.cutLast_append` — a cut gives back what was put together
* `Text.beforeFirst_cases`, `Text.exists_afterLast` — what is left of a text on the other side
* `Text.head?_splitAll`, `Text.getLast?_splitAll` — the first and the last piece
* `Text.isCutInto_splitAll` — the pieces between all marks make up the text
* `Text.replaceAll_intercalate`, `Text.replaceAll_replaceAll` — one mark exchanged for another
-/

namespace JavaIndex.Text

/-! ### Lists -/

section

variable {α : Type} [DecidableEq α] {mark : α}

theorem cutFirstIn_of_notMem {list : List α} (absent : mark ∉ list) :
    cutFirstIn mark list = none := by
  induction list with
  | nil => rfl
  | cons head rest ih =>
    rw [List.mem_cons, not_or] at absent
    obtain ⟨differs, later⟩ := absent
    rw [cutFirstIn, if_neg (Ne.symm differs), ih later]
    rfl

theorem cutFirstIn_append {before : List α} (absent : mark ∉ before) (after : List α) :
    cutFirstIn mark (before ++ mark :: after) = some (before, after) := by
  induction before with
  | nil => simp [cutFirstIn]
  | cons head rest ih =>
    rw [List.mem_cons, not_or] at absent
    obtain ⟨differs, later⟩ := absent
    rw [List.cons_append, cutFirstIn, if_neg (Ne.symm differs), ih later]
    rfl

theorem cutLastIn_of_notMem {list : List α} (absent : mark ∉ list) :
    cutLastIn mark list = none := by
  induction list with
  | nil => rfl
  | cons head rest ih =>
    rw [List.mem_cons, not_or] at absent
    obtain ⟨differs, later⟩ := absent
    simp only [cutLastIn, ih later, Ne.symm differs, if_false]

theorem cutLastIn_append (before : List α) {after : List α} (absent : mark ∉ after) :
    cutLastIn mark (before ++ mark :: after) = some (before, after) := by
  induction before with
  | nil => simp [cutLastIn, cutLastIn_of_notMem absent]
  | cons head rest ih => simp [cutLastIn, ih]

/-- A list has no mark, or there is a last one. -/
theorem last_cases_in (mark : α) (list : List α) : mark ∉ list ∨
    ∃ before after, list = before ++ mark :: after ∧ mark ∉ after := by
  by_cases member : mark ∈ list
  · obtain ⟨after, before, split, absent⟩ :=
      List.eq_append_cons_of_mem (List.mem_reverse.mpr member)
    refine .inr ⟨before.reverse, after.reverse, ?_, by simpa using absent⟩
    rw [← List.reverse_inj, split]
    simp
  · exact .inl member

end

variable {mark : Char} {front last rest text : String}

/-! ### In front of the first mark -/

theorem beforeFirst_of_notMem (absent : mark ∉ text.toList) : beforeFirst mark text = text := by
  rw [beforeFirst, cutFirst, cutFirstIn_of_notMem absent]
  rfl

theorem beforeFirst_append (absent : mark ∉ front.toList) (rest : String) :
    beforeFirst mark (front ++ String.singleton mark ++ rest) = front := by
  have chars : (front ++ String.singleton mark ++ rest).toList =
      front.toList ++ mark :: rest.toList := by simp
  rw [beforeFirst, cutFirst, chars, cutFirstIn_append absent]
  exact String.ofList_toList

/-- A text has no mark, or there is a first one. -/
theorem first_cases (mark : Char) (text : String) : mark ∉ text.toList ∨
    ∃ front rest, text = front ++ String.singleton mark ++ rest ∧ mark ∉ front.toList := by
  by_cases member : mark ∈ text.toList
  · obtain ⟨before, after, split, absent⟩ := List.eq_append_cons_of_mem member
    refine .inr ⟨String.ofList before, String.ofList after, ?_, by simpa using absent⟩
    rw [← String.toList_inj]
    simp [split]
  · exact .inl member

/-- What stands in front of the first mark starts the text. -/
theorem exists_beforeFirst (mark : Char) (text : String) :
    ∃ rest, text = beforeFirst mark text ++ rest := by
  rcases first_cases mark text with absent | ⟨front, rest, rfl, absent⟩
  · exact ⟨"", by simp [beforeFirst_of_notMem absent]⟩
  · exact ⟨String.singleton mark ++ rest, by rw [beforeFirst_append absent, String.append_assoc]⟩

theorem notMem_beforeFirst (mark : Char) (text : String) :
    mark ∉ (beforeFirst mark text).toList := by
  rcases first_cases mark text with absent | ⟨front, rest, rfl, absent⟩
  · rwa [beforeFirst_of_notMem absent]
  · rwa [beforeFirst_append absent]

/-- A text goes on behind its front only if there is a mark. -/
theorem beforeFirst_cases (mark : Char) (text : String) : text = beforeFirst mark text ∨
    ∃ rest, text = beforeFirst mark text ++ String.singleton mark ++ rest := by
  rcases first_cases mark text with absent | ⟨front, rest, rfl, absent⟩
  · exact .inl (beforeFirst_of_notMem absent).symm
  · exact .inr ⟨rest, by rw [beforeFirst_append absent]⟩

/-! ### Behind the last mark -/

theorem cutLast_of_notMem (absent : mark ∉ text.toList) : cutLast mark text = none := by
  rw [cutLast, cutLastIn_of_notMem absent]
  rfl

theorem cutLast_append (front : String) (absent : mark ∉ last.toList) :
    cutLast mark (front ++ String.singleton mark ++ last) = some (front, last) := by
  have chars : (front ++ String.singleton mark ++ last).toList =
      front.toList ++ mark :: last.toList := by simp
  rw [cutLast, chars, cutLastIn_append _ absent]
  simp

/-- A text has no mark, or there is a last one. -/
theorem last_cases (mark : Char) (text : String) : mark ∉ text.toList ∨
    ∃ front last, text = front ++ String.singleton mark ++ last ∧ mark ∉ last.toList := by
  rcases last_cases_in mark text.toList with absent | ⟨before, after, split, absent⟩
  · exact .inl absent
  · refine .inr ⟨String.ofList before, String.ofList after, ?_, by simpa using absent⟩
    rw [← String.toList_inj]
    simp [split]

theorem afterLast_of_notMem (absent : mark ∉ text.toList) : afterLast mark text = text := by
  rw [afterLast, cutLast_of_notMem absent]

theorem afterLast_append (front : String) (absent : mark ∉ last.toList) :
    afterLast mark (front ++ String.singleton mark ++ last) = last := by
  rw [afterLast, cutLast_append front absent]

theorem beforeLast_append (front : String) (absent : mark ∉ last.toList) :
    beforeLast mark (front ++ String.singleton mark ++ last) = front := by
  rw [beforeLast, cutLast_append front absent]

theorem beforeLast_of_notMem (absent : mark ∉ text.toList) : beforeLast mark text = "" := by
  rw [beforeLast, cutLast_of_notMem absent]

theorem notMem_afterLast (mark : Char) (text : String) :
    mark ∉ (afterLast mark text).toList := by
  rcases last_cases mark text with absent | ⟨front, last, rfl, absent⟩
  · rwa [afterLast_of_notMem absent]
  · rwa [afterLast_append front absent]

/-- What stands behind the last mark ends the text, and nothing but a mark is right before it. -/
theorem exists_afterLast (mark : Char) (text : String) :
    ∃ front, text = front ++ afterLast mark text ∧ ∀ c ∈ front.toList.getLast?, c = mark := by
  rcases last_cases mark text with absent | ⟨front, last, rfl, absent⟩
  · exact ⟨"", by simp [afterLast_of_notMem absent], by simp⟩
  · exact ⟨front ++ String.singleton mark, by rw [afterLast_append front absent],
      by simp [eq_comm]⟩

/-! ### The first and the last piece -/

theorem head?_splitAll (mark : Char) (text : String) :
    (splitAll mark text).head? = some (beforeFirst mark text) := by
  rcases first_cases mark text with absent | ⟨front, rest, rfl, absent⟩
  · rw [splitAll_of_notMem absent, beforeFirst_of_notMem absent, List.head?_cons]
  · rw [splitAll_append, splitAll_of_notMem absent, beforeFirst_append absent]
    rfl

theorem getLast?_splitAll (mark : Char) (text : String) :
    (splitAll mark text).getLast? = some (afterLast mark text) := by
  rcases last_cases mark text with absent | ⟨front, last, rfl, absent⟩
  · rw [splitAll_of_notMem absent, afterLast_of_notMem absent, List.getLast?_singleton]
  · rw [splitAll_append, splitAll_of_notMem absent, afterLast_append front absent,
      List.getLast?_concat]

/-! ### All the pieces -/

/-- The text is the pieces with a mark between them, and there are no marks in the pieces. -/
structure IsCutInto (mark : Char) (text : String) (pieces : List String) : Prop where
  nonempty : pieces ≠ []
  unmarked : ∀ piece ∈ pieces, mark ∉ piece.toList
  joined : (String.singleton mark).intercalate pieces = text

theorem isCutInto_splitAll (mark : Char) (text : String) :
    IsCutInto mark text (splitAll mark text) := by
  rcases first_cases mark text with absent | ⟨front, rest, spelled, absent⟩
  · rw [splitAll_of_notMem absent]
    exact ⟨by simp, by simpa using absent, String.intercalate_singleton⟩
  · have shorter : rest.length < text.length := by
      rw [spelled, String.length_append, String.length_append, String.length_singleton]
      omega
    have others := isCutInto_splitAll mark rest
    rw [spelled, splitAll_append, splitAll_of_notMem absent, List.singleton_append]
    refine ⟨List.cons_ne_nil _ _, ?_, ?_⟩
    · rintro piece (_ | ⟨_, later⟩)
      · exact absent
      · exact others.unmarked piece later
    · rw [String.intercalate_cons_of_ne_nil others.nonempty, others.joined]
termination_by text.length

theorem mem_toList_intercalate {separator piece : String} {pieces : List String} {c : Char}
    (member : piece ∈ pieces) (inside : c ∈ piece.toList) :
    c ∈ (separator.intercalate pieces).toList := by
  induction pieces with
  | nil => cases member
  | cons head rest ih =>
    by_cases last : rest = []
    · obtain rfl : piece = head := by simpa [last] using member
      rwa [last, String.intercalate_singleton]
    · rw [String.intercalate_cons_of_ne_nil last, String.toList_append, String.toList_append,
        List.mem_append, List.mem_append]
      rcases List.mem_cons.mp member with rfl | later
      · exact .inl (.inl inside)
      · exact .inr (ih later)

theorem IsCutInto.mem_toList {pieces : List String} {piece : String} {c : Char}
    (cut : IsCutInto mark text pieces) (member : piece ∈ pieces) (inside : c ∈ piece.toList) :
    c ∈ text.toList := by
  rw [← cut.joined]
  exact mem_toList_intercalate member inside

/-! ### Replacing a mark -/

theorem replaceAll_append (mark other : Char) (front rest : String) :
    replaceAll mark other (front ++ rest) =
      replaceAll mark other front ++ replaceAll mark other rest := by
  simp [replaceAll]

theorem replaceAll_of_notMem {other : Char} (absent : mark ∉ text.toList) :
    replaceAll mark other text = text := by
  have kept : text.toList.map (fun c => if c = mark then other else c) = text.toList := by
    refine (List.map_congr_left fun c member => ?_).trans (List.map_id _)
    exact if_neg fun same : c = mark => absent (same ▸ member)
  rw [replaceAll, kept, String.ofList_toList]

/-- Replacing a mark joins the pieces anew. -/
theorem replaceAll_intercalate {other : Char} {pieces : List String}
    (unmarked : ∀ piece ∈ pieces, mark ∉ piece.toList) :
    replaceAll mark other ((String.singleton mark).intercalate pieces) =
      (String.singleton other).intercalate pieces := by
  have exchanged : replaceAll mark other (String.singleton mark) = String.singleton other := by
    simp [replaceAll]
  induction pieces with
  | nil => rfl
  | cons piece rest ih =>
    obtain ⟨here, later⟩ := List.forall_mem_cons.mp unmarked
    by_cases last : rest = []
    · rw [last, String.intercalate_singleton, String.intercalate_singleton,
        replaceAll_of_notMem here]
    · rw [String.intercalate_cons_of_ne_nil last, String.intercalate_cons_of_ne_nil last,
        replaceAll_append, replaceAll_append, replaceAll_of_notMem here, exchanged, ih later]

/-- A mark that took the place of another one gives it back, unless it occurred before. -/
theorem replaceAll_replaceAll {other : Char} (absent : other ∉ text.toList) :
    replaceAll other mark (replaceAll mark other text) = text := by
  have restored : (text.toList.map fun c => if c = mark then other else c).map
      (fun c => if c = other then mark else c) = text.toList.map id := by
    rw [List.map_map]
    refine List.map_congr_left fun c member => ?_
    have differs : c ≠ other := fun same => absent (same ▸ member)
    by_cases marked : c = mark
    · simp [marked]
    · simp [marked, differs]
  rw [replaceAll, replaceAll, String.toList_ofList, restored, List.map_id, String.ofList_toList]

end JavaIndex.Text
