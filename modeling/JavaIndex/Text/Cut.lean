/-!
# Cutting text at a separator

Dotted names, binary names and paths are all read by cutting at one mark: at its
first occurrence, at its last, or at every one. The cuts are defined on lists,
where they recurse on the data. Texts are cut as lists of characters, through
`String.toList`.

## Main definitions

* `Text.cutFirstIn`, `Text.cutLastIn`, `Text.splitIn` — cuts of a list
* `Text.cutFirst`, `Text.cutLast` — the parts before and after one occurrence
* `Text.splitAll` — the pieces between all occurrences
* `Text.beforeLast`, `Text.afterLast`, `Text.beforeFirst` — one side of a cut,
  with the whole text standing in where there is nothing to cut
-/

namespace JavaIndex.Text

/-! ### Lists -/

section Lists

variable {α : Type} [DecidableEq α]

/-- What stands before and after the first `mark`. -/
def cutFirstIn (mark : α) : List α → Option (List α × List α)
  | [] => none
  | head :: rest =>
    if head = mark then some ([], rest)
    else (cutFirstIn mark rest).map fun (before, after) => (head :: before, after)

/-- What stands before and after the last `mark`. -/
def cutLastIn (mark : α) : List α → Option (List α × List α)
  | [] => none
  | head :: rest =>
    match cutLastIn mark rest with
    | some (before, after) => some (head :: before, after)
    | none => if head = mark then some ([], rest) else none

/-- The pieces between the occurrences of `mark`; a list without any is one piece. -/
def splitIn (mark : α) : List α → List (List α)
  | [] => [[]]
  | head :: rest =>
    if head = mark then [] :: splitIn mark rest
    else
      match splitIn mark rest with
      | [] => [[head]]
      | piece :: pieces => (head :: piece) :: pieces

end Lists

/-! ### Strings -/

/-- The texts before and after the first `mark`, if there is one. -/
def cutFirst (mark : Char) (text : String) : Option (String × String) :=
  (cutFirstIn mark text.toList).map fun (before, after) =>
    (String.ofList before, String.ofList after)

/-- The texts before and after the last `mark`, if there is one. -/
def cutLast (mark : Char) (text : String) : Option (String × String) :=
  (cutLastIn mark text.toList).map fun (before, after) =>
    (String.ofList before, String.ofList after)

/-- The pieces between the occurrences of `mark`, in order and never none. -/
def splitAll (mark : Char) (text : String) : List String :=
  (splitIn mark text.toList).map String.ofList

/-- The text before the first `mark`, or all of it. -/
def beforeFirst (mark : Char) (text : String) : String :=
  match cutFirst mark text with
  | some (before, _) => before
  | none => text

/-- The text after the last `mark`, or all of it. -/
def afterLast (mark : Char) (text : String) : String :=
  match cutLast mark text with
  | some (_, after) => after
  | none => text

/-- The text before the last `mark`, or nothing. -/
def beforeLast (mark : Char) (text : String) : String :=
  match cutLast mark text with
  | some (before, _) => before
  | none => ""

/-- The rest of `text` once `lead` is taken off its front. -/
def dropLead (lead text : String) : Option String :=
  if lead.toList.isPrefixOf text.toList then
    some (String.ofList (text.toList.drop lead.length))
  else none

/-- Replaces every `mark` by `other`. -/
def replaceAll (mark other : Char) (text : String) : String :=
  String.ofList (text.toList.map fun c => if c = mark then other else c)

/-- Order by code points, character after character. -/
def compare (left right : String) : Ordering :=
  if left < right then .lt else if left = right then .eq else .gt

end JavaIndex.Text
