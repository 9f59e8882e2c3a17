import JavaIndex.Text.Cut

/-!
# Spellings

What a file system keeps as a name or as a path is a list of bytes. They are the
encoding of a text as a rule, but nothing sees to that. Whoever asks for the text
has to be ready for the answer that there is none; where something has to be shown
in any case, bytes that make up no character are shown as a replacement character.

## Main definitions

* `Text.bytes` — the encoding of a text
* `Spelling` — bytes, with texts among them
* `Spelling.text?` — the text that is spelled, if there is one
* `Spelling.shown` — the text to show
-/

namespace JavaIndex

/-- The bytes of a text in UTF-8. -/
def Text.bytes (text : String) : List UInt8 :=
  text.toByteArray.data.toList

/-- A name or a path as a file system keeps it. -/
abbrev Spelling := List UInt8

namespace Spelling

instance : Coe String Spelling := ⟨Text.bytes⟩

/-- The text that is spelled, if the bytes are the encoding of one. -/
def text? (spelling : Spelling) : Option String :=
  String.fromUTF8? spelling.toByteArray

/-! ### Showing what is no text -/

/-- The first byte of a longer character says how many bytes follow it, and between
which two the next one lies. -/
def followers? (first : UInt8) : Option (Nat × UInt8 × UInt8) :=
  if 0xc2 ≤ first && first ≤ 0xdf then some (1, 0x80, 0xbf)
  else if first == 0xe0 then some (2, 0xa0, 0xbf)
  else if first == 0xed then some (2, 0x80, 0x9f)
  else if 0xe1 ≤ first && first ≤ 0xef then some (2, 0x80, 0xbf)
  else if first == 0xf0 then some (3, 0x90, 0xbf)
  else if first == 0xf4 then some (3, 0x80, 0x8f)
  else if 0xf1 ≤ first && first ≤ 0xf3 then some (3, 0x80, 0xbf)
  else none

/-- How many bytes at the front are shown as one replacement character, where no
character stands: those that one could have started with. -/
def brokenLength : Spelling → Nat
  | first :: second :: rest =>
    match followers? first with
    | some (count, least, greatest) =>
      if least ≤ second && second ≤ greatest then
        let others := (rest.take (count - 1)).takeWhile fun byte => 0x80 ≤ byte && byte ≤ 0xbf
        2 + others.length
      else 1
    | none => 1
  | _ => 1

/-- The characters, with replacement characters where there is none. -/
def characters : Spelling → List Char
  | [] => []
  | first :: rest =>
    match (first :: rest).toByteArray.utf8DecodeChar? 0 with
    | some c => c :: characters (rest.drop (c.utf8Size - 1))
    | none => '\uFFFD' :: characters (rest.drop (brokenLength (first :: rest) - 1))
termination_by spelling => spelling.length
decreasing_by all_goals simp only [List.length_drop, List.length_cons]; omega

/-- The text to show. -/
def shown (spelling : Spelling) : String :=
  String.ofList spelling.characters

end Spelling

end JavaIndex
