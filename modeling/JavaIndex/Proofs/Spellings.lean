import JavaIndex.Spelling
import Mathlib.Data.String.Basic

/-!
# Texts among spellings

A text is told apart from every other by its bytes, and a spelling is read as the text
whose bytes it is. Characters with a single byte are found in a text wherever that byte
is: no longer character has it among its own.

## Main results

* `Text.bytes_inj` — a text and its bytes determine each other
* `Text.toUInt8_mem_bytes_iff` — a byte that is a character
* `Spelling.text?_eq_some_iff` — which spellings are read as a text
* `Spelling.shown_bytes` — a text is shown as it is
-/

namespace JavaIndex

namespace Text

theorem bytes_eq_flatMap (text : String) :
    bytes text = text.toList.flatMap String.utf8EncodeChar := by
  rw [bytes, ← String.utf8Encode_toList, List.utf8Encode, List.data_toByteArray]

@[simp] theorem bytes_append (front rest : String) :
    bytes (front ++ rest) = bytes front ++ bytes rest := by
  simp [bytes_eq_flatMap]

theorem toByteArray_bytes (text : String) : (bytes text).toByteArray = text.toByteArray := by
  apply ByteArray.ext
  rw [List.data_toByteArray, bytes]

@[simp] theorem bytes_inj {left right : String} : bytes left = bytes right ↔ left = right := by
  constructor
  · intro same
    rw [← String.toByteArray_inj, ← toByteArray_bytes, same, toByteArray_bytes]
  · rintro rfl
    rfl

@[simp] theorem bytes_eq_nil_iff {text : String} : bytes text = [] ↔ text = "" :=
  @bytes_inj text ""

/-! ### Characters of one byte -/

/-- A byte below 128 is a character by itself and part of no other. -/
theorem toUInt8_mem_utf8EncodeChar_iff {mark c : Char} (single : mark.toNat < 128) :
    mark.toUInt8 ∈ String.utf8EncodeChar c ↔ mark = c := by
  have value : mark.toUInt8.toNat = mark.toNat := by
    rw [Char.toUInt8, UInt32.toNat_toUInt8]
    exact Nat.mod_eq_of_lt (Nat.lt_trans single (by decide))
  have same : mark = c ↔ mark.toNat = c.toNat := Char.toNat_inj.symm
  rw [same]
  simp only [String.utf8EncodeChar, Char.toNat] at single value ⊢
  split_ifs <;> simp only [List.mem_cons, List.not_mem_nil, or_false, ← UInt8.toNat_inj, value,
    UInt8.toNat_ofNat'] <;> omega

theorem toUInt8_mem_bytes_iff {mark : Char} (single : mark.toNat < 128) {text : String} :
    mark.toUInt8 ∈ bytes text ↔ mark ∈ text.toList := by
  simp [bytes_eq_flatMap, toUInt8_mem_utf8EncodeChar_iff single]

end Text

namespace Spelling

/-! ### Reading -/

@[simp] theorem text?_bytes (text : String) : text? (Text.bytes text) = some text := by
  rw [text?, Text.toByteArray_bytes, String.fromUTF8?, dif_pos text.isValidUTF8]
  rfl

/-- The spellings that are read as a text are its bytes. -/
theorem text?_eq_some_iff {spelling : Spelling} {text : String} :
    spelling.text? = some text ↔ spelling = Text.bytes text := by
  constructor
  · intro read
    unfold text? String.fromUTF8? at read
    split at read
    · rw [Option.some_inj] at read
      subst read
      simp [Text.bytes, String.fromUTF8]
    · cases read
  · rintro rfl
    exact text?_bytes text

/-! ### Showing -/

theorem characters_flatMap (chars : List Char) :
    characters (chars.flatMap String.utf8EncodeChar) = chars := by
  induction chars with
  | nil => rw [List.flatMap_nil, characters]
  | cons c chars ih =>
    obtain ⟨first, others, encoded⟩ :=
      List.exists_cons_of_ne_nil (String.utf8EncodeChar_ne_nil (c := c))
    have decoded :
        (first :: (others ++ chars.flatMap String.utf8EncodeChar)).toByteArray.utf8DecodeChar? 0 =
          some c := by
      have front := List.utf8DecodeChar?_utf8Encode_cons (l := chars) (c := c)
      rwa [List.utf8Encode, List.flatMap_cons, encoded] at front
    have others_length : others.length = c.utf8Size - 1 := by
      rw [← String.length_utf8EncodeChar, encoded]
      simp
    rw [List.flatMap_cons, encoded, List.cons_append, characters, decoded]
    simp only [← others_length, List.drop_left, ih]

/-- A text is shown as it is. -/
@[simp] theorem shown_bytes (text : String) : shown (Text.bytes text) = text := by
  rw [shown, Text.bytes_eq_flatMap, characters_flatMap, String.ofList_toList]

example : shown [0x48, 0xff, 0xc3, 0xa9, 0xf0, 0x90, 0x80, 0x57] = "H\uFFFDé\uFFFDW" := by
  decide +kernel

end Spelling

end JavaIndex
