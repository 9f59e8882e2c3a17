import JavaIndex.Proofs.Spellings

/-!
# Byte order

Texts are compared by code points, their encodings byte after byte. In UTF-8 the two orders are
one: the first byte of a character tells how many others follow and grows with that number, and
among characters with equally many bytes each byte holds the next six bits of the code point,
the highest first. So the larger of two characters has the larger byte where their encodings
first differ.

## Main definitions

* `Text.encodeNumber` — a first byte and a number of bytes with six bits each
* `Text.KeepsOrder` — a smaller number has the smaller encoding, whatever stands behind

## Main results

* `Text.keepsOrder_encodeNumber` — numbers with equally many bytes
* `Text.utf8EncodeChar_append_lt` — characters
* `Text.lt_iff_bytes_lt` — texts
-/

namespace JavaIndex.Text

/-! ### Numbers -/

/-- A number in a first byte that starts from `lead`, with `count` bytes behind it for the last
six bits each. -/
def encodeNumber (lead : Nat) : Nat → Nat → List UInt8
  | 0, number => [UInt8.ofNat (number + lead)]
  | count + 1, number =>
    encodeNumber lead count (number / 64) ++ [UInt8.ofNat (number % 64 + 128)]

theorem encodeNumber_eq_cons (lead count number : Nat) :
    ∃ others, encodeNumber lead count number =
      UInt8.ofNat (number / 64 ^ count + lead) :: others := by
  induction count generalizing number with
  | zero => exact ⟨[], by simp [encodeNumber]⟩
  | succ count ih =>
    obtain ⟨others, front⟩ := ih (number / 64)
    refine ⟨others ++ [UInt8.ofNat (number % 64 + 128)], ?_⟩
    rw [encodeNumber, front, Nat.div_div_eq_div_mul, ← Nat.pow_succ', List.cons_append]

/-- Of two numbers below a bound the smaller one has the smaller bytes, whatever stands behind
them. -/
def KeepsOrder (bound : Nat) (encode : Nat → List UInt8) : Prop :=
  ∀ ⦃small large⦄, small < large → large < bound → ∀ behind behind' : List UInt8,
    encode small ++ behind < encode large ++ behind'

theorem ofNat_lt_ofNat {small large : Nat} (less : small < large) (bounded : large < 256) :
    UInt8.ofNat small < UInt8.ofNat large :=
  (UInt8.ofNat_lt_iff_lt (Nat.lt_trans less bounded) bounded).mpr less

theorem KeepsOrder.snoc {bound : Nat} {encode : Nat → List UInt8}
    (keeps : KeepsOrder bound encode) :
    KeepsOrder (bound * 64) fun number =>
      encode (number / 64) ++ [UInt8.ofNat (number % 64 + 128)] := by
  intro small large less inside behind behind'
  simp only [List.append_assoc]
  have ordered : small / 64 ≤ large / 64 := by omega
  rcases Nat.eq_or_lt_of_le ordered with same | sooner
  · rw [same]
    exact List.append_left_lt (.rel (ofNat_lt_ofNat (by omega) (by omega)))
  · exact keeps sooner (by omega) _ _

theorem keepsOrder_encodeNumber {lead width : Nat} (fits : width + lead ≤ 256) (count : Nat) :
    KeepsOrder (width * 64 ^ count) (encodeNumber lead count) := by
  induction count with
  | zero =>
    intro small large less inside behind behind'
    exact .rel (ofNat_lt_ofNat (by omega) (by omega))
  | succ count ih =>
    rw [Nat.pow_succ, ← Nat.mul_assoc]
    exact ih.snoc

/-! ### Characters -/

/-- How many bytes stand behind the first byte of a code point. -/
def followers (code : Nat) : Nat :=
  if code ≤ 0x7f then 0 else if code ≤ 0x7ff then 1 else if code ≤ 0xffff then 2 else 3

/-- Where the first bytes start that have this number of bytes behind them. -/
def leadOf : Nat → Nat
  | 0 => 0
  | 1 => 0xc0
  | 2 => 0xe0
  | _ => 0xf0

theorem toNat_lt (c : Char) : c.toNat < 0x110000 := by
  rcases c.valid with low | ⟨-, high⟩
  · exact Nat.lt_trans low (by decide)
  · exact high

theorem utf8EncodeChar_eq (c : Char) :
    String.utf8EncodeChar c =
      encodeNumber (leadOf (followers c.toNat)) (followers c.toNat) c.toNat := by
  have bounded := toNat_lt c
  simp only [String.utf8EncodeChar, followers, Char.toNat] at bounded ⊢
  split_ifs
  · rfl
  · have first : c.val.toNat / 64 % 32 = c.val.toNat / 64 := by omega
    rw [first]
    rfl
  · have first : c.val.toNat / 4096 % 16 = c.val.toNat / 64 / 64 := by omega
    rw [first]
    rfl
  · have first : c.val.toNat / 262144 % 8 = c.val.toNat / 64 / 64 / 64 := by omega
    have second : c.val.toNat / 4096 = c.val.toNat / 64 / 64 := by omega
    rw [first, second]
    rfl

/-- Two code points have equally many bytes, or the smaller one has the smaller first byte. -/
theorem followers_eq_or_first_lt {small large : Nat} (less : small < large) :
    followers small = followers large ∨
      small / 64 ^ followers small + leadOf (followers small) <
        large / 64 ^ followers large + leadOf (followers large) := by
  -- The first bytes with one number of followers end where those with the next number start.
  unfold followers
  split_ifs <;> simp [leadOf] <;> omega

/-- What the followers of a code point leave for its first byte fits there above the lead. -/
theorem exists_width {code : Nat} (bounded : code < 0x110000) :
    ∃ width, width + leadOf (followers code) ≤ 256 ∧ code < width * 64 ^ followers code := by
  unfold followers
  split_ifs
  · exact ⟨128, by decide, by omega⟩
  · exact ⟨32, by decide, by omega⟩
  · exact ⟨16, by decide, by omega⟩
  · exact ⟨8, by decide, by omega⟩

/-- The smaller of two characters has the smaller bytes, whatever stands behind them. -/
theorem utf8EncodeChar_append_lt {left right : Char} (less : left < right)
    (behind behind' : List UInt8) :
    String.utf8EncodeChar left ++ behind < String.utf8EncodeChar right ++ behind' := by
  have codes : left.toNat < right.toNat := less
  obtain ⟨width, fits, inside⟩ := exists_width (toNat_lt right)
  rw [utf8EncodeChar_eq, utf8EncodeChar_eq]
  rcases followers_eq_or_first_lt codes with same | first
  · rw [same]
    exact keepsOrder_encodeNumber fits _ codes inside behind behind'
  · obtain ⟨others, front⟩ := encodeNumber_eq_cons (leadOf (followers left.toNat))
      (followers left.toNat) left.toNat
    obtain ⟨others', front'⟩ := encodeNumber_eq_cons (leadOf (followers right.toNat))
      (followers right.toNat) right.toNat
    have quotient : right.toNat / 64 ^ followers right.toNat < width :=
      Nat.div_lt_of_lt_mul (Nat.mul_comm width _ ▸ inside)
    rw [front, front']
    exact .rel (ofNat_lt_ofNat first (by omega))

/-! ### Texts -/

theorem flatMap_utf8EncodeChar_lt {left right : List Char} (less : left < right) :
    left.flatMap String.utf8EncodeChar < right.flatMap String.utf8EncodeChar := by
  induction less with
  | @nil c rest =>
    obtain ⟨byte, others, encoded⟩ :=
      List.exists_cons_of_ne_nil (String.utf8EncodeChar_ne_nil (c := c))
    rw [List.flatMap_cons, encoded]
    exact .nil
  | cons less ih => exact List.append_left_lt ih
  | rel less => exact utf8EncodeChar_append_lt less _ _

/-- The order of texts is the order of their bytes. -/
theorem lt_iff_bytes_lt {left right : String} : left < right ↔ bytes left < bytes right := by
  have forward {left right : String} (less : left < right) : bytes left < bytes right := by
    rw [bytes_eq_flatMap, bytes_eq_flatMap]
    exact flatMap_utf8EncodeChar_lt (String.lt_iff_toList_lt.mp less)
  -- Different texts are comparable, and bytes cannot be smaller both ways.
  refine ⟨forward, fun less => ?_⟩
  rcases lt_trichotomy left right with sooner | rfl | later
  · exact sooner
  · exact absurd less (List.lt_irrefl _)
  · exact absurd less (List.lt_asymm (forward later))

end JavaIndex.Text
