/-!
# Quoted text

Settings and exclusion patterns are shown between double quotes. A quote, a
backslash and the invisible characters are escaped; letters of every script
stand as they are.
-/

namespace JavaIndex.Text

/-- The hexadecimal digits of a code point, in lower case and without leading zeros. -/
def hexDigits (code : Nat) : List Char :=
  Nat.toDigits 16 code

/-- Marks that combine with the character before them. -/
def isCombining (c : Char) : Bool :=
  let n := c.toNat
  (0x300 ≤ n && n ≤ 0x36f) || (0x483 ≤ n && n ≤ 0x489) || (0x1ab0 ≤ n && n ≤ 0x1aff) ||
    (0x1dc0 ≤ n && n ≤ 0x1dff) || (0x20d0 ≤ n && n ≤ 0x20f0) || (0xfe00 ≤ n && n ≤ 0xfe0f) ||
    (0xfe20 ≤ n && n ≤ 0xfe2f)

/-- Code points that are shown by number: controls, separators other than the
blank, format characters and private use. -/
def isInvisible (c : Char) : Bool :=
  let n := c.toNat
  n < 0x20 || (0x7f ≤ n && n < 0xa1) || n = 0xad ||
    (0x600 ≤ n && n ≤ 0x605) || n = 0x61c || n = 0x6dd || n = 0x70f || n = 0x180e ||
    n = 0x1680 || (0x2000 ≤ n && n ≤ 0x200f) || (0x2028 ≤ n && n ≤ 0x202f) ||
    (0x205f ≤ n && n ≤ 0x206f) || n = 0x3000 || (0xe000 ≤ n && n ≤ 0xf8ff) ||
    n = 0xfeff || (0xfff0 ≤ n && n ≤ 0xfffb) || n = 0xfffe || n = 0xffff || 0xe0000 ≤ n

/-- How one character is written between double quotes. -/
def quoteChar (c : Char) : List Char :=
  if c = '"' then ['\\', '"']
  else if c = '\\' then ['\\', '\\']
  else if c = '\n' then ['\\', 'n']
  else if c = '\r' then ['\\', 'r']
  else if c = '\t' then ['\\', 't']
  else if c.toNat = 0 then ['\\', '0']
  else if isInvisible c || isCombining c then
    ['\\', 'u', '\x7b'] ++ hexDigits c.toNat ++ ['\x7d']
  else [c]

/-- The text between double quotes, with escapes. -/
def quoted (text : String) : String :=
  String.ofList ('"' :: text.toList.flatMap quoteChar ++ ['"'])

/-- A bracketed list of quoted texts. -/
def quotedList (texts : List String) : String :=
  "[" ++ ", ".intercalate (texts.map quoted) ++ "]"

end JavaIndex.Text
