/-!
Blank characters: what is trimmed from the two sides of a scalar mapping and of a number.

`isBlank` is the full set, `isAsciiBlank` the part of it that counts in a text of ASCII characters
only. `strip` removes a class of characters from both ends.
-/

namespace QuerySchema.Text

/-- The blank characters: Unicode white space together with the four information separators
U+001C to U+001F. The zero-width space and the byte order mark are not blank. -/
def isBlank (c : Char) : Bool :=
  let n := c.toNat
  (0x09 ≤ n && n ≤ 0x0D) || (0x1C ≤ n && n ≤ 0x20) || n == 0x85 || n == 0xA0 || n == 0x1680 ||
    (0x2000 ≤ n && n ≤ 0x200A) || n == 0x2028 || n == 0x2029 || n == 0x202F || n == 0x205F ||
    n == 0x3000

/-- The space and the five control characters from tab to carriage return. -/
def isAsciiBlank (c : Char) : Bool :=
  let n := c.toNat
  (0x09 ≤ n && n ≤ 0x0D) || n == 0x20

/-- Drops the characters of a class from both ends. -/
def stripChars (drop : Char → Bool) (cs : List Char) : List Char :=
  ((cs.dropWhile drop).reverse.dropWhile drop).reverse

/-- A text without the blank characters at its ends. -/
def strip (s : String) : String := String.ofList (stripChars isBlank s.toList)

end QuerySchema.Text
