/-!
Hexadecimal digits, and characters as sixteen-bit units.

A unit is four hexadecimal digits. A character above U+FFFF is a pair of units, a first half from
D800 to DBFF and a second half from DC00 to DFFF.
-/

namespace QuerySchema.Text

/-- A hexadecimal digit in lower case. -/
def hexDigit (value : Nat) : Char :=
  if value < 10 then Char.ofNat (0x30 + value) else Char.ofNat (0x57 + value)

/-- The lowest `width` hexadecimal digits of a number, most significant first. -/
def hexDigits : (width value : Nat) → List Char
  | 0, _ => []
  | width + 1, value => hexDigit (value / Nat.pow 16 width % 16) :: hexDigits width value

/-- The value of a hexadecimal digit, in either case. -/
def hexValue? (c : Char) : Option Nat :=
  if '0' ≤ c && c ≤ '9' then some (c.toNat - 0x30)
  else if 'a' ≤ c && c ≤ 'f' then some (c.toNat - 0x57)
  else if 'A' ≤ c && c ≤ 'F' then some (c.toNat - 0x37)
  else none

/-- The value of four hexadecimal digits. -/
def unit? (a b c d : Char) : Option Nat := do
  let a ← hexValue? a
  let b ← hexValue? b
  let c ← hexValue? c
  let d ← hexValue? d
  return ((a * 16 + b) * 16 + c) * 16 + d

/-- Whether a unit is the first half of a pair. -/
def isFirstHalf (n : Nat) : Bool := 0xD800 ≤ n && n < 0xDC00

/-- Whether a unit is the second half of a pair. -/
def isSecondHalf (n : Nat) : Bool := 0xDC00 ≤ n && n < 0xE000

/-- The character of a pair of units. -/
def pairChar (first second : Nat) : Char :=
  Char.ofNat (0x10000 + (first - 0xD800) * 0x400 + (second - 0xDC00))

/-- The two units of a character above U+FFFF. -/
def unitPair (c : Char) : Nat × Nat :=
  let n := c.toNat - 0x10000
  (0xD800 + n / 0x400, 0xDC00 + n % 0x400)

end QuerySchema.Text
