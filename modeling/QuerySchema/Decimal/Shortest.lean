import QuerySchema.Decimal.Binary64

/-!
The shortest decimal of a binary64 number, and how it is written.

The digits are the fewest that read back to the number; among those of that length the decimal
nearest to it is taken, a tie going to the even one. `shortest` looks at the two neighbours of the
number on the grid of one digit, of two digits, and so on, and keeps a neighbour only if reading it
gives the number again. A number with an exponent from -4 to 15 is written with a point and at
least one decimal place, any other with a signed exponent of at least two digits.
-/

namespace QuerySchema.Decimal

/-- The digits of a number in base ten, most significant first. -/
def decimalDigits (n : Nat) : List Char := Nat.toDigits 10 n

namespace Scientific

/-- Moves trailing zeros of the digits into the exponent, at most `fuel` of them. -/
def dropZeros : (fuel : Nat) → Scientific → Scientific
  | 0, d => d
  | fuel + 1, d =>
    if d.digits ≠ 0 ∧ d.digits % 10 = 0 then dropZeros fuel ⟨d.digits / 10, d.exponent + 1⟩ else d

end Scientific

namespace Magnitude

/-- The least `k` with the number below `10 ^ k`. -/
def decimalPoint (x : Magnitude) : Int :=
  let scaled := x.ratio.1 * Nat.pow 10 330 / x.ratio.2
  ((decimalDigits scaled).length : Int) - 330

/-- The number divided by `10 ^ exponent`, as a quotient of integers. -/
def scaledDown (x : Magnitude) (exponent : Int) : Nat × Nat :=
  (x.ratio.1 * Nat.pow 10 (-exponent).toNat, x.ratio.2 * Nat.pow 10 exponent.toNat)

/-- Whether a decimal reads back to the number. -/
def readsBack (x : Magnitude) (d : Scientific) : Bool := ofScientific? d == some x

/-- The neighbour of the number on the grid `10 ^ exponent` that reads back to it: the nearer one
when both do, and on a tie the even one. -/
def onGrid (x : Magnitude) (exponent : Int) : Option Scientific :=
  let q := x.scaledDown exponent
  let below : Scientific := ⟨q.1 / q.2, exponent⟩
  let above : Scientific := ⟨q.1 / q.2 + 1, exponent⟩
  let rest := q.1 % q.2
  let preferAbove := q.2 < 2 * rest || (2 * rest == q.2 && below.digits % 2 == 1)
  let (first, second) := if preferAbove then (above, below) else (below, above)
  if x.readsBack first then some first else if x.readsBack second then some second else none

/-- The number as a decimal without any rounding. -/
def exact (x : Magnitude) : Scientific :=
  if 0 ≤ x.exponent then ⟨x.significand * Nat.pow 2 x.exponent.toNat, 0⟩
  else ⟨x.significand * Nat.pow 5 (-x.exponent).toNat, x.exponent⟩

/-- The shortest decimal that reads back to the number. -/
def shortest (x : Magnitude) : Scientific :=
  let point := x.decimalPoint
  let found := (List.range 17).findSome? fun n => x.onGrid (point - (n + 1 : Nat))
  (found.getD x.exact).dropZeros 800

/-- The text of a decimal. `lead` is the exponent of its first digit. -/
def written (d : Scientific) : List Char :=
  let digits := decimalDigits d.digits
  let lead : Int := (digits.length : Int) - 1 + d.exponent
  if -4 ≤ lead ∧ lead < 16 then
    if lead < 0 then '0' :: '.' :: (List.replicate (-lead - 1).toNat '0' ++ digits)
    else
      let whole := digits.take (lead.toNat + 1)
      let places := digits.drop (lead.toNat + 1)
      let padding := List.replicate (lead.toNat + 1 - digits.length) '0'
      whole ++ padding ++ '.' :: (if places.isEmpty then ['0'] else places)
  else
    let fraction := if digits.length ≤ 1 then [] else '.' :: digits.drop 1
    let exponent := decimalDigits lead.natAbs
    let padded := if exponent.length < 2 then '0' :: exponent else exponent
    digits.take 1 ++ fraction ++ 'e' :: (if lead < 0 then '-' else '+') :: padded

/-- The text of a magnitude. -/
def text (x : Magnitude) : List Char :=
  if x.significand = 0 then ['0', '.', '0'] else written x.shortest

end Magnitude

namespace Binary64

/-- The text of a number as messages show it. -/
def text : Binary64 → List Char
  | .finite negative x => if negative then '-' :: x.text else x.text
  | .infinite negative => if negative then "-inf".toList else "inf".toList
  | .nan => "nan".toList

end Binary64

end QuerySchema.Decimal
