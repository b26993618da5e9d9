/-!
Numbers of the binary64 format, held exactly.

A finite number is a sign and a magnitude `significand * 2 ^ exponent`; the magnitude is in its
one normal form, so equal numbers are equal values. Reading a decimal rounds the exact value once,
to the nearest magnitude, a tie going to the even significand. All of it is integer arithmetic.
-/

namespace QuerySchema.Decimal

/-- A decimal `digits * 10 ^ exponent`. -/
structure Scientific where
  digits : Nat
  exponent : Int
  deriving DecidableEq, Repr

/-- The size of a finite number, `significand * 2 ^ exponent`: all 53 bits are used unless the
exponent is the least one. -/
structure Magnitude where
  significand : Nat
  exponent : Int
  significand_lt : significand < Nat.pow 2 53
  least_le : -1074 ≤ exponent
  le_greatest : exponent ≤ 971
  normal : Nat.pow 2 52 ≤ significand ∨ exponent = -1074
  deriving DecidableEq, Repr

/-- A number of the format. -/
inductive Binary64 where
  /-- A finite number; zero has a sign too. -/
  | finite (negative : Bool) (magnitude : Magnitude)
  | infinite (negative : Bool)
  | nan
  deriving DecidableEq, Repr

namespace Magnitude

/-- The magnitude of zero. -/
def zero : Magnitude := ⟨0, -1074, by decide, by decide, by decide, .inr rfl⟩

/-- A pair of significand and exponent as a magnitude, if it is a normal form within range. -/
def ofParts? (significand : Nat) (exponent : Int) : Option Magnitude :=
  if h : significand < Nat.pow 2 53 ∧ -1074 ≤ exponent ∧ exponent ≤ 971 ∧
      (Nat.pow 2 52 ≤ significand ∨ exponent = -1074) then
    some ⟨significand, exponent, h.1, h.2.1, h.2.2.1, h.2.2.2⟩
  else none

/-- The quotient rounded to the nearest integer, a tie going to the even one. -/
def roundQuotient (num den : Nat) : Nat :=
  let quotient := num / den
  let rest := num % den
  if 2 * rest < den then quotient
  else if den < 2 * rest then quotient + 1
  else if quotient % 2 = 0 then quotient else quotient + 1

/-- The greatest `k` with `2 ^ k ≤ num / den`, for positive parts. -/
def floorLog (num den : Nat) : Int :=
  let k : Int := (Nat.log2 num : Int) - (Nat.log2 den : Int)
  if den * Nat.pow 2 k.toNat ≤ num * Nat.pow 2 (-k).toNat then k else k - 1

/-- The magnitude nearest to a positive quotient; none when that exceeds the largest one. -/
def ofRatio? (num den : Nat) : Option Magnitude :=
  let exponent := max (floorLog num den - 52) (-1074)
  let significand :=
    roundQuotient (num * Nat.pow 2 (-exponent).toNat) (den * Nat.pow 2 exponent.toNat)
  if significand = Nat.pow 2 53 then ofParts? (Nat.pow 2 52) (exponent + 1)
  else ofParts? significand exponent

/-- The magnitude nearest to a decimal; none when that exceeds the largest one. A decimal that is
far outside the range on either side is settled without computing its power of ten. -/
def ofScientific? (d : Scientific) : Option Magnitude :=
  if d.digits = 0 then some zero
  else if 400 < d.exponent then none
  else if d.exponent < -(401 + (Nat.log2 d.digits : Int)) then some zero
  else ofRatio? (d.digits * Nat.pow 10 d.exponent.toNat) (Nat.pow 10 (-d.exponent).toNat)

/-- The magnitude as a quotient of integers, exactly. -/
def ratio (x : Magnitude) : Nat × Nat :=
  (x.significand * Nat.pow 2 x.exponent.toNat, Nat.pow 2 (-x.exponent).toNat)

/-- Whether the magnitude is a whole number. -/
def isWhole (x : Magnitude) : Bool := x.ratio.1 % x.ratio.2 == 0

end Magnitude

namespace Binary64

/-- The number nearest to a signed decimal, infinite beyond the largest one. -/
def ofScientific (negative : Bool) (d : Scientific) : Binary64 :=
  match Magnitude.ofScientific? d with
  | some x => .finite negative x
  | none => .infinite negative

/-- Whether the number is finite. -/
def isFinite : Binary64 → Bool
  | .finite .. => true
  | _ => false

/-- Whether the number is an integer. -/
def isWhole : Binary64 → Bool
  | .finite _ x => x.isWhole
  | _ => false

/-- Whether the number lies below zero. -/
def isNegative : Binary64 → Bool
  | .finite negative x => negative && x.significand != 0
  | .infinite negative => negative
  | .nan => false

/-- Whether the number equals zero, of either sign. -/
def isZero : Binary64 → Bool
  | .finite _ x => x.significand == 0
  | _ => false

end Binary64

end QuerySchema.Decimal
