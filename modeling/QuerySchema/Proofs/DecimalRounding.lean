import Mathlib.Algebra.Order.Field.Power
import Mathlib.Data.Int.Log
import Mathlib.Data.Rat.Floor
import Mathlib.Tactic.FieldSimp
import Mathlib.Tactic.Linarith
import Mathlib.Tactic.Positivity
import QuerySchema.Decimal.Shortest

/-!
What a decimal is rounded to depends on its value alone.

A decimal can be written with more or fewer zeros at the end of its digits. It is rounded through
its value as a quotient, which is the same quotient either way; only the two tests that settle a
decimal far outside the range look at digits and exponent, and they agree with the rounding.

What is proved:
  1. `floorLog_eq_log`: the power of two below a quotient is a function of its value.
  2. `ofRatio?_scale`, `ofRatio?_of_huge`, `ofRatio?_of_tiny`: a quotient and its multiples are
     rounded alike, and what is out of range on either side is settled.
  3. `ofScientific?_pad`: zeros at the end of the digits do not matter.
  4. `ofScientific?_exact`, `ofScientific?_shortest`: the decimal without rounding reads back to the
     number, and so does the shortest one.
-/

namespace QuerySchema.Decimal.Magnitude

/-! ## Powers of two below a quotient -/

theorem log_eq_iff {q : ℚ} (hq : 0 < q) {k : ℤ} :
    Int.log 2 q = k ↔ (2 : ℚ) ^ k ≤ q ∧ q < (2 : ℚ) ^ (k + 1) := by
  have hle := Int.zpow_le_iff_le_log (b := 2) one_lt_two (x := k) hq
  have hlt := Int.lt_zpow_iff_log_lt (b := 2) one_lt_two (x := k + 1) hq
  rw [Nat.cast_ofNat] at hle hlt
  rw [hle, hlt]
  omega

/-- A power of two is compared with a quotient without fractions. -/
theorem zpow_le_div_iff {num den : Nat} (hd : 0 < den) (k : ℤ) :
    (2 : ℚ) ^ k ≤ (num : ℚ) / den ↔ den * 2 ^ k.toNat ≤ num * 2 ^ (-k).toNat := by
  have hd' : (0 : ℚ) < den := Nat.cast_pos.mpr hd
  have hk : (2 : ℚ) ^ k = 2 ^ k.toNat / 2 ^ (-k).toNat := by
    obtain ⟨n, rfl | rfl⟩ := k.eq_nat_or_neg <;> simp
  rw [hk, div_le_div_iff₀ (by positivity) hd', mul_comm]
  exact_mod_cast Iff.rfl

/-- A quotient is more than a fourth and less than four times the quotient of the powers of two below
its parts. -/
theorem log2_sub_log2_bounds {num den : Nat} (hn : 0 < num) (hd : 0 < den) {k : ℤ}
    (hk : k = (Nat.log2 num : ℤ) - Nat.log2 den) :
    (2 : ℚ) ^ (k - 1) ≤ (num : ℚ) / den ∧ (num : ℚ) / den < (2 : ℚ) ^ (k + 1) := by
  have hn₁ : 2 ^ Nat.log2 num ≤ num := Nat.log2_self_le hn.ne'
  have hn₂ : num < 2 ^ (Nat.log2 num + 1) := Nat.lt_log2_self
  have hd₁ : 2 ^ Nat.log2 den ≤ den := Nat.log2_self_le hd.ne'
  have hd₂ : den < 2 ^ (Nat.log2 den + 1) := Nat.lt_log2_self
  constructor
  · rw [zpow_le_div_iff hd]
    calc den * 2 ^ (k - 1).toNat
        ≤ 2 ^ (Nat.log2 den + 1) * 2 ^ (k - 1).toNat := Nat.mul_le_mul_right _ hd₂.le
      _ = 2 ^ Nat.log2 num * 2 ^ (-(k - 1)).toNat := by
          rw [← pow_add, ← pow_add]
          congr 1
          omega
      _ ≤ num * 2 ^ (-(k - 1)).toNat := Nat.mul_le_mul_right _ hn₁
  · rw [← not_le, zpow_le_div_iff hd, not_le]
    calc num * 2 ^ (-(k + 1)).toNat
        < 2 ^ (Nat.log2 num + 1) * 2 ^ (-(k + 1)).toNat :=
          Nat.mul_lt_mul_of_pos_right hn₂ (Nat.two_pow_pos _)
      _ = 2 ^ Nat.log2 den * 2 ^ (k + 1).toNat := by
          rw [← pow_add, ← pow_add]
          congr 1
          omega
      _ ≤ den * 2 ^ (k + 1).toNat := Nat.mul_le_mul_right _ hd₁

/-- The greatest power of two below a quotient is that of its value. -/
theorem floorLog_eq_log {num den : Nat} (hn : 0 < num) (hd : 0 < den) :
    floorLog num den = Int.log 2 ((num : ℚ) / den) := by
  have hq : (0 : ℚ) < (num : ℚ) / den := by positivity
  obtain ⟨hbelow, habove⟩ := log2_sub_log2_bounds hn hd rfl
  have hiff : (2 : ℚ) ^ ((Nat.log2 num : ℤ) - Nat.log2 den) ≤ (num : ℚ) / den ↔ _ :=
    zpow_le_div_iff hd _
  refine Eq.symm ((log_eq_iff hq).mpr ?_)
  unfold floorLog
  simp only [Nat.pow_eq]
  split
  · next h => exact ⟨hiff.mpr h, habove⟩
  · next h =>
    rw [sub_add_cancel]
    exact ⟨hbelow, not_le.mp fun hle => h (hiff.mp hle)⟩

theorem le_floorLog_iff {num den : Nat} (hn : 0 < num) (hd : 0 < den) {k : ℤ} :
    k ≤ floorLog num den ↔ den * 2 ^ k.toNat ≤ num * 2 ^ (-k).toNat := by
  have hq : (0 : ℚ) < (num : ℚ) / den := by positivity
  have hle := Int.zpow_le_iff_le_log (b := 2) one_lt_two (x := k) hq
  rw [Nat.cast_ofNat] at hle
  rw [floorLog_eq_log hn hd, ← hle, zpow_le_div_iff hd]

theorem floorLog_scale {k num den : Nat} (hk : 0 < k) (hn : 0 < num) (hd : 0 < den) :
    floorLog (k * num) (k * den) = floorLog num den := by
  have hk' : (k : ℚ) ≠ 0 := Nat.cast_ne_zero.mpr hk.ne'
  rw [floorLog_eq_log (Nat.mul_pos hk hn) (Nat.mul_pos hk hd), floorLog_eq_log hn hd]
  push_cast
  rw [mul_div_mul_left _ _ hk']

/-! ## Rounding quotients -/

theorem roundQuotient_scale {k : Nat} (hk : 0 < k) (num den : Nat) :
    roundQuotient (k * num) (k * den) = roundQuotient num den := by
  have hleft : 2 * (k * (num % den)) < k * den ↔ 2 * (num % den) < den := by
    rw [Nat.mul_left_comm, Nat.mul_lt_mul_left hk]
  have hright : k * den < 2 * (k * (num % den)) ↔ den < 2 * (num % den) := by
    rw [Nat.mul_left_comm, Nat.mul_lt_mul_left hk]
  simp only [roundQuotient, Nat.mul_div_mul_left _ _ hk, Nat.mul_mod_mul_left, hleft, hright]

/-- A whole number is not rounded. -/
theorem roundQuotient_mul (n : Nat) {den : Nat} (hd : 0 < den) :
    roundQuotient (n * den) den = n := by
  rw [roundQuotient, Nat.mul_div_cancel _ hd, Nat.mul_mod_left]
  exact if_pos hd

theorem roundQuotient_of_small {num den : Nat} (h : 2 * num < den) : roundQuotient num den = 0 := by
  have hlt : num < den := by omega
  rw [roundQuotient, Nat.div_eq_of_lt hlt, Nat.mod_eq_of_lt hlt]
  exact if_pos h

/-- Multiples of a quotient are rounded alike. -/
theorem ofRatio?_scale {k num den : Nat} (hk : 0 < k) (hn : 0 < num) (hd : 0 < den) :
    ofRatio? (k * num) (k * den) = ofRatio? num den := by
  simp only [ofRatio?, floorLog_scale hk hn hd, Nat.mul_assoc, roundQuotient_scale hk]

/-- The exponent of a quotient decides on which grid it is rounded. -/
theorem ofRatio?_eq {num den : Nat} {e : Int} (h : max (floorLog num den - 52) (-1074) = e) :
    ofRatio? num den =
      if roundQuotient (num * 2 ^ (-e).toNat) (den * 2 ^ e.toNat) = 2 ^ 53 then
        ofParts? (2 ^ 52) (e + 1)
      else ofParts? (roundQuotient (num * 2 ^ (-e).toNat) (den * 2 ^ e.toNat)) e := by
  subst h
  rfl

theorem ofParts?_of_too_great {significand : Nat} {exponent : Int} (h : 971 < exponent) :
    ofParts? significand exponent = none := by
  refine dif_neg ?_
  rintro ⟨-, -, hle, -⟩
  omega

/-- A quotient far above the largest number has no magnitude. -/
theorem ofRatio?_of_huge {num den : Nat} (hd : 0 < den) (h : den * 2 ^ 1024 ≤ num) :
    ofRatio? num den = none := by
  have hn : 0 < num := lt_of_lt_of_le (Nat.mul_pos hd (Nat.two_pow_pos _)) h
  have hlog : ((1024 : Nat) : Int) ≤ floorLog num den := by
    rw [le_floorLog_iff hn hd, Int.toNat_natCast, Int.toNat_neg_natCast, pow_zero, mul_one]
    exact h
  rw [ofRatio?_eq rfl, ofParts?_of_too_great (by omega), ofParts?_of_too_great (by omega), ite_self]

/-- A quotient far below the least number is rounded to zero. -/
theorem ofRatio?_of_tiny {num den : Nat} (hn : 0 < num) (h : 2 * (num * 2 ^ 1074) < den) :
    ofRatio? num den = some zero := by
  have hd : 0 < den := by omega
  have hlog : ¬ -((1074 : Nat) : Int) ≤ floorLog num den := by
    rw [le_floorLog_iff hn hd, neg_neg, Int.toNat_natCast, Int.toNat_neg_natCast, pow_zero, mul_one,
      not_le]
    exact lt_of_le_of_lt (Nat.le_mul_of_pos_left _ two_pos) h
  have hexponent : max (floorLog num den - 52) (-1074) = -((1074 : Nat) : Int) := by omega
  rw [ofRatio?_eq hexponent, neg_neg, Int.toNat_natCast, Int.toNat_neg_natCast, pow_zero, mul_one,
    roundQuotient_of_small h]
  rfl

/-! ## Decimals with more and fewer zeros -/

theorem two_pow_le_ten_pow {a b : Nat} (h : a ≤ 3 * b) : 2 ^ a ≤ 10 ^ b :=
  calc 2 ^ a ≤ 2 ^ (3 * b) := Nat.pow_le_pow_right two_pos h
    _ = 8 ^ b := Nat.pow_mul 2 3 b
    _ ≤ 10 ^ b := Nat.pow_le_pow_left (by decide) b

theorem log2_mul_ten {n : Nat} (hn : n ≠ 0) :
    Nat.log2 n + 3 ≤ Nat.log2 (n * 10) ∧ Nat.log2 (n * 10) ≤ Nat.log2 n + 4 := by
  have hn' : n * 10 ≠ 0 := by omega
  have hle : 2 ^ Nat.log2 n ≤ n := Nat.log2_self_le hn
  have hlt : n < 2 ^ (Nat.log2 n + 1) := Nat.lt_log2_self
  refine ⟨(Nat.le_log2 hn').mpr ?_, Nat.lt_succ_iff.mp ((Nat.log2_lt hn').mpr ?_)⟩
  · rw [Nat.pow_add]
    omega
  · rw [Nat.pow_succ] at hlt
    simp only [Nat.pow_succ]
    omega

/-- A zero at the end of the digits leaves the quotient as it is, or multiplies both parts. -/
theorem ofRatio?_pad_one {n : Nat} (hn : 0 < n) (e : Int) :
    ofRatio? (n * 10 * 10 ^ (e - 1).toNat) (10 ^ (-(e - 1)).toNat) =
      ofRatio? (n * 10 ^ e.toNat) (10 ^ (-e).toNat) := by
  rcases le_or_gt e 0 with he | he
  · have hnum : n * 10 * 10 ^ (e - 1).toNat = 10 * (n * 10 ^ e.toNat) := by
      rw [Int.toNat_of_nonpos he, Int.toNat_of_nonpos (by omega), mul_right_comm, mul_comm]
    have hden : 10 ^ (-(e - 1)).toNat = 10 * 10 ^ (-e).toNat := by
      rw [← pow_succ']
      congr 1
      omega
    rw [hnum, hden]
    exact ofRatio?_scale (by decide) (Nat.mul_pos hn (Nat.pow_pos (by decide)))
      (Nat.pow_pos (by decide))
  · have hnum : 10 * 10 ^ (e - 1).toNat = 10 ^ e.toNat := by
      rw [← pow_succ']
      congr 1
      omega
    rw [mul_assoc, hnum, Int.toNat_of_nonpos (by omega : -(e - 1) ≤ 0),
      Int.toNat_of_nonpos (by omega : -e ≤ 0)]

/-- A decimal that the tests leave over is rounded as a quotient. -/
theorem ofScientific?_eq_ofRatio? {n : Nat} {e : Int} (hn : n ≠ 0) (hgreat : ¬ 400 < e)
    (hsmall : ¬ e < -(401 + (Nat.log2 n : Int))) :
    ofScientific? ⟨n, e⟩ = ofRatio? (n * 10 ^ e.toNat) (10 ^ (-e).toNat) := by
  unfold ofScientific?
  rw [if_neg hn, if_neg hgreat, if_neg hsmall]
  rfl

theorem ofScientific?_of_great {n : Nat} {e : Int} (hn : n ≠ 0) (h : 400 < e) :
    ofScientific? ⟨n, e⟩ = none := by
  unfold ofScientific?
  rw [if_neg hn, if_pos h]

theorem ofScientific?_of_small {n : Nat} {e : Int} (hn : n ≠ 0)
    (h : e < -(401 + (Nat.log2 n : Int))) : ofScientific? ⟨n, e⟩ = some zero := by
  unfold ofScientific?
  rw [if_neg hn, if_neg (by dsimp only; omega), if_pos h]

/-- One zero more at the end of the digits. -/
theorem ofScientific?_pad_one (n : Nat) (e : Int) :
    ofScientific? ⟨n * 10, e - 1⟩ = ofScientific? ⟨n, e⟩ := by
  by_cases hn : n = 0
  · subst hn
    rfl
  have hpos : 0 < n := Nat.pos_of_ne_zero hn
  have hn' : n * 10 ≠ 0 := by omega
  have hlog := log2_mul_ten hn
  by_cases hgreat : 400 < e
  · rw [ofScientific?_of_great hn hgreat]
    by_cases hgreater : 400 < e - 1
    · exact ofScientific?_of_great hn' hgreater
    -- one decimal is settled by the test, the other by its quotient
    · obtain rfl : e = ((401 : Nat) : Int) := by omega
      rw [ofScientific?_eq_ofRatio? hn' hgreater (by omega), ofRatio?_pad_one hpos]
      refine ofRatio?_of_huge (Nat.pow_pos (by decide)) ?_
      rw [Int.toNat_neg_natCast, Int.toNat_natCast, pow_zero, one_mul]
      exact le_trans (two_pow_le_ten_pow (by decide)) (Nat.le_mul_of_pos_left _ hpos)
  by_cases hsmall : e < -(401 + (Nat.log2 n : Int))
  · rw [ofScientific?_of_small hn hsmall]
    by_cases hsmaller : e - 1 < -(401 + (Nat.log2 (n * 10) : Int))
    · exact ofScientific?_of_small hn' hsmaller
    · rw [ofScientific?_eq_ofRatio? hn' (by omega) hsmaller, ofRatio?_pad_one hpos]
      refine ofRatio?_of_tiny (Nat.mul_pos hpos (Nat.pow_pos (by decide))) ?_
      rw [Int.toNat_of_nonpos (by omega : e ≤ 0), pow_zero, mul_one]
      calc 2 * (n * 2 ^ 1074) < 2 * (2 ^ (Nat.log2 n + 1) * 2 ^ 1074) := by
            have hlt : n < 2 ^ (Nat.log2 n + 1) := Nat.lt_log2_self
            gcongr
        _ = 2 ^ (Nat.log2 n + 1 + 1074 + 1) := by rw [← pow_add, ← pow_succ']
        _ ≤ 10 ^ (-e).toNat := two_pow_le_ten_pow (by omega)
  · rw [ofScientific?_eq_ofRatio? hn hgreat hsmall,
      ofScientific?_eq_ofRatio? hn' (by omega) (by omega), ofRatio?_pad_one hpos]

/-- Zeros at the end of the digits do not matter. -/
theorem ofScientific?_pad (n k : Nat) (e : Int) :
    ofScientific? ⟨n * 10 ^ k, e - k⟩ = ofScientific? ⟨n, e⟩ := by
  induction k with
  | zero => rw [pow_zero, mul_one, Nat.cast_zero, sub_zero]
  | succ k ih =>
    rw [pow_succ, ← mul_assoc, Nat.cast_succ, ← sub_sub, ofScientific?_pad_one, ih]

theorem ofScientific?_dropZeros (fuel : Nat) (d : Scientific) :
    ofScientific? (d.dropZeros fuel) = ofScientific? d := by
  induction fuel generalizing d with
  | zero => rfl
  | succ fuel ih =>
    rw [Scientific.dropZeros]
    split
    · next h =>
      have hdigits : d.digits / 10 * 10 = d.digits :=
        Nat.div_mul_cancel (Nat.dvd_of_mod_eq_zero h.2)
      rw [ih, ← ofScientific?_pad_one, hdigits, add_sub_cancel_right]
    · rfl

/-! ## Decimals that read back -/

variable (x : Magnitude)

theorem ofParts?_self : ofParts? x.significand x.exponent = some x :=
  dif_pos ⟨x.significand_lt, x.least_le, x.le_greatest, x.normal⟩

/-- The quotient that a magnitude is rounds to it. -/
theorem ofRatio?_ratio (hx : x.significand ≠ 0) : ofRatio? x.ratio.1 x.ratio.2 = some x := by
  have hlt : x.significand < 2 ^ 53 := x.significand_lt
  have hleast := x.least_le
  have hd : 0 < 2 ^ (-x.exponent).toNat := Nat.two_pow_pos _
  have hn : 0 < x.significand * 2 ^ x.exponent.toNat :=
    Nat.mul_pos (Nat.pos_of_ne_zero hx) (Nat.two_pow_pos _)
  -- the significand has at most 53 bits, and all 53 unless the exponent is the least one; so the
  -- exponent that rounding chooses is that of the magnitude
  have hbelow : ¬ x.exponent + 53 ≤
      floorLog (x.significand * 2 ^ x.exponent.toNat) (2 ^ (-x.exponent).toNat) := by
    rw [le_floorLog_iff hn hd, not_le]
    calc x.significand * 2 ^ x.exponent.toNat * 2 ^ (-(x.exponent + 53)).toNat
        < 2 ^ 53 * 2 ^ x.exponent.toNat * 2 ^ (-(x.exponent + 53)).toNat := by gcongr
      _ = 2 ^ (-x.exponent).toNat * 2 ^ (x.exponent + 53).toNat := by
          simp only [← pow_add]
          congr 1
          omega
  have hexponent : max (floorLog (x.significand * 2 ^ x.exponent.toNat) (2 ^ (-x.exponent).toNat) - 52)
      (-1074) = x.exponent := by
    rcases x.normal with hnormal | hsubnormal
    · have habove : x.exponent + 52 ≤
          floorLog (x.significand * 2 ^ x.exponent.toNat) (2 ^ (-x.exponent).toNat) := by
        rw [le_floorLog_iff hn hd]
        calc 2 ^ (-x.exponent).toNat * 2 ^ (x.exponent + 52).toNat
            = 2 ^ 52 * 2 ^ x.exponent.toNat * 2 ^ (-(x.exponent + 52)).toNat := by
              simp only [← pow_add]
              congr 1
              omega
          _ ≤ x.significand * 2 ^ x.exponent.toNat * 2 ^ (-(x.exponent + 52)).toNat :=
              Nat.mul_le_mul_right _ (Nat.mul_le_mul_right _ hnormal)
      omega
    · omega
  have hround : roundQuotient (x.significand * 2 ^ x.exponent.toNat * 2 ^ (-x.exponent).toNat)
      (2 ^ (-x.exponent).toNat * 2 ^ x.exponent.toNat) = x.significand := by
    rw [mul_assoc, mul_comm (2 ^ x.exponent.toNat)]
    exact roundQuotient_mul _ (Nat.mul_pos hd (Nat.two_pow_pos _))
  show ofRatio? (x.significand * 2 ^ x.exponent.toNat) (2 ^ (-x.exponent).toNat) = some x
  rw [ofRatio?_eq hexponent, hround, if_neg hlt.ne, ofParts?_self]

/-- The decimal without rounding reads back to the number. -/
theorem ofScientific?_exact (hx : x.significand ≠ 0) : ofScientific? x.exact = some x := by
  have hread := ofRatio?_ratio x hx
  simp only [ratio, Nat.pow_eq] at hread
  unfold exact
  split
  · next he =>
    have hdigits : x.significand * 2 ^ x.exponent.toNat ≠ 0 :=
      Nat.mul_ne_zero hx (Nat.two_pow_pos _).ne'
    rw [Int.toNat_of_nonpos (by omega : -x.exponent ≤ 0)] at hread
    rw [Nat.pow_eq, ofScientific?_eq_ofRatio? hdigits (by decide) (by omega), Int.toNat_zero,
      neg_zero, Int.toNat_zero, pow_zero, mul_one]
    exact hread
  · next he =>
    have hdigits : x.significand * 5 ^ (-x.exponent).toNat ≠ 0 :=
      Nat.mul_ne_zero hx (Nat.pow_pos (by decide)).ne'
    have hlog : (-x.exponent).toNat ≤ Nat.log2 (x.significand * 5 ^ (-x.exponent).toNat) := by
      rw [Nat.le_log2 hdigits]
      exact le_trans (Nat.pow_le_pow_left (by decide) _)
        (Nat.le_mul_of_pos_left _ (Nat.pos_of_ne_zero hx))
    have hten : 10 ^ (-x.exponent).toNat = 5 ^ (-x.exponent).toNat * 2 ^ (-x.exponent).toNat :=
      Nat.mul_pow 5 2 _
    rw [Int.toNat_of_nonpos (by omega : x.exponent ≤ 0), pow_zero, mul_one] at hread
    rw [Nat.pow_eq, ofScientific?_eq_ofRatio? hdigits (by omega) (by omega), hten,
      Int.toNat_of_nonpos (by omega : x.exponent ≤ 0), pow_zero, mul_one, mul_comm x.significand,
      ofRatio?_scale (Nat.pow_pos (by decide)) (Nat.pos_of_ne_zero hx) (Nat.two_pow_pos _)]
    exact hread

theorem ofScientific?_onGrid {e : Int} {d : Scientific} (h : x.onGrid e = some d) :
    ofScientific? d = some x := by
  -- whichever neighbour is tried first, the one that is taken has been read back
  have htried (first second : Scientific)
      (h : (if x.readsBack first then some first
        else if x.readsBack second then some second else none) = some d) :
      ofScientific? d = some x := by
    split at h
    · next hfirst => exact Option.some.inj h ▸ beq_iff_eq.mp hfirst
    · split at h
      · next hsecond => exact Option.some.inj h ▸ beq_iff_eq.mp hsecond
      · cases h
  simp only [onGrid] at h
  split at h
  · exact htried _ _ h
  · exact htried _ _ h

/-- The shortest decimal reads back to the number. -/
theorem ofScientific?_shortest (hx : x.significand ≠ 0) : ofScientific? x.shortest = some x := by
  rw [shortest, ofScientific?_dropZeros]
  cases hfound : (List.range 17).findSome? fun n => x.onGrid (x.decimalPoint - (n + 1 : Nat)) with
  | none => exact ofScientific?_exact x hx
  | some d =>
    obtain ⟨n, -, hn⟩ := List.exists_of_findSome?_eq_some hfound
    exact ofScientific?_onGrid x hn

end QuerySchema.Decimal.Magnitude
