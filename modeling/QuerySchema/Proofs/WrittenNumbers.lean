import QuerySchema.Json.Reader
import QuerySchema.Json.Writer
import QuerySchema.Proofs.DecimalRounding
import QuerySchema.Proofs.NumberText

/-!
Numbers that are written are read back.

The text of a number is put together from the parts that readers take numbers apart into: digits,
places behind a point, an exponent. `Writes` says so of a text and a decimal. The digits that the
parts hold are those of the decimal, but for zeros at their end, and such zeros do not matter.

What is proved:
  1. `isWhole_decimalDigits`, `digitsValue_decimalDigits`: the digits of an integer.
  2. `readNumeral_int`, `readNumeral_of_writes`: a number is read up to its end, whatever stands
     behind it that is no part of a number.
  3. `writes_written`: in each of its three forms the text of a decimal is put together from parts.
  4. `readNumeral_text`: the text of a magnitude gives the magnitude.
-/

namespace QuerySchema.Decimal

/-! ## Digits of an integer -/

theorem digitsValue_eq (cs : List Char) : digitsValue cs = Nat.ofDigitChars 10 cs 0 := rfl

theorem digitsValue_decimalDigits (n : Nat) : digitsValue (decimalDigits n) = n :=
  Nat.ofDigitChars_ten_toDigits

theorem digitsValue_zeros_append (k : Nat) (cs : List Char) :
    digitsValue (List.replicate k '0' ++ cs) = digitsValue cs := by
  rw [digitsValue_eq, Nat.ofDigitChars_append, Nat.ofDigitChars_replicate_zero, Nat.mul_zero]
  rfl

theorem digitsValue_append_zeros (cs : List Char) (k : Nat) :
    digitsValue (cs ++ List.replicate k '0') = digitsValue cs * 10 ^ k := by
  rw [digitsValue_eq, Nat.ofDigitChars_append, Nat.ofDigitChars_replicate_zero, Nat.mul_comm]
  rfl

theorem isDigits_decimalDigits (n : Nat) : IsDigits (decimalDigits n) where
  ne_nil := Nat.toDigits_ne_nil
  all := fun _ hc => Nat.isDigit_of_mem_toDigits (by decide) (by decide) hc

/-- The digits of a number other than zero are not led by a zero. -/
theorem decimalDigits_ne_zero_cons {n : Nat} (hn : n ≠ 0) (rest : List Char) :
    decimalDigits n ≠ '0' :: rest := by
  induction n using Nat.base_induction 10 (by decide) generalizing rest with
  | single m hm =>
    intro h
    have hvalue := digitsValue_decimalDigits m
    rw [h] at hvalue
    rw [decimalDigits, Nat.toDigits_of_lt_base hm] at h
    obtain ⟨-, rfl⟩ := List.cons.inj h
    exact hn hvalue.symm
  | digit m k hk hm ih =>
    intro h
    obtain ⟨c, digits, hdigits, -⟩ := (isDigits_decimalDigits m).exists_cons
    rw [decimalDigits, ← Nat.toDigits_append_toDigits (by decide) hm hk, ← decimalDigits,
      hdigits] at h
    obtain ⟨rfl, -⟩ := List.cons.inj h
    exact ih hm.ne' digits hdigits

/-- The digits of an integer are not led by a zero unless there is no other. -/
theorem isWhole_decimalDigits (n : Nat) : IsWhole (decimalDigits n) where
  toIsDigits := isDigits_decimalDigits n
  led := by
    intro rest h
    by_cases hn : n = 0
    · subst hn
      exact (List.cons.inj h).2.symm
    · exact absurd h (decimalDigits_ne_zero_cons hn rest)

theorem digitsValue_concat (cs : List Char) (c : Char) :
    digitsValue (cs ++ [c]) = 10 * digitsValue cs + (c.toNat - 0x30) := by
  simp [digitsValue, List.foldl_append]

theorem digitChar_of_isDigit {c : Char} (h : isDigit c = true) :
    Nat.digitChar (c.toNat - 0x30) = c := by
  have hbounds := isDigit_iff.mp h
  rw [← Char.toNat_inj, Nat.toNat_digitChar_of_lt_ten (by omega)]
  omega

theorem digitsValue_pos {c : Char} {rest : List Char} (h : IsDigits (c :: rest)) (hc : c ≠ '0') :
    0 < digitsValue (c :: rest) := by
  have hbounds := isDigit_iff.mp (h.all c List.mem_cons_self)
  have hne : c.toNat ≠ 0x30 := fun he => hc (Char.toNat_inj.mp he)
  rw [digitsValue_eq, Nat.ofDigitChars_cons, Nat.ofDigitChars_eq_ofDigitChars_zero]
  have hpower : 0 < 10 ^ rest.length := Nat.pow_pos (by decide)
  have hfirst : 0 < 10 * 0 + (c.toNat - '0'.toNat) := by
    show 0 < 10 * 0 + (c.toNat - 0x30)
    omega
  exact Nat.add_pos_left (Nat.mul_pos hpower hfirst) _

/-- Digits that are not led by a zero are those of their value. -/
theorem decimalDigits_digitsValue {cs : List Char} (h : IsWhole cs) :
    decimalDigits (digitsValue cs) = cs := by
  -- from the last digit on: the digits in front of it are not led by a zero either
  induction cs using List.reverseRecOn with
  | nil => exact absurd rfl h.ne_nil
  | append_singleton init c ih =>
    have hc : isDigit c = true := h.all c (by simp)
    have hlast : c.toNat - 0x30 < 10 := by
      have := isDigit_iff.mp hc
      omega
    have hone : decimalDigits (c.toNat - 0x30) = [c] := by
      rw [decimalDigits, Nat.toDigits_of_lt_base hlast, digitChar_of_isDigit hc]
    cases init with
    | nil => simpa [digitsValue] using hone
    | cons first rest =>
      have hinit : IsDigits (first :: rest) :=
        ⟨List.cons_ne_nil _ _, fun d hd => h.all d (List.mem_append_left _ hd)⟩
      have hfirst : first ≠ '0' := by
        rintro rfl
        exact absurd (h.led (rest ++ [c]) rfl) (by simp)
      have hwhole : IsWhole (first :: rest) :=
        ⟨hinit, fun _ he => absurd (List.cons.inj he).1 hfirst⟩
      rw [digitsValue_concat, decimalDigits,
        ← Nat.toDigits_append_toDigits (by decide) (digitsValue_pos hinit hfirst) hlast,
        ← decimalDigits, ← decimalDigits, ih hwhole, hone]

theorem digitsValue_eq_zero {cs : List Char} (h : IsWhole cs) : digitsValue cs = 0 ↔ cs = ['0'] := by
  constructor
  · intro hzero
    rw [← decimalDigits_digitsValue h, hzero]
    rfl
  · rintro rfl
    rfl

/-! ## Texts in parts -/

/-- A text is put together from the parts of a number that has the digits of a decimal, and perhaps
more zeros at their end. -/
inductive Writes (d : Scientific) : List Char → Prop where
  | parts {whole fraction places exponent : List Char} {value : Int} (zeros : Nat)
    (hwhole : IsWhole whole) (hfraction : IsFraction fraction places)
    (hexponent : IsExponent exponent value) (hpresent : fraction ≠ [] ∨ exponent ≠ [])
    (hdigits : digitsValue (whole ++ places) = d.digits * 10 ^ zeros)
    (hvalue : value - places.length = d.exponent - zeros) :
    Writes d (whole ++ fraction ++ exponent)

variable {d : Scientific}

/-- A text without an exponent. -/
theorem Writes.point {whole places : List Char} (zeros : Nat) (hwhole : IsWhole whole)
    (hplaces : IsDigits places) (hdigits : digitsValue (whole ++ places) = d.digits * 10 ^ zeros)
    (hvalue : d.exponent + places.length = zeros) : Writes d (whole ++ '.' :: places) := by
  rw [← List.append_nil (whole ++ '.' :: places)]
  exact .parts zeros hwhole (.present hplaces) .absent (.inl (List.cons_ne_nil _ _)) hdigits
    (by omega)

theorem Writes.exists_cons {d : Scientific} {text : List Char} (h : Writes d text) :
    ∃ c more, text = c :: more ∧ isDigit c = true := by
  cases h with
  | @parts whole fraction places exponent value zeros hw =>
    obtain ⟨c, digits, rfl, hc⟩ := hw.toIsDigits.exists_cons
    exact ⟨c, digits ++ fraction ++ exponent, rfl, hc⟩

/-- The characters of a number in parts. -/
theorem Writes.isNumeral {d : Scientific} {text : List Char} (h : Writes d text) :
    ∀ c ∈ text, isNumeral c = true := by
  cases h with
  | @parts whole fraction places exponent value zeros hw hf he =>
    refine List.forall_mem_append.mpr ⟨List.forall_mem_append.mpr ⟨fun c hc => ?_,
      isNumeral_fraction hf⟩, isNumeral_exponent he⟩
    exact isNumeral_of_isDigit (hw.all c hc)

/-- Zeros stand in front of the digits of a decimal below one. -/
theorem writes_below_one {k : Nat}
    (hk : (k : Int) = -((decimalDigits d.digits).length + d.exponent)) :
    Writes d ('0' :: '.' :: (List.replicate k '0' ++ decimalDigits d.digits)) := by
  have hzeros : List.replicate k '0' ++ decimalDigits d.digits ≠ [] := by
    simp [(isDigits_decimalDigits d.digits).ne_nil]
  have hplaces : IsDigits (List.replicate k '0' ++ decimalDigits d.digits) :=
    ⟨hzeros, List.forall_mem_append.mpr
      ⟨fun _ hc => List.eq_of_mem_replicate hc ▸ rfl, (isDigits_decimalDigits d.digits).all⟩⟩
  show Writes d (['0'] ++ '.' :: (List.replicate k '0' ++ decimalDigits d.digits))
  refine .point 0 (isWhole_decimalDigits 0) hplaces ?_ ?_
  · rw [← List.append_assoc, List.singleton_append, ← List.replicate_succ, digitsValue_zeros_append,
      digitsValue_decimalDigits, Nat.pow_zero, Nat.mul_one]
  · rw [List.length_append, List.length_replicate]
    omega

theorem isWhole_of_isDigits {cs : List Char} (h : IsDigits cs) (hled : ∀ rest, cs ≠ '0' :: rest) :
    IsWhole cs :=
  ⟨h, fun rest hrest => absurd hrest (hled rest)⟩

theorem isDigits_take_decimalDigits (n : Nat) {k : Nat} (hk : 0 < k) :
    IsDigits ((decimalDigits n).take k) where
  ne_nil := by simp [hk.ne', (isDigits_decimalDigits n).ne_nil]
  all := fun c hc => (isDigits_decimalDigits n).all c (List.mem_of_mem_take hc)

theorem isDigits_drop_decimalDigits (n : Nat) {k : Nat} (hk : k < (decimalDigits n).length) :
    IsDigits ((decimalDigits n).drop k) where
  ne_nil := by simpa using hk
  all := fun c hc => (isDigits_decimalDigits n).all c (List.mem_of_mem_drop hc)

/-- The point stands among the digits. -/
theorem writes_between_digits (hd : d.digits ≠ 0) {k : Nat} (hpos : 0 < k)
    (hk : k < (decimalDigits d.digits).length)
    (he : d.exponent = k - ((decimalDigits d.digits).length : Int)) :
    Writes d ((decimalDigits d.digits).take k ++ '.' :: (decimalDigits d.digits).drop k) := by
  have hwhole : IsWhole ((decimalDigits d.digits).take k) := by
    refine isWhole_of_isDigits (isDigits_take_decimalDigits _ hpos) fun rest hrest => ?_
    have happend := List.take_append_drop k (decimalDigits d.digits)
    rw [hrest] at happend
    exact decimalDigits_ne_zero_cons hd _ happend.symm
  refine .point 0 hwhole (isDigits_drop_decimalDigits _ hk) ?_ ?_
  · rw [List.take_append_drop, digitsValue_decimalDigits, Nat.pow_zero, Nat.mul_one]
  · rw [List.length_drop]
    omega

/-- Zeros stand behind the digits of a whole number, and one behind the point. -/
theorem writes_whole (hd : d.digits ≠ 0) {k : Nat} (hk : (k : Int) = d.exponent) :
    Writes d (decimalDigits d.digits ++ List.replicate k '0' ++ '.' :: ['0']) := by
  have hwhole : IsWhole (decimalDigits d.digits ++ List.replicate k '0') := by
    have hdigits := isDigits_decimalDigits d.digits
    refine isWhole_of_isDigits ⟨by simp [hdigits.ne_nil], List.forall_mem_append.mpr
      ⟨hdigits.all, fun _ hc => List.eq_of_mem_replicate hc ▸ rfl⟩⟩ fun rest hrest => ?_
    obtain ⟨c, more, hmore, -⟩ := hdigits.exists_cons
    rw [hmore] at hrest
    obtain ⟨rfl, -⟩ := List.cons.inj hrest
    exact decimalDigits_ne_zero_cons hd more hmore
  refine .point (k + 1) hwhole (isDigits_decimalDigits 0) ?_ ?_
  · have hzeros : List.replicate k '0' ++ ['0'] = List.replicate (k + 1) '0' :=
      List.replicate_succ'.symm
    rw [List.append_assoc, hzeros, digitsValue_append_zeros, digitsValue_decimalDigits]
  · rw [List.length_singleton]
    omega

/-- Behind the first digit of a number there is a fraction with the others, if there are any. -/
theorem isFraction_behind_first (n : Nat) :
    IsFraction (if (decimalDigits n).length ≤ 1 then [] else '.' :: (decimalDigits n).drop 1)
      ((decimalDigits n).drop 1) := by
  split
  · next h =>
    rw [List.drop_eq_nil_iff.mpr h]
    exact .absent
  · next h => exact .present (isDigits_drop_decimalDigits n (Nat.lt_of_not_le h))

/-- An exponent as it is written: with its sign, and a zero in front of a single digit. -/
theorem isExponent_written (lead : Int) :
    IsExponent ('e' :: (if lead < 0 then '-' else '+') ::
      if (decimalDigits lead.natAbs).length < 2 then '0' :: decimalDigits lead.natAbs
      else decimalDigits lead.natAbs) lead := by
  generalize hpadded : (if (decimalDigits lead.natAbs).length < 2 then '0' :: decimalDigits lead.natAbs
    else decimalDigits lead.natAbs) = padded
  have hdigits : IsDigits padded ∧ digitsValue padded = lead.natAbs := by
    have hplain := isDigits_decimalDigits lead.natAbs
    rw [← hpadded]
    split
    · exact ⟨⟨List.cons_ne_nil _ _, List.forall_mem_cons.mpr ⟨rfl, hplain.all⟩⟩,
        (digitsValue_zeros_append 1 _).trans (digitsValue_decimalDigits _)⟩
    · exact ⟨hplain, digitsValue_decimalDigits _⟩
  obtain ⟨hdigits, hvalue⟩ := hdigits
  split
  · next hneg =>
    have hlead : signed true padded = lead := by
      rw [signed, if_pos rfl, hvalue]
      omega
    exact hlead ▸ .present (.inl rfl) .minus hdigits
  · next hpos =>
    have hlead : signed false padded = lead := by
      rw [signed, if_neg Bool.false_ne_true, hvalue]
      omega
    exact hlead ▸ .present (.inl rfl) .plus hdigits

/-- One digit stands in front of the point, and there is an exponent. -/
theorem writes_with_exponent {lead : Int}
    (hlead : lead = (decimalDigits d.digits).length - 1 + d.exponent) :
    Writes d ((decimalDigits d.digits).take 1 ++
      (if (decimalDigits d.digits).length ≤ 1 then [] else '.' :: (decimalDigits d.digits).drop 1) ++
      'e' :: (if lead < 0 then '-' else '+') ::
        if (decimalDigits lead.natAbs).length < 2 then '0' :: decimalDigits lead.natAbs
        else decimalDigits lead.natAbs) := by
  have hlength : 0 < (decimalDigits d.digits).length := Nat.length_toDigits_pos
  have hwhole : IsWhole ((decimalDigits d.digits).take 1) := by
    refine ⟨isDigits_take_decimalDigits _ Nat.one_pos, fun rest hrest => ?_⟩
    have hone := congrArg List.length hrest
    rw [List.length_take, List.length_cons] at hone
    exact List.length_eq_zero_iff.mp (by omega)
  refine .parts 0 hwhole (isFraction_behind_first _) (isExponent_written lead)
    (.inr (List.cons_ne_nil _ _)) ?_ ?_
  · rw [List.take_append_drop, digitsValue_decimalDigits, Nat.pow_zero, Nat.mul_one]
  · rw [List.length_drop]
    omega

/-- The text of a decimal is put together from parts. -/
theorem writes_written (hd : d.digits ≠ 0) : Writes d (Magnitude.written d) := by
  have hlength : 0 < (decimalDigits d.digits).length := Nat.length_toDigits_pos
  unfold Magnitude.written
  simp only
  split
  · next hplain =>
    split
    · next hbelow =>
      refine writes_below_one ?_
      omega
    · next habove =>
      generalize hk : (((decimalDigits d.digits).length : Int) - 1 + d.exponent).toNat + 1 = k
      by_cases hshort : k < (decimalDigits d.digits).length
      · have hplaces := (isDigits_drop_decimalDigits d.digits hshort).isEmpty
        rw [hplaces, if_neg Bool.false_ne_true, Nat.sub_eq_zero_of_le hshort.le, List.replicate_zero,
          List.append_nil]
        exact writes_between_digits hd (by omega) hshort (by omega)
      · have hlong : (decimalDigits d.digits).length ≤ k := Nat.le_of_not_lt hshort
        rw [List.take_of_length_le hlong, List.drop_of_length_le hlong, List.isEmpty_nil, if_pos rfl]
        refine writes_whole hd ?_
        omega
  · exact writes_with_exponent rfl

end QuerySchema.Decimal

/-! ## Reading numbers -/

namespace QuerySchema.Json

open Decimal

variable {whole fraction exponent places rest start : List Char} {value : Int} {negative : Bool}

theorem stopsAt_of_numeral {p : Char → Bool} (hp : ∀ c, isNumeral c = false → p c = false)
    (h : StopsAt isNumeral rest) : StopsAt p rest := fun c hc => hp c (h c hc)

/-- What is no part of a number is no digit, no point and no mark of an exponent. -/
theorem not_numeral {c : Char} (h : isNumeral c = false) :
    isDigit c = false ∧ (c == '.') = false ∧ (c == 'e' || c == 'E') = false := by
  simp only [isNumeral, Bool.or_eq_false_iff] at h
  simp only [h, Bool.or_self, and_self]

theorem takeFraction_eq (hf : IsFraction fraction places) (hdigit : StopsAt isDigit rest)
    (hpoint : StopsAt (· == '.') rest) : takeFraction (fraction ++ rest) = fraction := by
  cases hf with
  | absent =>
    unfold takeFraction
    split
    · next he =>
      rw [List.nil_append] at he
      exact absurd (hpoint '.' (he ▸ rfl)) (by decide)
    · rfl
  | present hp =>
    simp only [List.cons_append, takeFraction, takeWhile_append_stop hp.all hdigit, hp.isEmpty,
      Bool.false_eq_true, if_false]

theorem takeExponent_eq (he : IsExponent exponent value) (hrest : StopsAt isNumeral rest) :
    takeExponent (exponent ++ rest) = exponent := by
  cases he with
  | absent =>
    cases rest with
    | nil => rfl
    | cons c rest =>
      have hc := (not_numeral (hrest c rfl)).2.2
      simp only [List.nil_append, takeExponent, hc, Bool.false_eq_true, if_false]
  | @present mark sign digits negative hmark hsign hdigits =>
    have hm : (mark == 'e' || mark == 'E') = true := by simpa using hmark
    have hstop : StopsAt isDigit rest := stopsAt_of_numeral (fun c h => (not_numeral h).1) hrest
    have htake : (digits ++ rest).takeWhile isDigit = digits :=
      takeWhile_append_stop hdigits.all hstop
    cases hsign with
    | plus => simp [takeExponent, hm, htake, hdigits.isEmpty]
    | minus => simp [takeExponent, hm, htake, hdigits.isEmpty]
    | absent =>
      obtain ⟨c, more, rfl, hc⟩ := hdigits.exists_cons
      have hplus : c ≠ '+' := fun h => absurd (h ▸ hc) (by decide)
      have hminus : c ≠ '-' := fun h => absurd (h ▸ hc) (by decide)
      rw [List.nil_append, List.cons_append] at *
      simp [takeExponent, hm, htake, hdigits.isEmpty, hplus, hminus]

theorem takeWhole_eq (hw : IsWhole whole) (hrest : StopsAt isDigit rest) :
    takeWhole (whole ++ rest) = whole := by
  unfold takeWhole
  split
  · next more he =>
    obtain ⟨c, digits, rfl, -⟩ := hw.toIsDigits.exists_cons
    obtain ⟨rfl, -⟩ := List.cons.inj he
    rw [hw.led digits rfl]
  · exact takeWhile_append_stop hw.all hrest

/-- A number is read up to its end. -/
theorem readNumeral_eq (hw : IsWhole whole) (hf : IsFraction fraction places)
    (he : IsExponent exponent value) (hrest : StopsAt isNumeral rest) :
    readNumeral start negative (whole ++ (fraction ++ (exponent ++ rest))) =
      if fraction.isEmpty && exponent.isEmpty then
        if digitLimit < whole.length then .error (.tooManyDigits whole.length)
        else .ok (.int (signed negative whole), rest)
      else .ok (.float (.ofScientific negative ⟨digitsValue (whole ++ places), value - places.length⟩),
        rest) := by
  have hdigit : StopsAt isDigit rest := stopsAt_of_numeral (fun c h => (not_numeral h).1) hrest
  have hpoint : StopsAt (· == '.') rest :=
    stopsAt_of_numeral (fun c h => (not_numeral h).2.1) hrest
  have hpoint' : StopsAt (· == '.') (exponent ++ rest) := by
    cases he with
    | absent => exact hpoint
    | present hmark => rcases hmark with rfl | rfl <;> exact stopsAt_cons rfl
  have hdigit' := stopsAt_exponent he hdigit
  have hread := readDecimal_parts hw.toIsDigits hf he
  unfold readNumeral
  simp only [takeWhole_eq hw (stopsAt_fraction hf hdigit'), List.drop_left, hw.isEmpty,
    takeFraction_eq hf hdigit' hpoint', takeExponent_eq he hrest, hread, Bool.false_eq_true, if_false,
    signed]

/-- An integer that has not too many digits is read. -/
theorem readNumeral_int (hw : IsWhole whole) (hlimit : whole.length ≤ digitLimit)
    (hrest : StopsAt isNumeral rest) :
    readNumeral start negative (whole ++ rest) = .ok (.int (signed negative whole), rest) := by
  have h : readNumeral start negative (whole ++ rest) = if digitLimit < whole.length then
      .error (.tooManyDigits whole.length) else .ok (.int (signed negative whole), rest) :=
    readNumeral_eq hw .absent .absent hrest
  rw [h, if_neg (Nat.not_lt.mpr hlimit)]

theorem ofScientific_pad (d : Scientific) (zeros : Nat) :
    Binary64.ofScientific negative ⟨d.digits * 10 ^ zeros, d.exponent - zeros⟩ =
      Binary64.ofScientific negative d := by
  rw [Binary64.ofScientific, Binary64.ofScientific, Magnitude.ofScientific?_pad]

/-- A text with the digits of a decimal gives the number nearest to it. -/
theorem readNumeral_of_writes {d : Scientific} {text : List Char} (h : Writes d text)
    (hrest : StopsAt isNumeral rest) :
    readNumeral start negative (text ++ rest) = .ok (.float (.ofScientific negative d), rest) := by
  cases h with
  | @parts whole fraction places exponent value zeros hw hf he hpresent hdigits hvalue =>
    have hboth : ¬ (fraction.isEmpty && exponent.isEmpty) = true := by
      rw [Bool.and_eq_true, List.isEmpty_iff, List.isEmpty_iff]
      exact fun hempty => hpresent.elim (· hempty.1) (· hempty.2)
    rw [List.append_assoc, List.append_assoc, readNumeral_eq hw hf he hrest, if_neg hboth, hdigits,
      hvalue, ofScientific_pad]

end QuerySchema.Json

namespace QuerySchema.Decimal.Magnitude

theorem eq_zero {x : Magnitude} (h : x.significand = 0) : x = zero := by
  obtain ⟨significand, exponent, hlt, hle, hge, hnormal⟩ := x
  obtain rfl : significand = 0 := h
  obtain rfl : exponent = -1074 := hnormal.resolve_left (by decide)
  rfl

/-- The text of a magnitude is that of a decimal which reads back to it. -/
theorem exists_writes_text (x : Magnitude) : ∃ d, Writes d x.text ∧ ofScientific? d = some x := by
  by_cases hx : x.significand = 0
  · refine ⟨⟨0, 0⟩, ?_, (eq_zero hx).symm ▸ rfl⟩
    rw [text, if_pos hx]
    exact .point 1 (isWhole_decimalDigits 0) (isDigits_decimalDigits 0) rfl rfl
  · have hback := ofScientific?_shortest x hx
    refine ⟨x.shortest, ?_, hback⟩
    rw [text, if_neg hx]
    refine writes_written fun hdigits => hx ?_
    rw [ofScientific?, if_pos hdigits] at hback
    exact Option.some.inj hback ▸ rfl

end QuerySchema.Decimal.Magnitude

namespace QuerySchema.Json

open Decimal

variable {rest start : List Char} {negative : Bool}

/-- The text of a magnitude gives the magnitude. -/
theorem readNumeral_text (x : Magnitude) (hrest : StopsAt isNumeral rest) :
    readNumeral start negative (x.text ++ rest) = .ok (.float (.finite negative x), rest) := by
  obtain ⟨d, hwrites, hback⟩ := x.exists_writes_text
  rw [readNumeral_of_writes hwrites hrest, Binary64.ofScientific, hback]

end QuerySchema.Json
