import QuerySchema.Json.Reader
import QuerySchema.Json.Writer

/-!
Strings that are written are read back.

Inside a string a character stands for itself, behind a backslash, or as an escape of one unit or of
two. Reading takes one such piece at a time. An escape of a first half is followed by that of its
second half and by nothing else, so the reader joins just the halves that belong together.

What is proved:
  1. `unit?_hexDigits`: four digits give the unit they were written for.
  2. `readString_stringChar`: each written character is read as one character.
  3. `readString_written`: a written string is read up to its closing quote.
  4. `isPlain_stringText`: a written string is printable ASCII.
-/

namespace QuerySchema.Json

open Text

/-! ## Escapes of units -/

theorem hexValue?_hexDigit : ∀ value < 16, hexValue? (hexDigit value) = some value := by decide

theorem hexDigits_four (n : Nat) : hexDigits 4 n =
    [hexDigit (n / 4096 % 16), hexDigit (n / 256 % 16), hexDigit (n / 16 % 16), hexDigit (n % 16)] := by
  show [hexDigit (n / 4096 % 16), hexDigit (n / 256 % 16), hexDigit (n / 16 % 16),
    hexDigit (n / 1 % 16)] = _
  rw [Nat.div_one]

/-- Four digits give the unit they were written for. -/
theorem unit?_hexDigits {n : Nat} (h : n < 0x10000) :
    unit? (hexDigit (n / 4096 % 16)) (hexDigit (n / 256 % 16)) (hexDigit (n / 16 % 16))
      (hexDigit (n % 16)) = some n := by
  have hdigit (k : Nat) : hexValue? (hexDigit (k % 16)) = some (k % 16) :=
    hexValue?_hexDigit _ (Nat.mod_lt _ (by decide))
  simp only [unit?, hdigit, Option.bind_eq_bind, Option.bind_some, Option.pure_def,
    Option.some.injEq]
  omega

theorem toNat_bounds (c : Char) : c.toNat < 0xD800 ∨ 0xDFFF < c.toNat ∧ c.toNat < 0x110000 :=
  c.valid

/-- A character is no half of a pair. -/
theorem not_half (c : Char) : isFirstHalf c.toNat = false ∧ isSecondHalf c.toNat = false := by
  have hbounds := toNat_bounds c
  simp only [isFirstHalf, isSecondHalf, Bool.and_eq_false_iff, decide_eq_false_iff_not]
  omega

theorem unitChar_toNat (c : Char) : unitChar c.toNat = c := by
  simp [unitChar, not_half c, Char.ofNat_toNat]

/-- The halves of a character above U+FFFF are units that belong together. -/
theorem unitPair_facts {c : Char} (h : 0x10000 ≤ c.toNat) :
    isFirstHalf (unitPair c).1 = true ∧ isSecondHalf (unitPair c).2 = true ∧
      pairChar (unitPair c).1 (unitPair c).2 = c := by
  have hbounds := toNat_bounds c
  refine ⟨?_, ?_, ?_⟩
  · rw [isFirstHalf, Bool.and_eq_true, decide_eq_true_eq, decide_eq_true_eq, unitPair]
    omega
  · rw [isSecondHalf, Bool.and_eq_true, decide_eq_true_eq, decide_eq_true_eq, unitPair]
    omega
  · have hvalue : 0x10000 + ((unitPair c).1 - 0xD800) * 0x400 + ((unitPair c).2 - 0xDC00) =
        c.toNat := by
      simp only [unitPair]
      omega
    rw [pairChar, hvalue, Char.ofNat_toNat]

/-! ## Reading what is written -/

variable {opened : Nat} {tail : List Char}

theorem readString_unitEscape {n : Nat} (hn : n < 0x10000) (htail : tail ≠ [])
    (hno : secondHalf? n tail = .ok none) :
    readString opened (unitEscape n ++ tail) = consChar (unitChar n) (readString opened tail) := by
  obtain ⟨next, rest, rfl⟩ := List.exists_cons_of_ne_nil htail
  rw [unitEscape, hexDigits_four]
  simp only [List.cons_append, List.nil_append]
  rw [readString]
  simp only [unit?_hexDigits hn, hno]

theorem readString_pair {first second : Nat} (hfirst : isFirstHalf first = true)
    (hsecond : isSecondHalf second = true) (htail : tail ≠ []) :
    readString opened (unitEscape first ++ unitEscape second ++ tail) =
      consChar (pairChar first second) (readString opened tail) := by
  obtain ⟨next, rest, rfl⟩ := List.exists_cons_of_ne_nil htail
  have hn : first < 0x10000 := by
    simp only [isFirstHalf, Bool.and_eq_true, decide_eq_true_eq] at hfirst
    omega
  have hm : second < 0x10000 := by
    simp only [isSecondHalf, Bool.and_eq_true, decide_eq_true_eq] at hsecond
    omega
  rw [unitEscape, unitEscape, hexDigits_four, hexDigits_four]
  simp only [List.cons_append, List.nil_append]
  rw [readString]
  simp only [unit?_hexDigits hn, secondHalf?, hfirst, unit?_hexDigits hm, hsecond, if_true]
  rfl

/-- Each written character is read as one character. Something has to stand behind it: an escape at
the end of a text is none. -/
theorem readString_stringChar (c : Char) (htail : tail ≠ []) :
    readString opened (stringChar c ++ tail) = consChar c (readString opened tail) := by
  have hshort (mark plain : Char) (hmark : mark ≠ 'u') (hplain : shortEscape? mark = some plain) :
      readString opened (['\\', mark] ++ tail) = consChar plain (readString opened tail) := by
    obtain ⟨next, rest, rfl⟩ := List.exists_cons_of_ne_nil htail
    simp [readString, hmark, hplain]
  -- a short escape, the character itself, one unit, or a pair of halves
  unfold stringChar
  split
  · next h => exact h ▸ hshort '"' '"' (by decide) rfl
  split
  · next h => exact h ▸ hshort '\\' '\\' (by decide) rfl
  split
  · next h => exact h ▸ hshort 'n' '\n' (by decide) rfl
  split
  · next h => exact h ▸ hshort 'r' '\r' (by decide) rfl
  split
  · next h => exact h ▸ hshort 't' '\t' (by decide) rfl
  split
  · next h => exact h ▸ hshort 'f' '\x0c' (by decide) rfl
  split
  · next h => exact h ▸ hshort 'b' '\x08' (by decide) rfl
  split
  · next _ hbackslash _ _ _ _ _ hprintable =>
    simp only [Bool.and_eq_true, decide_eq_true_eq] at hprintable
    have hcontrol : ¬ c.toNat < 0x20 := by omega
    simp [readString, hbackslash, hcontrol]
  split
  · next hsmall =>
    have hno : secondHalf? c.toNat tail = .ok none := by
      unfold secondHalf?
      split
      · rw [(not_half c).1]
        rfl
      · rfl
    rw [readString_unitEscape hsmall htail hno, unitChar_toNat]
  · next hlarge =>
    obtain ⟨hfirst, hsecond, hpair⟩ := unitPair_facts (Nat.le_of_not_lt hlarge)
    rw [readString_pair hfirst hsecond htail, hpair]

/-- A written string is read up to its closing quote. -/
theorem readString_written (text rest : List Char) :
    readString opened (text.flatMap stringChar ++ '"' :: rest) = .ok (text, rest) := by
  induction text with
  | nil => rw [List.flatMap_nil, List.nil_append, readString]
  | cons c text ih =>
    rw [List.flatMap_cons, List.append_assoc, readString_stringChar c (by simp), ih]
    rfl

/-! ## Printable ASCII -/

/-- A character is printable ASCII: from the space to the tilde. -/
def IsPlain (c : Char) : Prop := 0x20 ≤ c.toNat ∧ c.toNat ≤ 0x7E

instance (c : Char) : Decidable (IsPlain c) := inferInstanceAs (Decidable (_ ∧ _))

theorem forall_isPlain {cs : List Char} (h : (cs.all fun c => decide (IsPlain c)) = true) :
    ∀ c ∈ cs, IsPlain c := by
  simpa using h

theorem isPlain_hexDigit : ∀ value < 16, IsPlain (hexDigit value) := by decide

theorem isPlain_unitEscape (n : Nat) : ∀ c ∈ unitEscape n, IsPlain c := by
  have hdigit (k : Nat) : IsPlain (hexDigit (k % 16)) :=
    isPlain_hexDigit _ (Nat.mod_lt _ (by decide))
  rw [unitEscape, hexDigits_four]
  refine List.forall_mem_cons.mpr ⟨by decide, List.forall_mem_cons.mpr ⟨by decide, ?_⟩⟩
  simp [hdigit]

theorem isPlain_stringChar (c : Char) : ∀ d ∈ stringChar c, IsPlain d := by
  unfold stringChar
  -- the seven characters with a short escape
  iterate 7 (split; next => exact forall_isPlain (by decide))
  split
  · next hprintable =>
    simp only [Bool.and_eq_true, decide_eq_true_eq] at hprintable
    exact List.forall_mem_singleton.mpr hprintable
  split
  · exact isPlain_unitEscape _
  · exact List.forall_mem_append.mpr ⟨isPlain_unitEscape _, isPlain_unitEscape _⟩

/-- A written string is printable ASCII. -/
theorem isPlain_stringText (text : String) : ∀ c ∈ stringText text, IsPlain c := by
  rw [stringText]
  refine List.forall_mem_cons.mpr ⟨by decide, List.forall_mem_append.mpr ⟨?_, forall_isPlain (by decide)⟩⟩
  exact List.forall_mem_flatMap.mpr fun c _ => isPlain_stringChar c

end QuerySchema.Json
