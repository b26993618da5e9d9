import QuerySchema.Decimal.Literal

/-!
The text of a number, part by part.

A number is digits, then a fraction and an exponent where it has them: a fraction is a point and
digits, an exponent is a mark, a sign where it has one, and digits. `IsDigits`, `IsFraction` and
`IsExponent` describe the parts; GraphQL and JSON have them in common.

What is proved:
  1. `takeWhile_append_stop`: the longest start of one sort of characters ends where another sort
     comes.
  2. `readDecimal_parts`: a number that is written in parts is read part by part.
  3. `readInteger_of_parts`: an integer is read unless it has too many digits.
  4. `readNumber_of_isFloatLiteral`: a number with a fraction or an exponent is always read.
-/

namespace QuerySchema.Decimal

open Text

/-! ## Characters of one sort -/

variable {α : Type} {p : α → Bool}

/-- A list does not start with an element of a sort. -/
def StopsAt (p : α → Bool) (rest : List α) : Prop := ∀ a ∈ rest.head?, p a = false

theorem stopsAt_nil : StopsAt p [] := fun _ h => nomatch h

theorem stopsAt_cons {a : α} {rest : List α} (h : p a = false) : StopsAt p (a :: rest) :=
  fun _ hb => Option.some.inj hb ▸ h

theorem takeWhile_of_stopsAt {rest : List α} (h : StopsAt p rest) : rest.takeWhile p = [] := by
  cases rest with
  | nil => rfl
  | cons a rest => exact List.takeWhile_cons_of_neg (by rw [h a rfl]; exact Bool.false_ne_true)

/-- The elements of a sort at the start of a list end where another element comes. -/
theorem takeWhile_append_stop {run rest : List α} (hrun : ∀ a ∈ run, p a = true)
    (hrest : StopsAt p rest) : (run ++ rest).takeWhile p = run := by
  rw [List.takeWhile_append_of_pos hrun, takeWhile_of_stopsAt hrest, List.append_nil]

theorem takeWhile_eq_self {run : List α} (h : ∀ a ∈ run, p a = true) : run.takeWhile p = run := by
  simpa using takeWhile_append_stop h stopsAt_nil

theorem dropWhile_append_stop {run rest : List α} (hrun : ∀ a ∈ run, p a = true)
    (hrest : StopsAt p rest) : (run ++ rest).dropWhile p = rest := by
  rw [List.dropWhile_append_of_pos hrun]
  cases rest with
  | nil => rfl
  | cons a rest => exact List.dropWhile_cons_of_neg (by rw [hrest a rfl]; exact Bool.false_ne_true)

theorem dropWhile_of_stopsAt {rest : List α} (h : StopsAt p rest) : rest.dropWhile p = rest :=
  @dropWhile_append_stop α p [] rest (fun _ ha => nomatch ha) h

/-! ## Digits -/

theorem isDigit_iff {c : Char} : isDigit c = true ↔ 0x30 ≤ c.toNat ∧ c.toNat ≤ 0x39 := by
  simp only [isDigit, Bool.and_eq_true, decide_eq_true_eq, Char.le_def, UInt32.le_iff_toNat_le]
  exact Iff.rfl

/-- Digits, at least one. -/
structure IsDigits (cs : List Char) : Prop where
  ne_nil : cs ≠ []
  all : ∀ c ∈ cs, isDigit c = true

theorem IsDigits.exists_cons {cs : List Char} (h : IsDigits cs) :
    ∃ c rest, cs = c :: rest ∧ isDigit c = true := by
  cases cs with
  | nil => exact absurd rfl h.ne_nil
  | cons c rest => exact ⟨c, rest, rfl, h.all c List.mem_cons_self⟩

theorem IsDigits.isEmpty {cs : List Char} (h : IsDigits cs) : cs.isEmpty = false :=
  List.isEmpty_eq_false_iff.mpr h.ne_nil

theorem IsDigits.filter {cs : List Char} (h : IsDigits cs) : cs.filter isDigit = cs :=
  List.filter_eq_self.mpr h.all

/-- Digits that are not led by a zero, or a zero alone. -/
structure IsWhole (cs : List Char) : Prop extends IsDigits cs where
  led : ∀ rest, cs = '0' :: rest → rest = []

/-! ## The parts of a number -/

/-- The fraction of a number, with its digits. -/
inductive IsFraction : (text places : List Char) → Prop where
  | absent : IsFraction [] []
  | present {places : List Char} (h : IsDigits places) : IsFraction ('.' :: places) places

/-- A sign as a text. -/
inductive IsSign : (text : List Char) → (negative : Bool) → Prop where
  | absent : IsSign [] false
  | plus : IsSign ['+'] false
  | minus : IsSign ['-'] true

/-- A number of digits with a sign. -/
def signed (negative : Bool) (digits : List Char) : Int :=
  if negative then -(digitsValue digits : Int) else digitsValue digits

/-- The exponent of a number, with its value. -/
inductive IsExponent : (text : List Char) → (value : Int) → Prop where
  | absent : IsExponent [] 0
  | present {mark : Char} {sign digits : List Char} {negative : Bool}
    (hmark : mark = 'e' ∨ mark = 'E') (hsign : IsSign sign negative) (hdigits : IsDigits digits) :
    IsExponent (mark :: (sign ++ digits)) (signed negative digits)

variable {whole fraction exponent places : List Char} {value : Int}

theorem takeSign_cons {sign rest : List Char} {c : Char} {negative : Bool} (hs : IsSign sign negative)
    (hc : isDigit c = true) : takeSign (sign ++ c :: rest) = (negative, c :: rest) := by
  cases hs with
  | plus => rfl
  | minus => rfl
  | absent =>
    unfold takeSign
    split
    · next he => cases he; exact absurd hc (by decide)
    · next he => cases he; exact absurd hc (by decide)
    · rfl

theorem takeSign_digits {sign digits : List Char} {negative : Bool} (hs : IsSign sign negative)
    (hd : IsDigits digits) : takeSign (sign ++ digits) = (negative, digits) := by
  obtain ⟨c, rest, rfl, hc⟩ := hd.exists_cons
  exact takeSign_cons hs hc

theorem readExponent_eq (h : IsExponent exponent value) : readExponent exponent = some value := by
  cases h with
  | absent => rfl
  | @present mark sign digits negative hmark hsign hdigits =>
    have hall : digits.all isDigit = true := List.all_eq_true.mpr hdigits.all
    have hm : (mark == 'e' || mark == 'E') = true := by simpa using hmark
    simp only [readExponent, takeSign_digits hsign hdigits, hm, hdigits.isEmpty, hall, signed,
      Bool.not_false, Bool.and_self, if_true]

theorem stopsAt_exponent (h : IsExponent exponent value) {rest : List Char}
    (hrest : StopsAt isDigit rest) : StopsAt isDigit (exponent ++ rest) := by
  cases h with
  | absent => exact hrest
  | present hmark => rcases hmark with rfl | rfl <;> exact stopsAt_cons rfl

theorem stopsAt_fraction (h : IsFraction fraction places) {rest : List Char}
    (hrest : StopsAt isDigit rest) : StopsAt isDigit (fraction ++ rest) := by
  cases h with
  | absent => exact hrest
  | present => exact stopsAt_cons rfl

/-- A number that is written in parts is read part by part. -/
theorem readDecimal_parts (hw : IsDigits whole) (hf : IsFraction fraction places)
    (he : IsExponent exponent value) :
    readDecimal (whole ++ fraction ++ exponent) =
      some ⟨digitsValue (whole ++ places), value - places.length⟩ := by
  have hstop : StopsAt isDigit exponent := by
    simpa using stopsAt_exponent he stopsAt_nil
  have hwhole : (whole ++ (fraction ++ exponent)).takeWhile isDigit = whole :=
    takeWhile_append_stop hw.all (stopsAt_fraction hf hstop)
  rw [List.append_assoc]
  unfold readDecimal
  simp only [hwhole, List.drop_left, hw.isEmpty, Bool.false_and, Bool.false_eq_true, if_false]
  cases hf with
  | absent =>
    have hexponent := readExponent_eq he
    cases he with
    | absent => simp only [List.append_nil, hexponent, Option.map_some]
    | present hmark => rcases hmark with rfl | rfl <;> exact congrArg (Option.map _) hexponent
  | present hp =>
    simp only [List.cons_append, takeWhile_append_stop hp.all hstop,
      dropWhile_append_stop hp.all hstop, readExponent_eq he, Option.map_some]

/-! ## Numbers in GraphQL text -/

/-- The text of an integer: a minus sign where it is negative, and digits. -/
def IsIntLiteral (text : String) : Prop :=
  ∃ sign negative whole, text.toList = sign ++ whole ∧ sign ≠ ['+'] ∧ IsSign sign negative ∧
    IsWhole whole

/-- The text of a number with a fraction, an exponent or both. -/
def IsFloatLiteral (text : String) : Prop :=
  ∃ sign negative whole fraction places exponent value,
    text.toList = sign ++ (whole ++ fraction ++ exponent) ∧ sign ≠ ['+'] ∧ IsSign sign negative ∧
      IsWhole whole ∧ IsFraction fraction places ∧ IsExponent exponent value ∧
      (fraction ≠ [] ∨ exponent ≠ [])

/-- The number of digits in a text. -/
def digitCount (text : String) : Nat := (text.toList.filter isDigit).length

/-- The characters that numbers are written with. -/
def isNumeral (c : Char) : Bool :=
  isDigit c || c == '-' || c == '+' || c == '.' || c == 'e' || c == 'E'

theorem isNumeral_of_isDigit {c : Char} (h : isDigit c = true) : isNumeral c = true := by
  simp [isNumeral, h]

theorem isNumeral_of_isSign {sign : List Char} {negative : Bool} (h : IsSign sign negative) :
    ∀ c ∈ sign, isNumeral c = true := by
  cases h <;> simp [isNumeral]

theorem isNumeral_fraction (h : IsFraction fraction places) :
    ∀ c ∈ fraction, isNumeral c = true := by
  cases h with
  | absent => simp
  | present hp =>
    exact List.forall_mem_cons.mpr ⟨rfl, fun c hc => isNumeral_of_isDigit (hp.all c hc)⟩

theorem isNumeral_exponent (h : IsExponent exponent value) :
    ∀ c ∈ exponent, isNumeral c = true := by
  cases h with
  | absent => simp
  | present hmark hsign hdigits =>
    refine List.forall_mem_cons.mpr ⟨by rcases hmark with rfl | rfl <;> rfl, ?_⟩
    refine List.forall_mem_append.mpr ⟨isNumeral_of_isSign hsign, fun c hc => ?_⟩
    exact isNumeral_of_isDigit (hdigits.all c hc)

/-- A numeral is printable ASCII, no blank and no underscore. -/
theorem numeral_facts {c : Char} (h : isNumeral c = true) :
    0x20 < c.toNat ∧ c.toNat < 0x7F ∧ isAsciiBlank c = false ∧ c ≠ '_' := by
  simp only [isNumeral, Bool.or_eq_true, beq_iff_eq, isDigit_iff] at h
  rcases h with ((((h | rfl) | rfl) | rfl) | rfl) | rfl
  · refine ⟨by omega, by omega, ?_, ?_⟩
    · have h9 : ¬ c.toNat ≤ 0x0D := by omega
      have h20 : c.toNat ≠ 0x20 := by omega
      simp [isAsciiBlank, h9, h20]
    · rintro rfl
      exact absurd h (by decide)
  all_goals decide

theorem toAscii_eq_self {cs : List Char} (h : ∀ c ∈ cs, isNumeral c = true) : toAscii cs = cs := by
  refine (List.map_congr_left fun c hc => ?_).trans (List.map_id cs)
  have hascii : c.toNat < 0x80 := by
    have := (numeral_facts (h c hc)).2.1
    omega
  rw [if_pos hascii]
  rfl

theorem underscoresBetween_digits {before : Char} (hb : before ≠ '_') {digits : List Char}
    (h : ∀ c ∈ digits, isDigit c = true) : underscoresBetween before digits = true := by
  induction digits generalizing before with
  | nil => simpa [underscoresBetween] using hb
  | cons c rest ih =>
    obtain ⟨hc, hrest⟩ := List.forall_mem_cons.mp h
    have hne : c ≠ '_' := (numeral_facts (isNumeral_of_isDigit hc)).2.2.2
    simp [underscoresBetween, hne, hb, ih hne hrest]

/-- An integer is read, with its sign, unless it has more digits than the limit allows. -/
theorem readInteger_of_parts {text : String} {sign whole : List Char} {negative : Bool}
    (htext : text.toList = sign ++ whole) (hsign : IsSign sign negative) (hw : IsDigits whole) :
    digitCount text = whole.length ∧ readInteger text =
      if digitLimit < whole.length then .error (.tooManyDigits whole.length)
      else .ok (signed negative whole) := by
  have hnumeral : ∀ c ∈ sign ++ whole, isNumeral c = true :=
    List.forall_mem_append.mpr ⟨isNumeral_of_isSign hsign, fun c hc =>
      isNumeral_of_isDigit (hw.all c hc)⟩
  have hblank : StopsAt isAsciiBlank (sign ++ whole) := fun c hc =>
    (numeral_facts (hnumeral c (List.mem_of_mem_head? hc))).2.2.1
  have hrun : whole.takeWhile (fun c => isDigit c || c == '_') = whole :=
    takeWhile_eq_self fun c hc => by rw [hw.all c hc]; rfl
  constructor
  · have hplain : sign.filter isDigit = [] := by cases hsign <;> rfl
    rw [digitCount, htext, List.filter_append, hplain, hw.filter, List.nil_append]
  · unfold readInteger
    rw [htext, toAscii_eq_self hnumeral, dropWhile_of_stopsAt hblank, takeSign_digits hsign hw]
    simp only [hrun, hw.filter, hw.isEmpty, underscoresBetween_digits (by decide : ' ' ≠ '_') hw.all,
      Bool.not_true, Bool.or_self, Bool.false_eq_true, if_false, List.drop_length, List.all_nil,
      if_true, signed]

theorem stripChars_eq_self {drop : Char → Bool} {cs : List Char} (h : ∀ c ∈ cs, drop c = false) :
    stripChars drop cs = cs := by
  have hdrop : ∀ ds : List Char, (∀ c ∈ ds, drop c = false) → ds.dropWhile drop = ds :=
    fun ds hds => dropWhile_of_stopsAt fun c hc => hds c (List.mem_of_mem_head? hc)
  rw [stripChars, hdrop cs h, hdrop cs.reverse fun c hc => h c (List.mem_reverse.mp hc),
    List.reverse_reverse]

/-- A digit is its own small letter, so no word that starts with a letter starts with one. -/
theorem word_ne {c : Char} {rest : List Char} {word : String} (hc : isDigit c = true)
    (hword : StopsAt isDigit word.toList) : String.ofList ((c :: rest).map Char.toLower) ≠ word := by
  have hlower : c.toLower = c := by
    have hle := (isDigit_iff.mp hc).2
    have hA : ¬ (c.val ≥ 'A'.val ∧ c.val ≤ 'Z'.val) := fun h =>
      absurd (Nat.le_trans (UInt32.le_iff_toNat_le.mp h.1) hle) (by decide)
    exact dif_neg hA
  rintro rfl
  rw [String.toList_ofList] at hword
  have hnot : isDigit c.toLower = false := hword c.toLower rfl
  rw [hlower, hc] at hnot
  cases hnot

/-- A number in parts is no word. -/
theorem readUnsigned_parts {negative : Bool} (hw : IsDigits whole) (hf : IsFraction fraction places)
    (he : IsExponent exponent value) :
    readUnsigned negative (whole ++ fraction ++ exponent) = some (Binary64.ofScientific negative
      ⟨digitsValue (whole ++ places), value - places.length⟩) := by
  have hread := readDecimal_parts hw hf he
  obtain ⟨c, rest, rfl, hc⟩ := hw.exists_cons
  rw [readUnsigned, hread]
  have hne : ∀ word : String, StopsAt isDigit word.toList →
      String.ofList (((c :: rest) ++ fraction ++ exponent).map Char.toLower) ≠ word :=
    fun _ hword => word_ne hc hword
  have hinf := hne "inf" (stopsAt_cons rfl)
  have hinfinity := hne "infinity" (stopsAt_cons rfl)
  have hnan := hne "nan" (stopsAt_cons rfl)
  simp only [hinf, hinfinity, hnan, or_self, if_false, Option.map_some]

/-- The text of a number in parts, whose sign is at most a minus, is read as a number. -/
theorem readNumber_of_isFloatLiteral {text : String} (h : IsFloatLiteral text) :
    ∃ x, readNumber text = .ok x := by
  obtain ⟨sign, negative, whole, fraction, places, exponent, value, htext, -, hsign, hw, hf, he,
    -⟩ := h
  have hnumeral : ∀ c ∈ sign ++ (whole ++ fraction ++ exponent), isNumeral c = true := by
    refine List.forall_mem_append.mpr ⟨isNumeral_of_isSign hsign, List.forall_mem_append.mpr
      ⟨List.forall_mem_append.mpr ⟨fun c hc => isNumeral_of_isDigit (hw.all c hc),
        isNumeral_fraction hf⟩, isNumeral_exponent he⟩⟩
  have hplain : ∀ c ∈ sign ++ (whole ++ fraction ++ exponent), (c != '_') = true := fun c hc =>
    bne_iff_ne.mpr (numeral_facts (hnumeral c hc)).2.2.2
  have hcontains : (sign ++ (whole ++ fraction ++ exponent)).contains '_' = false := by
    rw [List.contains_eq_mem, decide_eq_false_iff_not]
    exact fun hmem => absurd (hplain '_' hmem) (by decide)
  have htake : takeSign (sign ++ (whole ++ fraction ++ exponent)) =
      (negative, whole ++ fraction ++ exponent) := by
    obtain ⟨c, rest, rfl, hc⟩ := hw.exists_cons
    exact takeSign_cons hsign hc
  unfold readNumber
  rw [htext, toAscii_eq_self hnumeral,
    stripChars_eq_self fun c hc => (numeral_facts (hnumeral c hc)).2.2.1]
  simp only [hcontains, List.filter_eq_self.mpr hplain, htake, readUnsigned_parts hw.toIsDigits hf he,
    Bool.false_and, Bool.false_eq_true, if_false]
  exact ⟨_, rfl⟩

end QuerySchema.Decimal
