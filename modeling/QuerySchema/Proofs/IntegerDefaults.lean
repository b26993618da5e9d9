import QuerySchema.Proofs.ConversionText
import QuerySchema.Proofs.DefaultPlaces

/-!
Integers as defaults.

An integer literal is read to an integer of any size, and an integer is written with all its digits.
So the text of a document shows the literal again, digit by digit; only the sign of a zero is lost.
There is a bound on the number of digits, which is the same in both directions.

What is proved:
  1. `intText_of_literal`: what is written for an integer that was read from a literal, and
     `printedInteger_inj`: for which literals the same is written.
  2. `Makes.text_of_frame`: the text of a conversion around an integer in a place of its document.
  3. `integer_defaults_kept`: what is printed for a literal that is the default of a variable.
-/

namespace QuerySchema.Decimal

/-! ## Integers and their texts -/

/-- An integer that is made from digits is written with them, and with a minus sign if it has one
and is not zero. -/
theorem intText_signed (negative : Bool) {whole : List Char} (h : IsWhole whole) :
    Json.intText (signed negative whole) =
      if negative = true ∧ whole ≠ ['0'] then '-' :: whole else whole := by
  have hdigits := decimalDigits_digitsValue h
  have hpos : 0 < digitsValue whole ↔ whole ≠ ['0'] :=
    Nat.pos_iff_ne_zero.trans (not_congr (digitsValue_eq_zero h))
  unfold Json.intText signed
  cases negative with
  | false => simp [hdigits, Int.not_lt.mpr (Int.natCast_nonneg _)]
  | true => simp [hdigits, hpos]

/-- How an integer literal is printed: as it stands, unless it is a zero with a sign. -/
def printedInteger (literal : String) : String := if literal = "-0" then "0" else literal

/-- An integer literal without too many digits is read, and what is read is printed as the literal
stands, unless it is a zero with a sign. -/
theorem intText_of_literal {literal : String} (h : IsIntLiteral literal)
    (hlimit : digitCount literal ≤ digitLimit) : ∃ n, readInteger literal = .ok n ∧
      Json.intText n = (printedInteger literal).toList := by
  obtain ⟨sign, negative, whole, htext, hplus, hsign, hwhole⟩ := h
  obtain ⟨hcount, hread⟩ := readInteger_of_parts htext hsign hwhole.toIsDigits
  rw [hcount] at hlimit
  rw [if_neg (Nat.not_lt.mpr hlimit)] at hread
  refine ⟨signed negative whole, hread, ?_⟩
  have hzero : literal = "-0" ↔ sign ++ whole = ['-', '0'] := by
    rw [← htext, ← String.toList_inj]
    rfl
  rw [intText_signed negative hwhole, printedInteger]
  cases hsign with
  | plus => exact absurd rfl hplus
  | absent =>
    have hne : ¬ literal = "-0" := by
      rw [hzero]
      rintro he
      exact absurd (hwhole.all '-' (by rw [← List.nil_append whole, he]; simp)) (by decide)
    rw [if_neg (by simp), if_neg hne, htext, List.nil_append]
  | minus =>
    by_cases hone : whole = ['0']
    · rw [if_neg (by simp [hone]), if_pos (hzero.mpr (by rw [hone]; rfl)), hone]
      rfl
    · rw [if_pos ⟨rfl, hone⟩, if_neg fun he => hone (List.cons.inj (hzero.mp he)).2, htext]
      rfl

/-- Two literals are printed alike only if they are the same or both are zero. -/
theorem printedInteger_inj {literal other : String} :
    printedInteger literal = printedInteger other ↔
      literal = other ∨ literal = "0" ∧ other = "-0" ∨ literal = "-0" ∧ other = "0" := by
  unfold printedInteger
  split
  · next h =>
    subst h
    split
    · next h => simp [h]
    · next h => simp [eq_comm, h]
  · next h =>
    split
    · next h' => simp [h, h']
    · next h' => simp [h, h']

theorem isIntLiteral_of_digits {literal : String} {negative : Bool} (sign : List Char) (c : Char)
    (whole : List Char) (hliteral : literal.toList = sign ++ c :: whole)
    (hsign : IsSign sign negative) (hplus : sign ≠ ['+'])
    (h : (c :: whole).all isDigit = true) (hc : c ≠ '0' ∨ whole = []) :
    IsIntLiteral literal ∧ digitCount literal = whole.length + 1 := by
  have hwhole : IsWhole (c :: whole) := by
    refine ⟨⟨List.cons_ne_nil _ _, List.all_eq_true.mp h⟩, fun rest he => ?_⟩
    obtain ⟨rfl, rfl⟩ := List.cons.inj he
    exact hc.resolve_left fun hne => hne rfl
  exact ⟨⟨sign, negative, c :: whole, hliteral, hplus, hsign, hwhole⟩,
    (readInteger_of_parts hliteral hsign hwhole.toIsDigits).1⟩

end QuerySchema.Decimal

namespace QuerySchema.Schema

open Decimal GraphQL Json

/-! ## What is printed for a default -/

variable {converter : Converter} {place : DefaultPlace}
  {conversion : Value → Except BuildError Conversion}

/-- Without too many digits, a literal gives a default, which is printed like the literal. -/
theorem defaultOf_int {literal : String} (h : IsIntLiteral literal)
    (hlimit : digitCount literal ≤ digitLimit) :
    ∃ n, defaultOf (.int literal) = .ok (some (.int n)) ∧
      intText n = (printedInteger literal).toList := by
  obtain ⟨n, hread, htext⟩ := intText_of_literal h hlimit
  refine ⟨n, ?_, htext⟩
  rw [defaultOf, integerDefault, hread]

theorem eq_written_of_toText {value : Json} {indent : Option Int} {text : String}
    (h : value.toText indent = .ok text) :
    text = String.ofList (written (Style.ofIndent indent) 0 value) := by
  unfold Json.toText at h
  split at h
  · cases h
  · split at h
    · cases h
    · exact (Except.ok.inj h).symm

theorem Converting.makes (h : Converting converter place conversion) {value : Value}
    {c : Conversion} (hc : conversion value = .ok c) : converter.Makes c := by
  cases h with
  | alone hs => exact .definition (hs value) hc
  | within hs haround hnew => exact .document (place.spelled_document hs haround value) hc

/-- The text of a conversion, with an integer in a place of its document. -/
theorem Converter.Makes.text_of_frame {c : Conversion} (h : converter.Makes c)
    {indent : Option Int} (hindent : ∀ width ∈ indent, Converter.IsIndentation width)
    {frame : Frame} {before after : List Char} (hframe : ∀ value,
      written (Style.ofIndent indent) 0 (frame.fill value) = before ++
        (frame.caption ++ written (Style.ofIndent indent) (0 + frame.depth) value) ++ after)
    {n : Int} (hc : c.document.toJson = frame.fill (.int n)) :
    ∃ text, c.text indent = .ok text ∧
      text = String.ofList (before ++ (frame.caption ++ intText n) ++ after) ∧
      readStrict text = .ok c.document.toJson := by
  obtain ⟨text, htext, -, hread⟩ := toText_storable (storable_toJson (isStorable_of_makes h))
    (indentError?_eq_none.mpr hindent)
  exact ⟨text, htext, by rw [eq_written_of_toText htext, hc, hframe, written], hread⟩

/-- A default is printed behind its name. -/
theorem caption_of_path {frame : Frame} {layout : Layout} (h : frame.path = place.path layout) :
    frame.caption = "\"default\": ".toList := by
  rw [Frame.caption, h]
  show stringText "default" ++ [':', ' '] = _
  decide

/-- An integer literal that is the last default of a variable is kept digit by digit. If the
operation can be converted with one literal of not too many digits, it can with every other, with
the same diagnostics. The place of the default holds the integer that the literal is, and what is
printed there is the literal as it stands, unless it is a zero with a sign; around it the text is
the same for every literal. So there is a text for every literal, it reads back as the document,
and two literals have the same text only if both are zero. -/
theorem integer_defaults_kept (h : Converting converter place conversion) {first : String}
    (hfirst : IsIntLiteral first) (hlimit : digitCount first ≤ digitLimit) {c : Conversion}
    (hc : conversion (.int first) = .ok c) {indent : Option Int}
    (hindent : ∀ width ∈ indent, Converter.IsIndentation width) :
    ∃ before after : String, ∀ literal, IsIntLiteral literal → digitCount literal ≤ digitLimit →
      ∃ d n text, conversion (.int literal) = .ok d ∧ d.diagnostics = c.diagnostics ∧
        d.document.toJson.descend (place.path converter.layout) = some (.int n) ∧
        String.ofList (intText n) = printedInteger literal ∧
        d.text indent = .ok text ∧
        text = before ++ ("\"default\": " ++ printedInteger literal) ++ after ∧
        readStrict text = .ok d.document.toJson ∧
        ∀ other e, IsIntLiteral other → digitCount other ≤ digitLimit →
          conversion (.int other) = .ok e → (e.text indent = d.text indent ↔
            other = literal ∨ other = "0" ∧ literal = "-0" ∨ other = "-0" ∧ literal = "0") := by
  obtain ⟨given, hgiven, -⟩ := defaultOf_int hfirst hlimit
  obtain ⟨frame, hpath, hall⟩ := h.exists_frame hgiven hc
  obtain ⟨before, after, hframe⟩ := frame.written_fill (Style.ofIndent indent) 0
  have hcaption := caption_of_path hpath
  -- what is said of one literal is said of the other, so the two texts can be compared
  have hone (literal : String) (hl : IsIntLiteral literal)
      (hlimit : digitCount literal ≤ digitLimit) :
      ∃ d n text, conversion (.int literal) = .ok d ∧ d.diagnostics = c.diagnostics ∧
        d.document.toJson = frame.fill (.int n) ∧ intText n = (printedInteger literal).toList ∧
        d.text indent = .ok text ∧ text = String.ofList before ++
          ("\"default\": " ++ printedInteger literal) ++ String.ofList after ∧
        readStrict text = .ok d.document.toJson := by
    obtain ⟨n, hn, hprinted⟩ := defaultOf_int hl hlimit
    obtain ⟨d, hd, hdiagnostics, hjson⟩ := hall _ _ hn
    obtain ⟨text, htext, hshape, hread⟩ := (h.makes hd).text_of_frame hindent hframe hjson
    refine ⟨d, n, text, hd, hdiagnostics, hjson, hprinted, htext, ?_, hread⟩
    rw [hshape, hprinted, hcaption]
    simp only [String.ofList_append, String.ofList_toList]
  refine ⟨String.ofList before, String.ofList after, fun literal hl hlimit => ?_⟩
  obtain ⟨d, n, text, hd, hdiagnostics, hjson, hprinted, htext, hshape, hread⟩ :=
    hone literal hl hlimit
  refine ⟨d, n, text, hd, hdiagnostics, ?_, by rw [hprinted, String.ofList_toList], htext, hshape,
    hread, fun other e ho holimit he => ?_⟩
  · rw [hjson, ← hpath]
    exact frame.descend_fill _
  · obtain ⟨_, _, text', he', -, -, -, hother, hshape', -⟩ := hone other ho holimit
    cases he.symm.trans he'
    rw [htext, hother, ← printedInteger_inj, Except.ok.injEq, hshape, hshape',
      String.append_left_inj, String.append_right_inj, String.append_right_inj]

/-- A query with a default for a variable that an earlier declaration gives a text, and that a later
one declares as a list. -/
def pagePlace : DefaultPlace where
  type := some .query
  name := named "Q"
  earlier := [⟨"from", .named "String", some (.string "first" false), []⟩]
  variableName := "from"
  variableType := .nonNull (.named "Long")
  attached := []
  later := [⟨"size", .named "Int", some (.int "10"), []⟩, ⟨"from", .list (.named "Int"), none, []⟩]
  directives := []
  selectionSet := some [.field none "page" [] [] none]
  isNamed := rfl
  isLast := by
    simp only [List.forall_mem_cons]
    exact ⟨fun h => absurd h (by decide), fun _ => rfl, fun _ h => absurd h List.not_mem_nil⟩

theorem spelled_pagePlace : pagePlace.Spelled := by
  intro value
  have htext (text : String) : (Label.text text).IsText := ⟨text, rfl⟩
  refine ⟨saysText_some "Q", ?_, ?_⟩
  · show ∀ d ∈ pagePlace.declarations value, d.name.IsText
    simp only [DefaultPlace.declarations, pagePlace, List.cons_append, List.nil_append,
      List.forall_mem_cons]
    exact ⟨htext _, htext _, htext _, htext _, fun _ h => absurd h List.not_mem_nil⟩
  · refine List.forall_mem_singleton.mpr (.field (htext _) (fun _ h => ?_) fun _ h => ?_)
    · exact absurd h List.not_mem_nil
    · cases h

/-- An enum in front of the query, and another query of the same name behind it. -/
def pageDocument (value : Value) : Document :=
  pagePlace.document [.enum ⟨named "Unit", .ok none, []⟩]
    [.operation ⟨some .query, named "Q", none, [], some [.field none "g" [] [] none]⟩] value

theorem converting_pageDocument (converter : Converter) : Converting converter pagePlace
    fun value => converter.convertDocument (pageDocument value) := by
  refine .within spelled_pagePlace ?_ ?_
  · simp only [List.cons_append, List.nil_append, List.forall_mem_cons]
    refine ⟨⟨saysText_some "Unit", saysText_none⟩, ⟨saysText_some "Q", ?_, ?_⟩, ?_⟩
    · exact fun _ h => absurd h List.not_mem_nil
    · refine List.forall_mem_singleton.mpr (.field ⟨"g", rfl⟩ (fun _ h => ?_) fun _ h => ?_)
      · exact absurd h List.not_mem_nil
      · cases h
    · exact fun _ h => absurd h List.not_mem_nil
  · exact List.forall_mem_singleton.mpr (by decide)

/-- An integer that no binary64 number is equal to keeps its last digit, and a zero loses its
sign. -/
theorem integer_defaults_kept_pageDocument : ∃ (before after : String) (c d : Conversion),
    Converter.convertDocument ⟨.properties, .builtin⟩ (pageDocument (.int "9007199254740993")) =
      .ok c ∧
    Converter.convertDocument ⟨.properties, .builtin⟩ (pageDocument (.int "-0")) = .ok d ∧
    c.text none = .ok (before ++ "\"default\": 9007199254740993" ++ after) ∧
    d.text none = .ok (before ++ "\"default\": 0" ++ after) ∧ c.text none ≠ d.text none := by
  have hlong : IsIntLiteral "9007199254740993" ∧ digitCount "9007199254740993" = 16 :=
    isIntLiteral_of_digits [] '9' "007199254740993".toList rfl .absent (by decide) rfl
      (.inl (by decide))
  have hzero : IsIntLiteral "-0" ∧ digitCount "-0" = 1 :=
    isIntLiteral_of_digits ['-'] '0' [] rfl .minus (by decide) rfl (.inr rfl)
  have hlimit : 16 ≤ digitLimit := by simp [digitLimit]
  have hlimit' : 1 ≤ digitLimit := by simp [digitLimit]
  have hconvert : Converter.convertDocument ⟨.properties, .builtin⟩ (pageDocument (.int "-0")) =
    .ok ⟨_, _⟩ := rfl
  obtain ⟨before, after, hkept⟩ := integer_defaults_kept (converting_pageDocument _) hzero.1
    (hzero.2.trans_le hlimit') hconvert fun _ h => nomatch (h : _ ∈ (none : Option Int))
  obtain ⟨c, _, _, hc, -, -, -, hctext, rfl, -⟩ := hkept _ hlong.1 (hlong.2.trans_le hlimit)
  obtain ⟨d, _, _, hd, -, -, -, hdtext, rfl, -, hdiffer⟩ :=
    hkept _ hzero.1 (hzero.2.trans_le hlimit')
  refine ⟨before, after, c, d, hc, hd, hctext, hdtext, fun heq => ?_⟩
  have hsame := (hdiffer _ c hlong.1 (hlong.2.trans_le hlimit) hc).mp heq
  revert hsame
  decide

end QuerySchema.Schema
