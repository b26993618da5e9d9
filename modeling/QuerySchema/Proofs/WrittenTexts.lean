import QuerySchema.Proofs.WrittenNumbers
import QuerySchema.Proofs.WrittenStrings

/-!
JSON text that is written is read back.

A text holds a value without loss when its integers have no more digits than readers accept, its
numbers are finite and no object has a name twice: the value is `Storable`. Lines are broken with
spaces and line feeds, which readers skip. A value is read up to its end and no further, so the
values of an array are read one after the other.

What is proved:
  1. `readsBack_of_storable`: by induction on the value, whatever stands behind its text that is no
     part of a number.
  2. `written_plain`: the text holds printable ASCII and line feeds.
  3. `toText_storable`: with every indentation that lines can have, a storable value has a text, and
     a strict reading of it gives the value again.
-/

namespace QuerySchema.Json

open Decimal Text

/-- A text holds the value without loss. -/
inductive Storable : Json → Prop where
  | null : Storable .null
  | bool (value : Bool) : Storable (.bool value)
  | int {n : Int} (h : (decimalDigits n.natAbs).length ≤ digitLimit) : Storable (.int n)
  | float {x : Binary64} (h : x.isFinite = true) : Storable (.float x)
  | string (text : String) : Storable (.string text)
  | array {items : List Json} (h : ∀ item ∈ items, Storable item) : Storable (.array items)
  | object {members : Keyed String Json} (hnodup : members.keys.Nodup)
    (h : ∀ p ∈ members, Storable p.2) : Storable (.object members)

/-! ## Space -/

/-- Spaces and line feeds. -/
def AreBlank (cs : List Char) : Prop := ∀ c ∈ cs, c = ' ' ∨ c = '\n'

/-- Lines are broken with spaces and line feeds, and a comma stands between two items. -/
structure Style.Spaced (style : Style) : Prop where
  lineBreak : ∀ level, AreBlank (style.lineBreak level)
  separator : ∃ blanks, style.separator = ',' :: blanks ∧ AreBlank blanks

theorem spaced_ofIndent (indent : Option Int) : (Style.ofIndent indent).Spaced := by
  cases indent with
  | none => exact ⟨fun _ _ hc => absurd hc List.not_mem_nil, [' '], rfl, by simp [AreBlank]⟩
  | some width =>
    refine ⟨fun level c hc => ?_, [], rfl, fun _ hc => absurd hc List.not_mem_nil⟩
    rcases List.mem_cons.mp hc with rfl | hc
    · exact .inr rfl
    · exact .inl (List.eq_of_mem_replicate hc)

theorem skipSpace_append {blanks rest : List Char} (hb : AreBlank blanks)
    (hrest : StopsAt isSpace rest) : skipSpace (blanks ++ rest) = rest := by
  refine dropWhile_append_stop (fun c hc => ?_) hrest
  rcases hb c hc with rfl | rfl <;> rfl

theorem stopsAt_blanks {blanks rest : List Char} (hb : AreBlank blanks)
    (hrest : StopsAt isNumeral rest) : StopsAt isNumeral (blanks ++ rest) := by
  cases blanks with
  | nil => exact hrest
  | cons c blanks =>
    refine stopsAt_cons ?_
    rcases hb c List.mem_cons_self with rfl | rfl <;> rfl

/-! ## Words and numbers -/

variable {style : Style}

/-- The text of a value does not start like space or the end of an array, and the value is read off
it, whatever stands behind it that is no part of a number. -/
structure ReadsBack (style : Style) (value : Json) : Prop where
  starts : ∀ level, ∃ c ∈ (written style level value).head?, isSpace c = false ∧ c ≠ ']'
  reads : ∀ {level budget rest}, (written style level value).length ≤ budget →
    StopsAt isNumeral rest →
      readValue standardWords budget (written style level value ++ rest) = .ok (value, rest)

/-- A word or a number can start with the character: no other value does, and it is neither space
nor the end of an array. -/
def StartsAtom (c : Char) : Prop :=
  isSpace c = false ∧ c ≠ ']' ∧ c ≠ '"' ∧ c ≠ '[' ∧ c ≠ '\x7b'

instance (c : Char) : Decidable (StartsAtom c) := inferInstanceAs (Decidable (_ ∧ _))

theorem startsAtom_of_isDigit {c : Char} (h : isDigit c = true) : StartsAtom c := by
  have hne (other : Char) (hother : isDigit other = false) : c ≠ other := by
    rintro rfl
    rw [hother] at h
    cases h
  have hspace : isSpace c = false := by
    simp [isSpace, hne ' ' rfl, hne '\t' rfl, hne '\n' rfl, hne '\r' rfl]
  exact ⟨hspace, hne ']' rfl, hne '"' rfl, hne '[' rfl, hne '\x7b' rfl⟩

theorem readsBack_of_atom {value : Json} {text : List Char} {c : Char}
    (hwritten : ∀ level, written style level value = text) (hc : c ∈ text.head?) (hstarts : StartsAtom c)
    (hread : ∀ rest, StopsAt isNumeral rest →
      readAtom standardWords (text ++ rest) = .ok (value, rest)) : ReadsBack style value := by
  obtain ⟨hspace, hend, hquote, hbracket, hbrace⟩ := hstarts
  refine ⟨fun level => ⟨c, by rw [hwritten]; exact hc, hspace, hend⟩, ?_⟩
  intro level budget rest hbudget hrest
  rw [hwritten] at hbudget ⊢
  rw [← hread rest hrest]
  obtain ⟨more, rfl⟩ := List.head?_eq_some_iff.mp hc
  cases budget with
  | zero => exact absurd hbudget (Nat.not_succ_le_zero _)
  | succ budget =>
    rw [List.cons_append, readValue]
    · exact fun _ he => hquote (List.cons.inj he).1
    · exact fun _ he => hbracket (List.cons.inj he).1
    · exact fun _ he => hbrace (List.cons.inj he).1

/-- No word starts like a number. -/
theorem find?_numeral {c : Char} (h : isDigit c = true ∨ c = '-') (rest : List Char) :
    standardWords.find? (fun w => w.1.isPrefixOf (c :: rest)) = none := by
  have hne (letter : Char) (hletter : isDigit letter = false ∧ letter ≠ '-') :
      (letter == c) = false := by
    rw [beq_eq_false_iff_ne]
    rintro rfl
    rcases h with h | h
    · rw [hletter.1] at h
      cases h
    · exact hletter.2 h
  simp [standardWords, List.isPrefixOf, hne 'n' (by decide), hne 't' (by decide),
    hne 'f' (by decide)]

theorem readAtom_negative (rest : List Char) :
    readAtom standardWords ('-' :: rest) = readNumeral ('-' :: rest) true rest := by
  rw [readAtom, find?_numeral (.inr rfl)]

theorem readAtom_digit {c : Char} (hc : isDigit c = true) (rest : List Char) :
    readAtom standardWords (c :: rest) = readNumeral (c :: rest) false (c :: rest) := by
  rw [readAtom, find?_numeral (.inl hc)]
  rintro _ he
  obtain ⟨rfl, -⟩ := List.cons.inj he
  exact absurd hc (by decide)

/-- A number with its sign is read when its digits are, with the sign. -/
theorem readAtom_signed {negative : Bool} {text rest : List Char} {value : Json} {c : Char}
    (hc : c ∈ text.head?) (hdigit : isDigit c = true)
    (hread : ∀ start, readNumeral start negative (text ++ rest) = .ok (value, rest)) :
    readAtom standardWords ((if negative then '-' :: text else text) ++ rest) = .ok (value, rest) := by
  cases negative with
  | true => exact (readAtom_negative _).trans (hread _)
  | false =>
    obtain ⟨more, rfl⟩ := List.head?_eq_some_iff.mp hc
    exact (readAtom_digit hdigit _).trans (hread _)

theorem readsBack_signed {value : Json} (negative : Bool) {text : List Char} {c : Char}
    (hwritten : ∀ level, written style level value = if negative then '-' :: text else text)
    (hc : c ∈ text.head?) (hdigit : isDigit c = true)
    (hread : ∀ start rest, StopsAt isNumeral rest →
      readNumeral start negative (text ++ rest) = .ok (value, rest)) : ReadsBack style value := by
  have hsigned (rest : List Char) (hrest : StopsAt isNumeral rest) :=
    readAtom_signed hc hdigit fun start => hread start rest hrest
  cases negative with
  | true => exact readsBack_of_atom hwritten rfl (by decide) hsigned
  | false => exact readsBack_of_atom hwritten hc (startsAtom_of_isDigit hdigit) hsigned

theorem intText_eq (n : Int) : intText n =
    if decide (n < 0) then '-' :: decimalDigits n.natAbs else decimalDigits n.natAbs := by
  simp only [intText, decide_eq_true_eq]

theorem readsBack_int {n : Int} (h : (decimalDigits n.natAbs).length ≤ digitLimit) :
    ReadsBack style (.int n) := by
  have hwhole := isWhole_decimalDigits n.natAbs
  obtain ⟨c, more, hdigits, hc⟩ := hwhole.toIsDigits.exists_cons
  have hvalue : signed (decide (n < 0)) (decimalDigits n.natAbs) = n := by
    simp only [signed, digitsValue_decimalDigits, decide_eq_true_eq]
    omega
  refine readsBack_signed (decide (n < 0)) (fun _ => intText_eq n) (hdigits ▸ rfl) hc
    fun start rest hrest => ?_
  rw [readNumeral_int hwhole h hrest, hvalue]

theorem readsBack_float {x : Binary64} (h : x.isFinite = true) : ReadsBack style (.float x) := by
  cases x with
  | finite negative x =>
    obtain ⟨d, hwrites, -⟩ := x.exists_writes_text
    obtain ⟨c, more, htext, hc⟩ := hwrites.exists_cons
    exact readsBack_signed negative (fun _ => rfl) (by rw [htext]; rfl) hc
      fun start rest hrest => readNumeral_text x hrest
  | infinite negative => cases h
  | nan => cases h

theorem readsBack_null : ReadsBack style .null :=
  readsBack_of_atom (fun _ => rfl) rfl (by decide) fun _ _ => rfl

theorem readsBack_bool (value : Bool) : ReadsBack style (.bool value) := by
  cases value with
  | true => exact readsBack_of_atom (fun _ => rfl) rfl (by decide) fun _ _ => rfl
  | false => exact readsBack_of_atom (fun _ => rfl) rfl (by decide) fun _ _ => rfl

/-! ## Strings, arrays and objects -/

theorem readsBack_string (text : String) : ReadsBack style (.string text) where
  starts := fun _ => ⟨'"', rfl, by decide⟩
  reads := by
    intro level budget rest hbudget _
    cases budget with
    | zero => exact absurd hbudget (Nat.not_succ_le_zero _)
    | succ budget =>
      rw [written, stringText, List.cons_append, List.append_assoc, List.singleton_append, readValue,
        readString_written]
      simp only [String.ofList_toList]

/-- Space in front of a value is skipped, and nothing of the value. -/
theorem skipSpace_written {value : Json} (hvalue : ReadsBack style value) {blanks : List Char}
    (hblanks : AreBlank blanks) (level : Nat) (rest : List Char) :
    skipSpace (blanks ++ (written style level value ++ rest)) = written style level value ++ rest := by
  obtain ⟨c, hc, hspace, -⟩ := hvalue.starts level
  obtain ⟨more, hmore⟩ := List.head?_eq_some_iff.mp hc
  rw [hmore]
  exact skipSpace_append hblanks (stopsAt_cons hspace)

theorem areBlank_append {blanks more : List Char} (hb : AreBlank blanks) (hm : AreBlank more) :
    AreBlank (blanks ++ more) := List.forall_mem_append.mpr ⟨hb, hm⟩

theorem skipSpace_cons {c : Char} (h : isSpace c = false) (rest : List Char) :
    skipSpace (c :: rest) = c :: rest := dropWhile_of_stopsAt (stopsAt_cons h)

/-- The items of an array are read up to its end. Each uses up one step, and so does each value that
is nested in one; a text has more characters than it needs steps. -/
theorem readItems_written (hs : style.Spaced) (level : Nat) {budget : Nat} {item : Json}
    {items : List Json} (hitem : ReadsBack style item) (hitems : ∀ i ∈ items, ReadsBack style i)
    {blanks : List Char} (hblanks : AreBlank blanks) (rest : List Char)
    (hbudget : (written style level item).length + (writtenItems style level items).length <
      budget) :
    readItems standardWords budget (written style level item ++ (writtenItems style level items ++
      (blanks ++ ']' :: rest))) = .ok (item :: items, rest) := by
  induction items generalizing item budget with
  | nil =>
    obtain ⟨budget, rfl⟩ := Nat.exists_eq_add_one_of_ne_zero (Nat.ne_zero_of_lt hbudget)
    rw [writtenItems, List.nil_append, readItems,
      hitem.reads (by omega) (stopsAt_blanks hblanks (stopsAt_cons rfl))]
    simp only [skipSpace_append hblanks (stopsAt_cons (show isSpace ']' = false from rfl))]
  | cons next items ih =>
    obtain ⟨budget, rfl⟩ := Nat.exists_eq_add_one_of_ne_zero (Nat.ne_zero_of_lt hbudget)
    obtain ⟨hnext, hitems⟩ := List.forall_mem_cons.mp hitems
    obtain ⟨spaces, hseparator, hspaces⟩ := hs.separator
    rw [writtenItems, hseparator] at hbudget ⊢
    simp only [List.length_append, List.length_cons] at hbudget
    have hrest : readItems standardWords budget _ = _ := ih hnext hitems (by omega)
    have hskip := skipSpace_written hnext (areBlank_append hspaces (hs.lineBreak level)) level
      (writtenItems style level items ++ (blanks ++ ']' :: rest))
    simp only [List.append_assoc, List.cons_append] at hskip ⊢
    rw [readItems, hitem.reads (by omega) (stopsAt_cons rfl)]
    simp only [skipSpace_cons (show isSpace ',' = false from rfl), hskip, hrest]

theorem readsBack_array (hs : style.Spaced) {items : List Json}
    (h : ∀ item ∈ items, ReadsBack style item) : ReadsBack style (.array items) := by
  cases items with
  | nil =>
    refine ⟨fun _ => ⟨'[', rfl, by decide⟩, fun {level budget rest} hbudget _ => ?_⟩
    obtain ⟨budget, rfl⟩ := Nat.exists_eq_add_one_of_ne_zero (Nat.ne_zero_of_lt hbudget)
    rfl
  | cons item items =>
    refine ⟨fun _ => ⟨'[', rfl, by decide⟩, fun {level budget rest} hbudget _ => ?_⟩
    obtain ⟨budget, rfl⟩ := Nat.exists_eq_add_one_of_ne_zero (Nat.ne_zero_of_lt hbudget)
    obtain ⟨hitem, hitems⟩ := List.forall_mem_cons.mp h
    rw [written] at hbudget ⊢
    simp only [List.length_cons, List.length_append] at hbudget
    have hread : readItems standardWords budget _ = _ :=
      readItems_written hs (level + 1) hitem hitems (hs.lineBreak level) rest (by omega)
    have hskip := skipSpace_written hitem (hs.lineBreak (level + 1)) (level + 1)
      (writtenItems style (level + 1) items ++ (style.lineBreak level ++ ']' :: rest))
    obtain ⟨c, hc, -, hend⟩ := hitem.starts (level + 1)
    obtain ⟨more, hmore⟩ := List.head?_eq_some_iff.mp hc
    simp only [List.append_assoc, List.cons_append, List.nil_append]
    rw [readValue, hskip]
    rw [hmore] at hread ⊢
    split
    · next he => exact absurd (List.cons.inj he).1 hend
    · rw [hread]

theorem skipSpace_name {blanks : List Char} (hblanks : AreBlank blanks) (name : String)
    (rest : List Char) : skipSpace (blanks ++ (stringText name ++ rest)) = stringText name ++ rest :=
  skipSpace_append hblanks (stopsAt_cons rfl)

/-- A member is read with its name, and then the brace that stands behind it, or the members behind
a comma. -/
theorem readMembers_member {level budget : Nat} (name : String) {value : Json}
    (hvalue : ReadsBack style value) (hbudget : (written style level value).length ≤ budget)
    {tail rest : List Char} (htail : StopsAt isNumeral tail) {members : List (String × Json)}
    (h : skipSpace tail = '\x7d' :: rest ∧ members = [] ∨ ∃ next, skipSpace tail = ',' :: next ∧
      readMembers standardWords budget (skipSpace next) = .ok (members, rest)) :
    readMembers standardWords (budget + 1)
        (stringText name ++ (':' :: ' ' :: (written style level value ++ tail))) =
      .ok ((name, value) :: members, rest) := by
  have hskip : skipSpace (' ' :: (written style level value ++ tail)) = _ :=
    skipSpace_written hvalue (show AreBlank [' '] by simp [AreBlank]) level tail
  rw [stringText, List.cons_append, List.append_assoc, List.singleton_append, readMembers,
    readString_written]
  simp only [skipSpace_cons (show isSpace ':' = false from rfl), hskip, hvalue.reads hbudget htail,
    String.ofList_toList]
  rcases h with ⟨hclose, rfl⟩ | ⟨next, hcomma, hread⟩
  · simp only [hclose]
  · simp only [hcomma, hread]

/-- The members of an object are read up to its end, like the items of an array. -/
theorem readMembers_written (hs : style.Spaced) (level : Nat) {budget : Nat} {name : String}
    {value : Json} {members : List (String × Json)} (hvalue : ReadsBack style value)
    (hmembers : ∀ p ∈ members, ReadsBack style p.2) {blanks : List Char} (hblanks : AreBlank blanks)
    (rest : List Char) (hbudget : (written style level value).length +
      (writtenMembers style level members).length < budget) :
    readMembers standardWords budget (stringText name ++ (':' :: ' ' :: (written style level value ++
      (writtenMembers style level members ++ (blanks ++ '\x7d' :: rest))))) =
        .ok ((name, value) :: members, rest) := by
  induction members generalizing name value budget with
  | nil =>
    obtain ⟨budget, rfl⟩ := Nat.exists_eq_add_one_of_ne_zero (Nat.ne_zero_of_lt hbudget)
    rw [writtenMembers, List.nil_append]
    exact readMembers_member name hvalue (by omega) (stopsAt_blanks hblanks (stopsAt_cons rfl))
      (.inl ⟨skipSpace_append hblanks (stopsAt_cons rfl), rfl⟩)
  | cons next members ih =>
    obtain ⟨nextName, nextValue⟩ := next
    obtain ⟨budget, rfl⟩ := Nat.exists_eq_add_one_of_ne_zero (Nat.ne_zero_of_lt hbudget)
    obtain ⟨(hnext : ReadsBack style nextValue), hmembers⟩ := List.forall_mem_cons.mp hmembers
    obtain ⟨spaces, hseparator, hspaces⟩ := hs.separator
    rw [writtenMembers, hseparator] at hbudget ⊢
    simp only [List.length_append, List.length_cons] at hbudget
    have hrest : readMembers standardWords budget (stringText nextName ++ _) = _ :=
      ih hnext hmembers (by omega)
    have hskip := skipSpace_name (areBlank_append hspaces (hs.lineBreak level)) nextName
    simp only [List.append_assoc, List.cons_append, List.nil_append] at hskip hrest ⊢
    exact readMembers_member name hvalue (by omega) (stopsAt_cons rfl)
      (.inr ⟨_, skipSpace_cons (show isSpace ',' = false from rfl) _, by simp only [hskip, hrest]⟩)

theorem readsBack_object (hs : style.Spaced) {members : Keyed String Json}
    (hnodup : members.keys.Nodup) (h : ∀ p ∈ members, ReadsBack style p.2) :
    ReadsBack style (.object members) := by
  cases members with
  | nil =>
    refine ⟨fun _ => ⟨'\x7b', rfl, by decide⟩, fun {level budget rest} hbudget _ => ?_⟩
    obtain ⟨budget, rfl⟩ := Nat.exists_eq_add_one_of_ne_zero (Nat.ne_zero_of_lt hbudget)
    rfl
  | cons member members =>
    obtain ⟨name, value⟩ := member
    refine ⟨fun _ => ⟨'\x7b', rfl, by decide⟩, fun {level budget rest} hbudget _ => ?_⟩
    obtain ⟨budget, rfl⟩ := Nat.exists_eq_add_one_of_ne_zero (Nat.ne_zero_of_lt hbudget)
    obtain ⟨(hvalue : ReadsBack style value), hmembers⟩ := List.forall_mem_cons.mp h
    rw [written] at hbudget ⊢
    simp only [List.length_cons, List.length_append] at hbudget
    have hread : readMembers standardWords budget (stringText name ++ _) = _ :=
      readMembers_written hs (level + 1) hvalue hmembers (hs.lineBreak level) rest (by omega)
    simp only [List.append_assoc, List.cons_append, List.nil_append] at hread ⊢
    rw [readValue, skipSpace_name (hs.lineBreak (level + 1))]
    rw [stringText, List.cons_append] at hread ⊢
    simp only [hread, Keyed.ofPairs_eq_self hnodup]
    rfl

/-- A storable value is read off its text. -/
theorem readsBack_of_storable (hs : style.Spaced) {value : Json} (h : Storable value) :
    ReadsBack style value := by
  induction h with
  | null => exact readsBack_null
  | bool value => exact readsBack_bool value
  | int h => exact readsBack_int h
  | float h => exact readsBack_float h
  | string text => exact readsBack_string text
  | array _ ih => exact readsBack_array hs ih
  | object hnodup _ ih => exact readsBack_object hs hnodup ih

/-! ## Printable text -/

/-- Printable ASCII and line feeds. -/
def ArePlain (cs : List Char) : Prop := ∀ c ∈ cs, IsPlain c ∨ c = '\n'

instance (cs : List Char) : Decidable (ArePlain cs) :=
  List.decidableBAll (fun c => IsPlain c ∨ c = '\n') cs

theorem arePlain_append {cs more : List Char} :
    ArePlain (cs ++ more) ↔ ArePlain cs ∧ ArePlain more := List.forall_mem_append

theorem arePlain_cons {c : Char} {cs : List Char} :
    ArePlain (c :: cs) ↔ (IsPlain c ∨ c = '\n') ∧ ArePlain cs := List.forall_mem_cons

theorem arePlain_nil : ArePlain [] := fun _ hc => absurd hc List.not_mem_nil

theorem arePlain_of_areBlank {cs : List Char} (h : AreBlank cs) : ArePlain cs := by
  intro c hc
  rcases h c hc with rfl | rfl
  · exact .inl (by decide)
  · exact .inr rfl

theorem arePlain_stringText (text : String) : ArePlain (stringText text) :=
  fun c hc => .inl (isPlain_stringText text c hc)

/-- A number with its sign. -/
theorem arePlain_signed (negative : Bool) {cs : List Char} (h : ∀ c ∈ cs, isNumeral c = true) :
    ArePlain (if negative then '-' :: cs else cs) := by
  have hcs : ArePlain cs := fun c hc => by
    obtain ⟨habove, hbelow, -⟩ := numeral_facts (h c hc)
    exact .inl ⟨by omega, by omega⟩
  cases negative with
  | true => exact arePlain_cons.mpr ⟨.inl (by decide), hcs⟩
  | false => exact hcs

theorem arePlain_separator (hs : style.Spaced) : ArePlain style.separator := by
  obtain ⟨blanks, hseparator, hblanks⟩ := hs.separator
  rw [hseparator]
  exact arePlain_cons.mpr ⟨.inl (by decide), arePlain_of_areBlank hblanks⟩

theorem arePlain_writtenItems (hs : style.Spaced) {items : List Json}
    (h : ∀ item ∈ items, ∀ level, ArePlain (written style level item)) (level : Nat) :
    ArePlain (writtenItems style level items) := by
  induction items with
  | nil => exact arePlain_nil
  | cons item items ih =>
    obtain ⟨hitem, hitems⟩ := List.forall_mem_cons.mp h
    simp only [writtenItems, arePlain_append]
    exact ⟨⟨⟨arePlain_separator hs, arePlain_of_areBlank (hs.lineBreak level)⟩, hitem level⟩,
      ih hitems⟩

theorem arePlain_writtenMembers (hs : style.Spaced) {members : List (String × Json)}
    (h : ∀ p ∈ members, ∀ level, ArePlain (written style level p.2)) (level : Nat) :
    ArePlain (writtenMembers style level members) := by
  induction members with
  | nil => exact arePlain_nil
  | cons member members ih =>
    obtain ⟨name, value⟩ := member
    obtain ⟨hvalue, hmembers⟩ := List.forall_mem_cons.mp h
    simp only [writtenMembers, arePlain_append]
    exact ⟨⟨⟨⟨⟨arePlain_separator hs, arePlain_of_areBlank (hs.lineBreak level)⟩,
      arePlain_stringText name⟩, by decide⟩, hvalue level⟩, ih hmembers⟩

/-- The text of a storable value holds printable ASCII and line feeds. -/
theorem written_plain (hs : style.Spaced) {value : Json} (h : Storable value) (level : Nat) :
    ArePlain (written style level value) := by
  have hbreak (level : Nat) : ArePlain (style.lineBreak level) :=
    arePlain_of_areBlank (hs.lineBreak level)
  induction h generalizing level with
  | null => exact (by decide : ArePlain "null".toList)
  | bool value =>
    cases value with
    | true => exact (by decide : ArePlain "true".toList)
    | false => exact (by decide : ArePlain "false".toList)
  | @int n h =>
    rw [written, intText_eq]
    exact arePlain_signed _ fun c hc => isNumeral_of_isDigit ((isDigits_decimalDigits _).all c hc)
  | @float x h =>
    cases x with
    | finite negative x =>
      obtain ⟨d, hwrites, -⟩ := x.exists_writes_text
      exact arePlain_signed negative hwrites.isNumeral
    | infinite negative => cases h
    | nan => cases h
  | string text => exact arePlain_stringText text
  | @array items _ ih =>
    cases items with
    | nil => exact (by decide : ArePlain ['[', ']'])
    | cons item items =>
      obtain ⟨hitem, hitems⟩ := List.forall_mem_cons.mp ih
      simp only [written, arePlain_cons, arePlain_append]
      exact ⟨.inl (by decide), ⟨⟨⟨hbreak _, hitem _⟩, arePlain_writtenItems hs hitems _⟩, hbreak _⟩,
        by decide⟩
  | @object members hnodup _ ih =>
    cases members with
    | nil => exact (by decide : ArePlain ['\x7b', '\x7d'])
    | cons member members =>
      obtain ⟨name, value⟩ := member
      obtain ⟨hvalue, hmembers⟩ := List.forall_mem_cons.mp ih
      simp only [written, arePlain_cons, arePlain_append]
      exact ⟨.inl (by decide), ⟨⟨⟨⟨⟨hbreak _, arePlain_stringText name⟩, by decide⟩, hvalue _⟩,
        arePlain_writtenMembers hs hmembers _⟩, hbreak _⟩, by decide⟩

/-! ## Texts of values -/

theorem firstNonFiniteItem_eq_none {items : List Json}
    (h : ∀ item ∈ items, item.firstNonFinite = none) : firstNonFiniteItem items = none := by
  induction items with
  | nil => rfl
  | cons item items ih =>
    obtain ⟨hitem, hitems⟩ := List.forall_mem_cons.mp h
    rw [firstNonFiniteItem, hitem, ih hitems]
    rfl

theorem firstNonFiniteMember_eq_none {members : List (String × Json)}
    (h : ∀ p ∈ members, p.2.firstNonFinite = none) : firstNonFiniteMember members = none := by
  induction members with
  | nil => rfl
  | cons member members ih =>
    obtain ⟨name, value⟩ := member
    obtain ⟨(hvalue : value.firstNonFinite = none), hmembers⟩ := List.forall_mem_cons.mp h
    rw [firstNonFiniteMember, hvalue, ih hmembers]
    rfl

/-- A storable value holds no number that is not finite. -/
theorem firstNonFinite_of_storable {value : Json} (h : Storable value) :
    value.firstNonFinite = none := by
  induction h with
  | float hx => rw [firstNonFinite, if_pos hx]
  | array _ ih => exact firstNonFiniteItem_eq_none ih
  | object _ _ ih => exact firstNonFiniteMember_eq_none ih
  | _ => rfl

/-- The whole text of a storable value gives the value. -/
theorem readDocument_written (hs : style.Spaced) {value : Json} (h : Storable value) :
    readDocument standardWords (written style 0 value) = .ok value := by
  have hreads := readsBack_of_storable hs h
  have hskip := skipSpace_written hreads (show AreBlank [] from fun _ hc => absurd hc List.not_mem_nil)
    0 []
  have hvalue : readValue standardWords (2 * (written style 0 value).length + 2)
      (written style 0 value ++ []) = .ok (value, []) := hreads.reads (by omega) stopsAt_nil
  rw [List.nil_append, List.append_nil] at hskip
  rw [List.append_nil] at hvalue
  unfold readDocument
  split
  · next he =>
    have hmark := written_plain hs h 0 '\uFEFF' (he ▸ List.mem_cons_self)
    exact absurd hmark (by decide)
  · rw [hskip, hvalue]
    rfl

/-- With an indentation that lines can have, a storable value has a text of printable ASCII and line
feeds, and a strict reading of it gives the value again. -/
theorem toText_storable {value : Json} (h : Storable value) {indent : Option Int}
    (hindent : indentError? indent = none) : ∃ text, value.toText indent = .ok text ∧
      ArePlain text.toList ∧ readStrict text = .ok value := by
  have hs := spaced_ofIndent indent
  refine ⟨String.ofList (written (Style.ofIndent indent) 0 value), ?_, ?_, ?_⟩
  · rw [toText, hindent, ite_self, firstNonFinite_of_storable h]
  · rw [String.toList_ofList]
    exact written_plain hs h 0
  · rw [readStrict, readWith, String.toList_ofList, readDocument_written hs h]

/-- A value other than a text is written only with an indentation that lines can have. -/
theorem indentError?_of_toText {value : Json} (hvalue : value.isString = false)
    {indent : Option Int} {text : String} (h : value.toText indent = .ok text) :
    indentError? indent = none := by
  rw [toText, hvalue, if_neg Bool.false_ne_true] at h
  cases he : indentError? indent with
  | none => rfl
  | some e =>
    rw [he] at h
    cases h

end QuerySchema.Json
