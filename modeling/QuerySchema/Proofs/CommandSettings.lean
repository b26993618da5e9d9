import QuerySchema.CommandLine.Convert
import QuerySchema.Proofs.LastWrites

/-!
What the words of a command line set.

`Settled` says it without settling anything: each option stands as its last value asks (`Meets`), or
as it does before any option is settled, when it was not given (`Agree`). The order in which options
are given plays no part in it.

What is proved:
  1. `settle_eq_ok`: what settling one option does, and that it touches nothing else.
  2. `foldlM_settle`: what settling options that are given once does.
  3. `ofWords_eq_ok_iff`: the words set something just when it is `Settled`, and `Settled.unique`:
     it is one thing only.
  4. `ofWords_without`: a flag that is left out of the words changes nothing but its own setting,
     also when the words are refused.
-/

namespace QuerySchema.CommandLine

open Decimal Files Schema

/-! ## Options and their last values -/

section

variable {ω : Type} [DecidableEq ω]

theorem lastValue?_eq (given : List (ω × String)) (option : ω) :
    lastValue? given option = Keyed.lastValue? given option := by
  rw [lastValue?, Keyed.lastValue?, Outcome.lastGiven, List.filterMap_eq_map', List.getLast?_map]
  congr 2

theorem lastValues_eq (given : List (ω × String)) : lastValues given = Keyed.settled given := by
  rw [lastValues, Keyed.settled]
  simp only [lastValue?_eq]

/-- The words with one option left out. -/
def Words.without (option : ω) (words : Words ω) : Words ω :=
  ⟨words.given.filter fun item => item.1 != option, words.operands⟩

theorem lastValue?_without {option other : ω} (words : Words ω) (h : other ≠ option) :
    lastValue? (words.without option).given other = lastValue? words.given other := by
  rw [lastValue?_eq, lastValue?_eq, Words.without, Keyed.lastValue?_filter (· != option)]
  simp [h]

theorem lastValues_without (option : ω) (words : Words ω) :
    lastValues (words.without option).given =
      (lastValues words.given).filter fun item => item.1 != option := by
  rw [lastValues_eq, lastValues_eq]
  exact Keyed.settled_filter (· != option) words.given

end

namespace ConvertSettings

variable {disk : Disk} {s t u : ConvertSettings}

/-! ## What one option sets -/

/-- Whether two settings agree on what an option sets. The mapped scalars are not set by options
one at a time. -/
def Agree (s t : ConvertSettings) : ConvertOption → Prop
  | .source => s.source = t.source
  | .output => s.output = t.output
  | .layout => s.layout = t.layout
  | .indent => s.indent = t.indent
  | .check => s.check = t.check
  | .strict => s.strict = t.strict
  | .verbose => s.verbose = t.verbose
  | .scalar | .help => True

/-- Whether settings are what an option with a value asks for, and the value can be had. -/
def Meets (disk : Disk) (s : ConvertSettings) : ConvertOption × String → Prop
  | (.source, path) => s.source = path ∧ holdsNul path = false ∧ (disk.locate? path).isSome = true
  | (.output, path) => s.output = path ∧ holdsNul path = false
  | (.layout, name) => Layout.ofText name = .ok s.layout
  | (.indent, text) => readInteger text = .ok s.indent
  | (.check, _) => s.check = true
  | (.strict, _) => s.strict = true
  | (.verbose, _) => s.verbose = true
  | (.scalar, _) | (.help, _) => True

theorem Agree.refl (s : ConvertSettings) (option : ConvertOption) : Agree s s option := by
  cases option <;> trivial

theorem Agree.symm {option : ConvertOption} (h : Agree s t option) : Agree t s option := by
  cases option <;> first | exact Eq.symm h | trivial

theorem Agree.trans {option : ConvertOption} (h : Agree s t option) (h' : Agree t u option) :
    Agree s u option := by
  cases option <;> first | exact Eq.trans h h' | trivial

/-- Settings that agree on everything are the same. -/
theorem eq_of_agree (h : ∀ option, Agree s t option) (hm : s.mappings = t.mappings) : s = t := by
  have hsource : s.source = t.source := h .source
  have houtput : s.output = t.output := h .output
  have hlayout : s.layout = t.layout := h .layout
  have hindent : s.indent = t.indent := h .indent
  have hcheck : s.check = t.check := h .check
  have hstrict : s.strict = t.strict := h .strict
  have hverbose : s.verbose = t.verbose := h .verbose
  cases s; cases t
  simp_all

theorem Meets.congr {item : ConvertOption × String} (h : Meets disk s item)
    (hagree : Agree s t item.1) : Meets disk t item := by
  obtain ⟨option, value⟩ := item
  cases option <;> simp_all [Meets, Agree]

/-- A value leaves no choice for what its option sets. -/
theorem Meets.agree {item : ConvertOption × String} (h : Meets disk s item)
    (h' : Meets disk t item) : Agree s t item.1 := by
  obtain ⟨option, value⟩ := item
  cases option <;> simp_all [Meets, Agree]

theorem askable_eq_ok {path : String} : askable path = .ok () ↔ holdsNul path = false := by
  unfold askable
  cases holdsNul path <;> simp

/-- Settings, with what one option sets as it is in others. -/
def setLike (s : ConvertSettings) : ConvertOption → ConvertSettings → ConvertSettings
  | .source, t => { s with source := t.source }
  | .output, t => { s with output := t.output }
  | .layout, t => { s with layout := t.layout }
  | .indent, t => { s with indent := t.indent }
  | .check, t => { s with check := t.check }
  | .strict, t => { s with strict := t.strict }
  | .verbose, t => { s with verbose := t.verbose }
  | .scalar, _ | .help, _ => s

@[simp] theorem mappings_setLike (s : ConvertSettings) (option : ConvertOption)
    (t : ConvertSettings) : (s.setLike option t).mappings = s.mappings := by
  cases option <;> rfl

theorem agree_setLike (s : ConvertSettings) {option other : ConvertOption} (t : ConvertSettings)
    (h : other ≠ option) : Agree s (s.setLike option t) other := by
  cases option <;> cases other <;> trivial

theorem setLike_comm (s : ConvertSettings) {option other : ConvertOption} (h : other ≠ option)
    (t u : ConvertSettings) :
    (s.setLike option t).setLike other u = (s.setLike other u).setLike option t := by
  cases option <;> cases other <;> first | rfl | exact absurd rfl h

@[simp] theorem setLike_setLike (s : ConvertSettings) (option : ConvertOption)
    (t u : ConvertSettings) : (s.setLike option t).setLike option u = s.setLike option u := by
  cases option <;> rfl

/-- What an option sets does not depend on what is set already. -/
theorem settle_eq (disk : Disk) (s : ConvertSettings) (item : ConvertOption × String) :
    settle disk s item = (settle disk (initial []) item).map fun t => s.setLike item.1 t := by
  obtain ⟨option, value⟩ := item
  cases option with
  | source =>
    simp only [settle]
    cases askable value with
    | error stop => rfl
    | ok _ => cases (disk.locate? value).isSome <;> rfl
  | output =>
    simp only [settle]
    cases askable value <;> rfl
  | layout =>
    simp only [settle]
    cases Layout.ofText value <;> rfl
  | indent =>
    simp only [settle]
    cases readInteger value <;> rfl
  | check | strict | verbose | scalar | help => rfl

/-- An option that is settled has what it asks for. -/
theorem meets_of_settle {item : ConvertOption × String} (h : settle disk s item = .ok t) :
    Meets disk t item := by
  obtain ⟨option, value⟩ := item
  cases option with
  | source =>
    obtain ⟨⟨⟩, hnul, h⟩ := Outcome.bind_eq_ok.mp h
    split at h
    · next hthere =>
      cases h
      exact ⟨rfl, askable_eq_ok.mp hnul, hthere⟩
    · cases h
  | output =>
    obtain ⟨⟨⟩, hnul, h⟩ := Outcome.bind_eq_ok.mp h
    cases h
    exact ⟨rfl, askable_eq_ok.mp hnul⟩
  | layout =>
    simp only [settle] at h
    split at h
    · next hlayout =>
      cases h
      exact hlayout
    · cases h
  | indent =>
    simp only [settle] at h
    split at h
    · next hindent =>
      cases h
      exact hindent
    · cases h
  | check | strict | verbose =>
    cases h
    exact rfl
  | scalar | help => trivial

/-- What an option asks for can be had, whatever is set already. -/
theorem Meets.exists_settle {item : ConvertOption × String} (h : Meets disk s item)
    (before : ConvertSettings) : ∃ after, settle disk before item = .ok after := by
  obtain ⟨option, value⟩ := item
  cases option with
  | source =>
    obtain ⟨-, hnul, hthere⟩ := h
    exact ⟨{ before with source := value }, by
      simp only [settle, askable_eq_ok.mpr hnul, hthere]; rfl⟩
  | output =>
    exact ⟨{ before with output := value }, by simp only [settle, askable_eq_ok.mpr h.2]; rfl⟩
  | layout =>
    have hlayout : Layout.ofText value = .ok s.layout := h
    exact ⟨{ before with layout := s.layout }, by simp only [settle, hlayout]⟩
  | indent =>
    have hindent : readInteger value = .ok s.indent := h
    exact ⟨{ before with indent := s.indent }, by simp only [settle, hindent]⟩
  | check | strict | verbose | scalar | help => exact ⟨_, rfl⟩

/-- Settling an option gives it what it asks for and leaves everything else alone. -/
theorem settle_eq_ok {item : ConvertOption × String} (h : settle disk s item = .ok t) :
    Meets disk t item ∧ ∃ found, t = s.setLike item.1 found := by
  refine ⟨meets_of_settle h, ?_⟩
  rw [settle_eq] at h
  obtain ⟨found, -, rfl⟩ := Outcome.map_eq_ok.mp h
  exact ⟨found, rfl⟩

/-! ## What options set together -/

/-- Settling options that are given once each gives all of them what they ask for. -/
theorem foldlM_settle {items : List (ConvertOption × String)} (hn : (items.map Prod.fst).Nodup)
    (h : items.foldlM (settle disk) s = .ok t) :
    (∀ item ∈ items, Meets disk t item) ∧ t.mappings = s.mappings ∧
      ∀ option, option ∉ items.map Prod.fst → Agree s t option := by
  induction items generalizing s with
  | nil =>
    cases h
    exact ⟨fun _ h => absurd h List.not_mem_nil, rfl, fun option _ => .refl _ option⟩
  | cons item rest ih =>
    rw [List.map_cons, List.nodup_cons] at hn
    rw [List.foldlM_cons] at h
    obtain ⟨next, hitem, hrest⟩ := Outcome.bind_eq_ok.mp h
    obtain ⟨hmeets, found, rfl⟩ := settle_eq_ok hitem
    obtain ⟨hall, hm, hkept⟩ := ih hn.2 hrest
    refine ⟨fun other hother => ?_, hm.trans (mappings_setLike s item.1 found),
      fun option hoption => ?_⟩
    · rcases List.mem_cons.mp hother with rfl | hother
      · -- its option is not settled again
        exact hmeets.congr (hkept _ hn.1)
      · exact hall other hother
    · rw [List.map_cons, List.mem_cons, not_or] at hoption
      exact (agree_setLike s found hoption.1).trans (hkept option hoption.2)

/-- Options that some settings meet can all be settled. -/
theorem exists_foldlM_settle {s : ConvertSettings} {items : List (ConvertOption × String)}
    (h : ∀ item ∈ items, Meets disk s item) (before : ConvertSettings) :
    ∃ after, items.foldlM (settle disk) before = .ok after := by
  induction items generalizing before with
  | nil => exact ⟨before, rfl⟩
  | cons item rest ih =>
    obtain ⟨next, hitem⟩ := (h item List.mem_cons_self).exists_settle before
    obtain ⟨after, hrest⟩ := ih (fun other hother => h other (List.mem_cons_of_mem _ hother)) next
    exact ⟨after, by rw [List.foldlM_cons, hitem]; exact hrest⟩

/-- The mappings among options. -/
def mappingsOf (given : List (ConvertOption × String)) : List String :=
  (given.filter fun item => item.1 == .scalar).map Prod.snd

/-- What the words of a command line set: every option what its last value asks for, or what it is
before any option is settled. -/
structure Settled (disk : Disk) (words : Words ConvertOption) (s : ConvertSettings) : Prop where
  options : ∀ option, match lastValue? words.given option with
    | some value => Meets disk s (option, value)
    | none => Agree (initial []) s option
  mappings : s.mappings = mappingsOf words.given
  source : (lastValue? words.given .source).isSome = true
  operands : words.operands = []

variable {words : Words ConvertOption}

/-- Words set one thing only. -/
theorem Settled.unique (h : Settled disk words s) (h' : Settled disk words t) : s = t := by
  refine eq_of_agree (fun option => ?_) (h.mappings.trans h'.mappings.symm)
  have hs := h.options option
  have ht := h'.options option
  cases hvalue : lastValue? words.given option with
  | none =>
    rw [hvalue] at hs ht
    exact hs.symm.trans ht
  | some value =>
    rw [hvalue] at hs ht
    exact Meets.agree hs ht

/-- The last look at the words, when their options are settled. -/
def complete (words : Words ConvertOption) (s : ConvertSettings) : Except Stop ConvertSettings :=
  if (lastValue? words.given .source).isNone then refuse .sourceMissing
  else if !words.operands.isEmpty then refuse (.furtherOperands words.operands)
  else .ok s

theorem ofWords_eq (disk : Disk) (words : Words ConvertOption) : ofWords disk words =
    (lastValues words.given).foldlM (settle disk) (initial (mappingsOf words.given)) >>=
      complete words := by
  unfold ofWords complete mappingsOf
  rfl

theorem complete_eq_ok : complete words s = .ok t ↔
    (lastValue? words.given .source).isSome = true ∧ words.operands = [] ∧ s = t := by
  unfold complete refuse
  cases lastValue? words.given .source with
  | none => simp
  | some path => cases words.operands <;> simp

/-- The command takes words just when they set something, and goes on with what they set. -/
theorem ofWords_eq_ok_iff : ofWords disk words = .ok s ↔ Settled disk words s := by
  have hkeys : ((lastValues words.given).map Prod.fst).Nodup :=
    lastValues_eq words.given ▸ Keyed.nodup_keys_settled words.given
  have hmem {option : ConvertOption} {value : String} :
      (option, value) ∈ lastValues words.given ↔ lastValue? words.given option = some value := by
    rw [lastValues_eq, lastValue?_eq, Keyed.mem_settled]
  have hsettled {t : ConvertSettings} (h : ofWords disk words = .ok t) : Settled disk words t := by
    rw [ofWords_eq] at h
    obtain ⟨found, hfold, hcomplete⟩ := Outcome.bind_eq_ok.mp h
    obtain ⟨hsource, hoperands, rfl⟩ := complete_eq_ok.mp hcomplete
    obtain ⟨hmeets, hm, hkept⟩ := foldlM_settle hkeys hfold
    refine ⟨fun option => ?_, hm, hsource, hoperands⟩
    cases hvalue : lastValue? words.given option with
    | some value => exact hmeets _ (hmem.mpr hvalue)
    | none =>
      have hfree : option ∉ (lastValues words.given).map Prod.fst := by
        intro hin
        obtain ⟨item, hitem, rfl⟩ := List.mem_map.mp hin
        cases hvalue.symm.trans (hmem.mp hitem)
      exact hkept option hfree
  refine ⟨hsettled, fun h => ?_⟩
  have hmeets : ∀ item ∈ lastValues words.given, Meets disk s item := by
    intro item hitem
    have hoption := h.options item.1
    rw [hmem.mp hitem] at hoption
    exact hoption
  obtain ⟨found, hfold⟩ := exists_foldlM_settle hmeets (initial (mappingsOf words.given))
  have hfound : ofWords disk words = .ok found := by
    rw [ofWords_eq, hfold]
    exact complete_eq_ok.mpr ⟨h.source, h.operands, rfl⟩
  rw [hfound, (hsettled hfound).unique h]

/-! ## Flags that are left out -/

/-- Whether an option takes no value. -/
def isFlag (option : ConvertOption) : Bool :=
  convertForms.all fun form => form.option != option || !form.takesValue

theorem settle_flag {flag : ConvertOption} (hflag : isFlag flag = true) (disk : Disk)
    (s : ConvertSettings) (value : String) :
    ∃ t, settle disk s (flag, value) = .ok (s.setLike flag t) := by
  have hfree : ∃ t, settle disk (initial []) (flag, value) = .ok t := by
    cases flag with
    | check | strict | verbose | help => exact ⟨_, rfl⟩
    | source | output | layout | scalar | indent => exact absurd hflag (by decide)
  obtain ⟨t, ht⟩ := hfree
  exact ⟨t, by rw [settle_eq, ht]; rfl⟩

/-- Options can be settled with a flag left out. -/
theorem foldlM_settle_without {flag : ConvertOption} (hflag : isFlag flag = true) (disk : Disk)
    (u : ConvertSettings) (items : List (ConvertOption × String)) (s : ConvertSettings) :
    (items.filter fun item => item.1 != flag).foldlM (settle disk) (s.setLike flag u) =
      (items.foldlM (settle disk) s).map fun t => t.setLike flag u := by
  induction items generalizing s with
  | nil => rfl
  | cons item rest ih =>
    obtain ⟨option, value⟩ := item
    rw [List.foldlM_cons]
    by_cases hoption : option = flag
    · -- the flag sets what is set back anyway
      subst hoption
      obtain ⟨t, ht⟩ := settle_flag hflag disk s value
      rw [List.filter_cons_of_neg (by simp), ht, ← setLike_setLike s option t u]
      exact ih (s.setLike option t)
    · rw [List.filter_cons_of_pos (by simpa using hoption), List.foldlM_cons, settle_eq,
        settle_eq disk s]
      cases settle disk (initial []) (option, value) with
      | error stop => rfl
      | ok t =>
        show (rest.filter fun item => item.1 != flag).foldlM (settle disk)
          ((s.setLike flag u).setLike option t) = _
        rw [setLike_comm s hoption u t]
        exact ih (s.setLike option t)

/-- A flag that is left out of the words changes nothing but its own setting, also when the words
are refused. -/
theorem ofWords_without {flag : ConvertOption} (hflag : isFlag flag = true) (disk : Disk)
    (words : Words ConvertOption) : ofWords disk (words.without flag) =
      (ofWords disk words).map fun s => s.setLike flag (initial []) := by
  have hsource : ConvertOption.source ≠ flag := by
    rintro rfl
    exact absurd hflag (by decide)
  have hscalar : ConvertOption.scalar ≠ flag := by
    rintro rfl
    exact absurd hflag (by decide)
  have hmappings : mappingsOf (words.without flag).given = mappingsOf words.given := by
    unfold mappingsOf Words.without
    rw [List.filter_filter]
    congr 1
    refine List.filter_congr fun item _ => ?_
    by_cases hitem : item.1 = .scalar
    · simp [hitem, hscalar]
    · simp [hitem]
  have hinitial : initial (mappingsOf words.given) =
      (initial (mappingsOf words.given)).setLike flag (initial []) := by
    cases flag with
    | source | output | layout | scalar | indent => exact absurd hflag (by decide)
    | check | strict | verbose | help => rfl
  have hcomplete : ∀ s, complete (words.without flag) (s.setLike flag (initial [])) =
      (complete words s).map fun s => s.setLike flag (initial []) := by
    intro s
    unfold complete refuse
    rw [lastValue?_without words hsource]
    cases (lastValue? words.given .source).isNone with
    | true => rfl
    | false => cases hoperands : words.operands <;> simp [Words.without, hoperands] <;> rfl
  rw [ofWords_eq, ofWords_eq, lastValues_without, hmappings, hinitial,
    foldlM_settle_without hflag, ← hinitial]
  cases (lastValues words.given).foldlM (settle disk) (initial (mappingsOf words.given)) with
  | error stop => rfl
  | ok s => exact hcomplete s

end ConvertSettings

end QuerySchema.CommandLine
