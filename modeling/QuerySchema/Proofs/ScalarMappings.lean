import QuerySchema.Proofs.RegistrationHistory
import QuerySchema.Proofs.UnexplainedFailures

/-!
Scalar mappings on a command line, and the registry that they build.

A value maps a scalar when it has an equals sign, something in front of it, and behind the first one
the name of a type with nothing but blanks around it (`MapsTo`). What is in front, less the blanks
around it, is the name of the scalar. Any other value is refused, and there are four ways to be
refused (`Refused`). Both are told of the characters of a value, without splitting or trimming
anything.

A side is looked at before its blanks are taken away, so a value may map the scalar without a name.

What is proved:
  1. `trims_iff`: what a text is without the blanks around it.
  2. `addMapping_of_mapsTo`, `addMapping_of_refused`, `mapsTo_or_refused`: what one value does.
  3. `foldlM_addMapping`, `foldlM_addMapping_refused`: what a list of values does.
  4. `convert_under_mappings`: a run of the command goes on with the registry of all its mappings,
     or it stops at the first value that is refused.
-/

namespace QuerySchema.CommandLine

open ConvertSettings Decimal Files Outcome Schema Text

/-! ## Blanks around a text -/

/-- Whether a text has no blanks at its ends. -/
def IsTrimmed (cs : List Char) : Prop :=
  (∀ c ∈ cs.head?, isBlank c = false) ∧ ∀ c ∈ cs.getLast?, isBlank c = false

/-- Whether a text is another one with nothing but blanks around it, and that one has none at its
ends. -/
structure Trims (cs core : List Char) : Prop where
  around : ∃ front back, cs = front ++ core ++ back ∧ (∀ c ∈ front, isBlank c = true) ∧
    ∀ c ∈ back, isBlank c = true
  trimmed : IsTrimmed core

theorem dropWhile_blanks {front rest : List Char} (hfront : ∀ c ∈ front, isBlank c = true)
    (hrest : ∀ c ∈ rest.head?, isBlank c = false) :
    (front ++ rest).dropWhile isBlank = rest := by
  rw [List.dropWhile_append_of_pos hfront]
  exact dropWhile_of_stopsAt hrest

theorem trims_stripChars (cs : List Char) : Trims cs (stripChars isBlank cs) := by
  let behind := cs.dropWhile isBlank
  have hcore : stripChars isBlank cs = (behind.reverse.dropWhile isBlank).reverse := rfl
  have hbehind : behind = stripChars isBlank cs ++ (behind.reverse.takeWhile isBlank).reverse := by
    rw [hcore, ← List.reverse_append, List.takeWhile_append_dropWhile, List.reverse_reverse]
  refine ⟨⟨cs.takeWhile isBlank, (behind.reverse.takeWhile isBlank).reverse, ?_, ?_, ?_⟩, ?_, ?_⟩
  · rw [List.append_assoc, ← hbehind, List.takeWhile_append_dropWhile]
  · exact fun c hc => List.mem_takeWhile_imp hc
  · exact fun c hc => List.mem_takeWhile_imp (List.mem_reverse.mp hc)
  · -- what is left starts as it did before anything was taken from its end
    intro c hc
    have hstop := List.head?_dropWhile_not isBlank cs
    rw [show cs.dropWhile isBlank = _ from hbehind, List.head?_append,
      Option.mem_def.mp hc] at hstop
    exact hstop
  · intro c hc
    rw [hcore, List.getLast?_reverse] at hc
    have hstop := List.head?_dropWhile_not isBlank behind.reverse
    rw [Option.mem_def.mp hc] at hstop
    exact hstop

/-- A text is trimmed in one way only. -/
theorem trims_iff {cs core : List Char} : Trims cs core ↔ stripChars isBlank cs = core := by
  refine ⟨fun ⟨⟨front, back, hcs, hfront, hback⟩, hhead, hlast⟩ => ?_, fun h =>
    h ▸ trims_stripChars cs⟩
  have hback' : ∀ c ∈ back.reverse, isBlank c = true := fun c hc =>
    hback c (List.mem_reverse.mp hc)
  subst hcs
  cases hcore : core with
  | nil =>
    have hall : ∀ c ∈ front ++ back, isBlank c = true := fun c hc =>
      (List.mem_append.mp hc).elim (hfront c) (hback c)
    have hnone : (front ++ back).dropWhile isBlank = [] := List.dropWhile_eq_nil_iff.mpr hall
    rw [stripChars, List.append_nil, hnone]
    rfl
  | cons c rest =>
    rw [← hcore]
    have hstart : ∀ c ∈ (core ++ back).head?, isBlank c = false := by
      rw [hcore] at hhead ⊢
      exact hhead
    have hend : ∀ c ∈ core.reverse.head?, isBlank c = false := by
      rwa [List.head?_reverse]
    rw [stripChars, List.append_assoc, dropWhile_blanks hfront hstart, List.reverse_append,
      dropWhile_blanks hback' hend, List.reverse_reverse]

/-- Blanks are all that is left out of a text of which nothing is left. -/
theorem trims_nil_iff {cs : List Char} : Trims cs [] ↔ ∀ c ∈ cs, isBlank c = true := by
  constructor
  · rintro ⟨⟨front, back, rfl, hfront, hback⟩, -⟩ c hc
    rw [List.append_nil] at hc
    exact (List.mem_append.mp hc).elim (hfront c) (hback c)
  · intro h
    exact ⟨⟨cs, [], by simp, h, by simp⟩, by simp [IsTrimmed]⟩

theorem trims_strip (cs : List Char) : Trims cs (strip (String.ofList cs)).toList := by
  rw [strip, String.toList_ofList, String.toList_ofList]
  exact trims_stripChars cs

theorem strip_of_trims {cs : List Char} {core : String} (h : Trims cs core.toList) :
    strip (String.ofList cs) = core := by
  rw [strip, String.toList_ofList, trims_iff.mp h, String.ofList_toList]

/-! ## One value -/

/-- What a value maps: the name in front of its first equals sign to the type that is named behind
it, both without the blanks around them. There has to be something in front. -/
inductive MapsTo (value : String) : String × Primitive → Prop where
  | intro {before behind : List Char} {name : String} {type : Primitive}
    (hvalue : value.toList = before ++ '=' :: behind) (hfirst : '=' ∉ before)
    (hthere : before ≠ []) (hname : Trims before name.toList)
    (htype : Trims behind type.text.toList) : MapsTo value (name, type)

/-- Why a value is refused: it has no equals sign, there is nothing in front of the first one or
nothing behind it, or what is behind it names no type. -/
inductive Refused (value : String) : MappingFault → Prop where
  | unsigned (hvalue : '=' ∉ value.toList) : Refused value (.malformed value)
  | nameless {behind : List Char} (hvalue : value.toList = '=' :: behind) :
    Refused value (.malformed value)
  | typeless {before : List Char} (hvalue : value.toList = before ++ ['='])
    (hfirst : '=' ∉ before) : Refused value (.malformed value)
  | unknown {before behind : List Char} {name type : String}
    (hvalue : value.toList = before ++ '=' :: behind) (hfirst : '=' ∉ before)
    (hthere : before ≠ []) (hbehind : behind ≠ []) (hname : Trims before name.toList)
    (htype : Trims behind type.toList) (hword : type ∉ typeWords) :
    Refused value (.unknownType ⟨type, name⟩)

theorem takeWhile_front {before : List Char} (h : '=' ∉ before) (behind : List Char) :
    (before ++ '=' :: behind).takeWhile (· ≠ '=') = before := by
  have hbefore : ∀ c ∈ before, decide (c ≠ '=') = true := fun c hc =>
    decide_eq_true fun he => h (he ▸ hc)
  rw [List.takeWhile_append_of_pos hbefore]
  simp

theorem readMapping_split {value : String} {before behind : List Char}
    (hvalue : value.toList = before ++ '=' :: behind) (hfirst : '=' ∉ before) :
    readMapping value = if before.isEmpty || behind.isEmpty then .error (.malformed value)
      else .ok (strip (String.ofList before), strip (String.ofList behind)) := by
  have htype : (before ++ '=' :: behind).drop (before.length + 1) = behind := by
    rw [← List.drop_drop, List.drop_left]
    rfl
  simp only [readMapping, hvalue, takeWhile_front hfirst, htype]

theorem readMapping_unsigned {value : String} (h : '=' ∉ value.toList) :
    readMapping value = .error (.malformed value) := by
  have hname : value.toList.takeWhile (· ≠ '=') = value.toList :=
    takeWhile_eq_self fun c hc => decide_eq_true fun he : c = '=' => h (he ▸ hc)
  have htype : value.toList.drop (value.toList.length + 1) = [] :=
    List.drop_eq_nil_of_le (Nat.le_succ _)
  simp only [readMapping, hname, htype, List.isEmpty_nil, Bool.or_true, if_true]

theorem register_text (scalars : Scalars) (name : String) (type : Primitive) :
    scalars.register name type.text = .ok ⟨scalars.types.put name type⟩ := by
  rw [Scalars.register, Primitive.ofText?_text]

theorem register_of_not_mem (scalars : Scalars) {name type : String} (h : type ∉ typeWords) :
    scalars.register name type = .error ⟨type, name⟩ := by
  have hnone : Primitive.ofText? type = none :=
    Option.not_isSome_iff_eq_none.mp fun hsome => h ((Primitive.ofText?_isSome type).mp hsome)
  rw [Scalars.register, hnone]

theorem addMapping_of_mapsTo {value : String} {mapping : String × Primitive}
    (h : MapsTo value mapping) (scalars : Scalars) :
    addMapping scalars value = .ok ⟨scalars.types.put mapping.1 mapping.2⟩ := by
  obtain @⟨before, behind, name, type, hvalue, hfirst, hthere, hname, htype⟩ := h
  have hbehind : behind ≠ [] := by
    rintro rfl
    have htext := (trims_iff.mp htype).symm
    revert htext
    cases type <;> decide
  have hread : readMapping value = .ok (name, type.text) := by
    rw [readMapping_split hvalue hfirst, if_neg (by simp [hthere, hbehind]), strip_of_trims hname,
      strip_of_trims htype]
  simp only [addMapping, hread, ok_bind, register_text]
  rfl

theorem addMapping_of_refused {value : String} {fault : MappingFault} (h : Refused value fault)
    (scalars : Scalars) : addMapping scalars value = .error fault := by
  cases h with
  | unsigned hvalue =>
    rw [addMapping, readMapping_unsigned hvalue]
    rfl
  | @nameless behind hvalue =>
    have hsplit : value.toList = [] ++ '=' :: behind := hvalue
    rw [addMapping, readMapping_split hsplit List.not_mem_nil]
    rfl
  | @typeless before hvalue hfirst =>
    rw [addMapping, readMapping_split hvalue hfirst, if_pos (by simp)]
    rfl
  | @unknown before behind name type hvalue hfirst hthere hbehind hname htype hword =>
    have hread : readMapping value = .ok (name, type) := by
      rw [readMapping_split hvalue hfirst, if_neg (by simp [hthere, hbehind]),
        strip_of_trims hname, strip_of_trims htype]
    simp only [addMapping, hread, ok_bind, register_of_not_mem scalars hword]
    rfl

/-- Every value maps a scalar or is refused. -/
theorem mapsTo_or_refused (value : String) :
    (∃ mapping, MapsTo value mapping) ∨ ∃ fault, Refused value fault := by
  by_cases hsign : '=' ∈ value.toList
  · obtain ⟨before, behind, hvalue, hfirst⟩ := List.eq_append_cons_of_mem hsign
    by_cases hthere : before = []
    · subst hthere
      exact .inr ⟨_, .nameless hvalue⟩
    by_cases hbehind : behind = []
    · subst hbehind
      exact .inr ⟨_, .typeless hvalue hfirst⟩
    cases htype : Primitive.ofText? (strip (String.ofList behind)) with
    | some type =>
      have htext : type.text = strip (String.ofList behind) :=
        eq_of_beq (List.find?_some (p := fun type : Primitive => type.text == _) htype)
      exact .inl ⟨_, .intro hvalue hfirst hthere (trims_strip before)
        (htext ▸ trims_strip behind)⟩
    | none =>
      refine .inr ⟨_, .unknown hvalue hfirst hthere hbehind (trims_strip before)
        (trims_strip behind) fun hword => ?_⟩
      have hsome := (Primitive.ofText?_isSome _).mpr hword
      rw [htype] at hsome
      cases hsome
  · exact .inr ⟨_, .unsigned hsign⟩

/-- A value maps the scalar without a name just when blanks are all that is in front of its equals
sign. -/
theorem MapsTo.name_eq_empty {value name : String} {type : Primitive}
    (h : MapsTo value (name, type)) : name = "" ↔ ∃ blanks behind,
      value.toList = blanks ++ '=' :: behind ∧ ∀ c ∈ blanks, isBlank c = true := by
  cases h with
  | @intro before behind _ _ hvalue hfirst hthere hname htype =>
    constructor
    · rintro rfl
      exact ⟨before, behind, hvalue, trims_nil_iff.mp hname⟩
    · rintro ⟨blanks, rest, hrest, hblank⟩
      have hsign : '=' ∉ blanks := fun hmem => absurd (hblank _ hmem) (by decide)
      -- the equals sign is the first one in both, so the same stands in front of it
      obtain rfl : before = blanks := by
        rw [← takeWhile_front hfirst behind, ← hvalue, hrest, takeWhile_front hsign]
      rw [← strip_of_trims hname, strip, String.toList_ofList,
        trims_iff.mp (trims_nil_iff.mpr hblank)]

/-! ## All values -/

theorem foldlM_addMapping {values : List String} {mappings : List (String × Primitive)}
    (h : List.Forall₂ MapsTo values mappings) (scalars : Scalars) :
    values.foldlM addMapping scalars =
      .ok ⟨mappings.foldl (fun known found => known.put found.1 found.2) scalars.types⟩ := by
  induction h generalizing scalars with
  | nil => rfl
  | cons hmaps _ ih =>
    rw [List.foldlM_cons, addMapping_of_mapsTo hmaps, ok_bind, ih]
    rfl

theorem foldlM_addMapping_refused {before after : List String} {value : String}
    {fault : MappingFault} (hbefore : ∀ earlier ∈ before, ∃ mapping, MapsTo earlier mapping)
    (hvalue : Refused value fault) (scalars : Scalars) :
    (before ++ value :: after).foldlM addMapping scalars = .error fault := by
  induction before generalizing scalars with
  | nil =>
    rw [List.nil_append, List.foldlM_cons, addMapping_of_refused hvalue]
    rfl
  | cons earlier rest ih =>
    obtain ⟨mapping, hmaps⟩ := hbefore earlier List.mem_cons_self
    rw [List.cons_append, List.foldlM_cons, addMapping_of_mapsTo hmaps, ok_bind]
    exact ih (fun other hother => hbefore other (List.mem_cons_of_mem _ hother)) _

/-- All values of a list map scalars, or there is a first one that is refused. -/
theorem mapped_or_refused (values : List String) :
    (∃ mappings, List.Forall₂ MapsTo values mappings) ∨
      ∃ before value after fault, values = before ++ value :: after ∧
        (∀ earlier ∈ before, ∃ mapping, MapsTo earlier mapping) ∧ Refused value fault := by
  induction values with
  | nil => exact .inl ⟨[], .nil⟩
  | cons first rest ih =>
    rcases mapsTo_or_refused first with ⟨mapping, hmaps⟩ | ⟨fault, hrefused⟩
    · rcases ih with ⟨mappings, hrest⟩ | ⟨before, value, after, fault, rfl, hbefore, hrefused⟩
      · exact .inl ⟨mapping :: mappings, .cons hmaps hrest⟩
      · exact .inr ⟨first :: before, value, after, fault, rfl,
          List.forall_mem_cons.mpr ⟨⟨mapping, hmaps⟩, hbefore⟩, hrefused⟩
    · exact .inr ⟨[], first, rest, fault, rfl, fun _ h => absurd h List.not_mem_nil, hrefused⟩

/-! ## The registry -/

theorem readMappings_of_mapsTo {values : List String} {mappings : List (String × Primitive)}
    (h : List.Forall₂ MapsTo values mappings) : readMappings values = .ok (overlaid mappings) :=
  foldlM_addMapping h .builtin

theorem mem_keys_overlaid {mappings : List (String × Primitive)} {name : String} :
    name ∈ (overlaid mappings).types.keys ↔
      name ∈ Scalars.builtin.types.keys ∨ name ∈ mappings.map Prod.fst := by
  have hbuiltin : Scalars.builtin.types.keys.Nodup := by decide
  rw [overlaid, Keyed.keys_foldl_put mappings hbuiltin, List.mem_eraseDups, List.mem_append]

theorem exists_of_forall₂ {α β : Type} {R : α → β → Prop} {xs : List α} {ys : List β}
    (h : List.Forall₂ R xs ys) : ∀ y ∈ ys, ∃ x ∈ xs, R x y := by
  induction h with
  | nil => exact fun y hy => absurd hy List.not_mem_nil
  | @cons x y xs ys hxy _ ih =>
    refine List.forall_mem_cons.mpr ⟨⟨x, List.mem_cons_self, hxy⟩, fun z hz => ?_⟩
    obtain ⟨w, hw, hwz⟩ := ih z hz
    exact ⟨w, List.mem_cons_of_mem _ hw, hwz⟩

section

variable {values : List String} {mappings : List (String × Primitive)}

/-- No name in a registry has blanks around it. -/
theorem isTrimmed_of_mem_overlaid (h : List.Forall₂ MapsTo values mappings) {name : String}
    (hname : name ∈ (overlaid mappings).types.keys) : IsTrimmed name.toList := by
  rcases mem_keys_overlaid.mp hname with hbuiltin | hmapped
  · have hall : ∀ name ∈ Scalars.builtin.types.keys, stripChars isBlank name.toList = name.toList :=
      by decide
    exact (trims_iff.mpr (hall name hbuiltin)).trimmed
  · obtain ⟨⟨_, type⟩, hmapping, rfl⟩ := List.mem_map.mp hmapped
    obtain ⟨value, -, hmaps⟩ := exists_of_forall₂ h _ hmapping
    cases hmaps with
    | intro _ _ _ hname _ => exact hname.trimmed

/-- The scalar without a name is in a registry just when some value has nothing but blanks in front
of its equals sign. -/
theorem empty_mem_overlaid_iff (h : List.Forall₂ MapsTo values mappings) :
    "" ∈ (overlaid mappings).types.keys ↔ ∃ value ∈ values, ∃ blanks behind,
      value.toList = blanks ++ '=' :: behind ∧ ∀ c ∈ blanks, isBlank c = true := by
  rw [mem_keys_overlaid]
  constructor
  · rintro (hbuiltin | hmapped)
    · exact absurd hbuiltin (by decide)
    · obtain ⟨⟨_, type⟩, hmapping, rfl⟩ := List.mem_map.mp hmapped
      obtain ⟨value, hvalue, hmaps⟩ := exists_of_forall₂ h _ hmapping
      exact ⟨value, hvalue, hmaps.name_eq_empty.mp rfl⟩
  · rintro ⟨value, hvalue, hblank⟩
    obtain ⟨⟨name, type⟩, hmapping, hmaps⟩ := exists_of_forall₂ h.flip value hvalue
    obtain rfl : name = "" := hmaps.name_eq_empty.mpr hblank
    exact .inr (List.mem_map.mpr ⟨_, hmapping, rfl⟩)

end

/-! ## A run with mappings -/

variable {disk : Disk} {s : ConvertSettings}

/-- What settings lead to when the mapped scalars are given. -/
def productUnder (disk : Disk) (s : ConvertSettings) (scalars : Scalars) : Except Stop Product := do
  let documents ← ((sourcesOf disk s).mapM Source.document).mapError Stop.ofLoadError
  let c ← (Converter.convertDocument ⟨s.layout, scalars⟩ documents.flatten).mapError
    Stop.ofBuildError
  accepted s c
  handedOver disk s c

theorem productOf_of_maps {scalars : Scalars} (hmaps : readMappings s.mappings = .ok scalars) :
    productOf disk s = productUnder disk s scalars := by
  unfold productOf productUnder
  cases hloads : (sourcesOf disk s).mapM Source.document with
  | error e =>
    rw [conversionOf_of_loadError hmaps hloads]
    rfl
  | ok documents =>
    rw [conversionOf_of_loads hmaps hloads]
    rfl

theorem run_of_mappingFault {words : List String} {read : Words ConvertOption}
    (hread : readWords convertForms true words = .ok read) (hs : Settled disk read s)
    (hhelp : ¬ AsksForHelp words) {fault : MappingFault}
    (hmaps : readMappings s.mappings = .error fault) :
    run disk ("convert" :: words) = Run.stop (.usage (some .convert) (.mapping fault)) := by
  rw [run_settled hread hs hhelp, convert, hmaps]
  rfl

/-- Behind words that are taken, either every mapping has something in front of its first equals
sign and a type behind it, or there is a first one that does not. In the first case a run goes on
with the built-in scalars and the mappings written over them in turn, so the last one of a name
counts; in the second it stops at once and says what is wrong with that mapping. No name that is
mapped has blanks around it. It is looked at before they are taken away, though: the scalar without
a name is mapped just when some mapping has nothing but blanks in front of its equals sign. -/
theorem convert_under_mappings (disk : Disk) {words : List String} {read : Words ConvertOption}
    {s : ConvertSettings} (hread : readWords convertForms true words = .ok read)
    (hs : Settled disk read s) (hhelp : ¬ AsksForHelp words) :
    let values := mappingsOf read.given
    ((∃ mappings, List.Forall₂ MapsTo values mappings) ∨
      ∃ before value after fault, values = before ++ value :: after ∧
        (∀ earlier ∈ before, ∃ mapping, MapsTo earlier mapping) ∧ Refused value fault) ∧
    (∀ mappings, List.Forall₂ MapsTo values mappings →
      (run disk ("convert" :: words)).result = productUnder disk s (overlaid mappings) ∧
      (∀ name, (overlaid mappings).get? name =
        (Keyed.lastValue? mappings name).or (Scalars.builtin.get? name)) ∧
      (∀ name ∈ (overlaid mappings).types.keys, IsTrimmed name.toList) ∧
      ("" ∈ (overlaid mappings).types.keys ↔ ∃ value ∈ values, ∃ blanks behind,
        value.toList = blanks ++ '=' :: behind ∧ ∀ c ∈ blanks, isBlank c = true)) ∧
    ∀ before value after fault, values = before ++ value :: after →
      (∀ earlier ∈ before, ∃ mapping, MapsTo earlier mapping) → Refused value fault →
      run disk ("convert" :: words) = Run.stop (.usage (some .convert) (.mapping fault)) := by
  intro values
  have hvalues : s.mappings = values := hs.mappings
  refine ⟨mapped_or_refused values, fun mappings hmaps => ⟨?_, fun name => ?_, fun name hname => ?_,
    empty_mem_overlaid_iff hmaps⟩, fun before value after fault heq hbefore hrefused => ?_⟩
  · rw [result_run_settled hread hs hhelp]
    exact productOf_of_maps (hvalues ▸ readMappings_of_mapsTo hmaps)
  · exact Keyed.get?_foldl_put_eq mappings Scalars.builtin.types name
  · exact isTrimmed_of_mem_overlaid hmaps hname
  · have hfails : readMappings s.mappings = .error fault := by
      rw [hvalues, heq]
      exact foldlM_addMapping_refused hbefore hrefused .builtin
    exact run_of_mappingFault hread hs hhelp hfails

/-- Words that map a scalar of the built-in ones twice, with blanks around the parts. -/
def mappingWords : List String :=
  ["-s", "q.graphql", "--scalar", " Int =string", "--scalar", "Int=\tinteger"]

/-- The words with two further values, neither of which maps anything. -/
def refusedWords : List String :=
  mappingWords ++ ["--scalar", "Long=int=eger", "--scalar", "=string"]

theorem forall₂_mappingWords : List.Forall₂ MapsTo [" Int =string", "Int=\tinteger"]
    [("Int", .string), ("Int", .integer)] := by
  have hfirst : MapsTo " Int =string" ("Int", .string) :=
    @MapsTo.intro _ " Int ".toList "string".toList _ _ rfl (by decide) (by decide)
      (trims_iff.mpr (by decide)) (trims_iff.mpr (by decide))
  have hsecond : MapsTo "Int=\tinteger" ("Int", .integer) :=
    @MapsTo.intro _ "Int".toList "\tinteger".toList _ _ rfl (by decide) (by decide)
      (trims_iff.mpr (by decide)) (trims_iff.mpr (by decide))
  exact .cons hfirst (.cons hsecond .nil)

/-- The last mapping counts, and the first value that maps nothing ends a run. -/
theorem convert_under_mappings_mappingWords :
    (run spreadDisk ("convert" :: mappingWords)).result =
      productUnder spreadDisk
        ⟨"q.graphql", "", .definitions, [" Int =string", "Int=\tinteger"], 2, false, false, false⟩
        (overlaid [("Int", .string), ("Int", .integer)]) ∧
      (overlaid [("Int", .string), ("Int", .integer)]).get? "Int" = some .integer ∧
      run spreadDisk ("convert" :: refusedWords) =
        Run.stop (.usage (some .convert) (.mapping (.unknownType ⟨"int=eger", "Long"⟩))) := by
  have hread : readWords convertForms true mappingWords = .ok ⟨[(.source, "q.graphql"),
      (.scalar, " Int =string"), (.scalar, "Int=\tinteger")], []⟩ := by rfl
  have hread' : readWords convertForms true refusedWords = .ok ⟨[(.source, "q.graphql"),
      (.scalar, " Int =string"), (.scalar, "Int=\tinteger"), (.scalar, "Long=int=eger"),
      (.scalar, "=string")], []⟩ := by rfl
  have hhelp : ¬ AsksForHelp mappingWords := not_asksForHelp_of_reads hread rfl
  have hhelp' : ¬ AsksForHelp refusedWords := not_asksForHelp_of_reads hread' rfl
  have hrefused : Refused "Long=int=eger" (.unknownType ⟨"int=eger", "Long"⟩) :=
    @Refused.unknown _ "Long".toList "int=eger".toList _ _ rfl (by decide) (by decide)
      (by decide) (trims_iff.mpr (by decide)) (trims_iff.mpr (by decide)) (by decide)
  have hmapped := convert_under_mappings spreadDisk hread (ofWords_eq_ok_iff.mp (by rfl)) hhelp
  have hstops := convert_under_mappings spreadDisk hread' (ofWords_eq_ok_iff.mp (by rfl)) hhelp'
  obtain ⟨hresult, hget, -⟩ := hmapped.2.1 _ forall₂_mappingWords
  refine ⟨hresult, (hget "Int").trans (by decide), ?_⟩
  refine hstops.2.2 [" Int =string", "Int=\tinteger"] "Long=int=eger" ["=string"] _ rfl ?_ hrefused
  intro earlier hearlier
  obtain ⟨mapping, -, hmaps⟩ := exists_of_forall₂ forall₂_mappingWords.flip earlier hearlier
  exact ⟨mapping, hmaps⟩

/-- Words with a value that has a single blank in front of its equals sign. -/
def blankWords : List String := ["-s", "q.graphql", "--scalar", " =string"]

/-- Without its blank the value has no name. It is taken all the same, the scalar without a name is
mapped, and the run ends well. -/
theorem convert_maps_nameless_scalar : ∃ d : Converted spreadDisk blankWords,
    ¬ AsksForHelp blankWords ∧ mappingsOf d.read.given = [" =string"] ∧
      (∀ name type, MapsTo " =string" (name, type) → name = "") ∧
      d.scalars.get? "" = some .string ∧ (run spreadDisk ("convert" :: blankWords)).status = 0 := by
  have hread : readWords convertForms true blankWords =
      .ok ⟨[(.source, "q.graphql"), (.scalar, " =string")], []⟩ := by rfl
  have hsettled : Settled spreadDisk ⟨[(.source, "q.graphql"), (.scalar, " =string")], []⟩
      ⟨"q.graphql", "", .definitions, [" =string"], 2, false, false, false⟩ :=
    ofWords_eq_ok_iff.mp (by rfl)
  have hhelp : ¬ AsksForHelp blankWords := not_asksForHelp_of_reads hread rfl
  have hblank : ∃ blanks behind, " =string".toList = blanks ++ '=' :: behind ∧
      ∀ c ∈ blanks, isBlank c = true :=
    ⟨[' '], "string".toList, rfl, List.forall_mem_singleton.mpr rfl⟩
  have hmaps : readMappings [" =string"] = .ok (overlaid [("", .string)]) :=
    readMappings_of_mapsTo (.cons (@MapsTo.intro _ [' '] "string".toList _ _ rfl (by decide)
      (by decide) (trims_iff.mpr (by decide)) (trims_iff.mpr (by decide))) .nil)
  have hconvert : Converter.convertDocument ⟨.definitions, overlaid [("", .string)]⟩
    [spreadDocument].flatten = .ok ⟨_, _⟩ := rfl
  let d : Delivery spreadDisk blankWords :=
    ⟨⟨_, _, _, _, _, hread, hsettled, hmaps, loads_spreadDisk, hconvert⟩,
      String.ofList (Json.written (Json.Style.ofIndent (some 2)) 0 _), (fun h => nomatch h), rfl⟩
  have hresult := d.result_run hhelp fun h => absurd rfl h
  refine ⟨d.toConverted, hhelp, rfl, fun name type h => h.name_eq_empty.mpr hblank, rfl, ?_⟩
  rw [Run.status, hresult]
  rfl

end QuerySchema.CommandLine
