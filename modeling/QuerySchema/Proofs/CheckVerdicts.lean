import QuerySchema.Proofs.DiagnosticTexts
import QuerySchema.Proofs.SchemaConformance

/-!
The verdict of the check on a generated document.

A pattern that cannot be used ends the check of a schema without a verdict. Nothing puts a pattern
into a generated document: the words of a schema are fixed, and whatever is named in the source
stands where a name belongs. All that can be wrong is that a name is required twice. So a document
that was read from text is accepted, or it is refused for names that repeat, and the path to them
goes through keywords and names of the source.

What is proved:
  1. `judged_object`: a schema is judged when all of its keywords are.
  2. `judged_operationSchema`, `judged_typeEntry`: operations and types are judged, although what
     they require need not fit.
  3. `check_eq_error`: the document of a conversion is accepted, or it is refused for a repetition.
-/

namespace QuerySchema.Draft06

open Schema

/-! ## Values that are judged -/

/-- What is said about names of which one comes twice. -/
def repetitionText (names : List String) : String :=
  (Json.array (names.map .string)).display ++ " has non-unique elements"

/-- What is found is that names repeat, at a path of printable texts. -/
def Finding.IsRepetition : Finding → Prop
  | .violation path message =>
    (∀ step ∈ path, IsPlainText step) ∧ ∃ names, message = repetitionText names
  | .unusable _ => False

/-- Nothing is found in a value but names that repeat. -/
def Judged (shape : Shape) (value : Json) : Prop :=
  ∀ finding ∈ findings shape value, finding.IsRepetition

/-- The value of a word is judged, if the word is a keyword. -/
def JudgedKeyword (word : String) (value : Json) : Prop :=
  ∀ shape, shape? word = some shape → Judged shape value

theorem Fits.judged {shape : Shape} {value : Json} (h : Fits shape value) : Judged shape value := by
  intro finding hf
  rw [h] at hf
  exact absurd hf List.not_mem_nil

theorem FitsKeyword.judged {word : String} {value : Json} (h : FitsKeyword word value) :
    JudgedKeyword word value := fun shape hs => (h shape hs).judged

/-- A repetition is one from further up, if the step to it is printable. -/
theorem Finding.IsRepetition.under {finding : Finding} (h : finding.IsRepetition) {step : String}
    (hstep : IsPlainText step) : (finding.under step).IsRepetition := by
  cases finding with
  | violation path message => exact ⟨List.forall_mem_cons.mpr ⟨hstep, h.1⟩, h.2⟩
  | unusable fault => exact h

theorem isPlainText_keyword : ∀ keyword ∈ keywords, IsPlainText keyword.1 := by decide

/-- An object is judged as a schema when all of its keywords are. -/
theorem judged_object {members : List (String × Json)} (h : ∀ p ∈ members, JudgedKeyword p.1 p.2) :
    Judged .schema (.object members) := by
  intro finding hf
  obtain ⟨keyword, hkeyword, hf⟩ := List.mem_flatMap.mp (hf : finding ∈ inKeywordOrder _)
  cases hlook : (keywordFindings members).lookup keyword.1 with
  | none =>
    rw [hlook] at hf
    exact absurd hf List.not_mem_nil
  | some found =>
    rw [hlook, Option.getD_some] at hf
    obtain ⟨inner, hinner, rfl⟩ := List.mem_map.mp hf
    obtain ⟨before, after, hmembers, -⟩ := List.lookup_eq_some_iff.mp hlook
    obtain ⟨value, shape, hvalue, hs, rfl⟩ :=
      mem_keywordFindings (hmembers ▸ List.mem_append_right before List.mem_cons_self)
    exact (h _ hvalue shape hs inner hinner).under (isPlainText_keyword keyword hkeyword)

/-- Schemas under printable names are judged when each of them is. -/
theorem judgedKeyword_map {word : String} (hw : shape? word = some .schemaMap)
    {members : List (String × Json)} (h : ∀ p ∈ members, IsPlainText p.1 ∧ Judged .schema p.2) :
    JudgedKeyword word (.object members) := by
  intro shape hs
  obtain rfl : Shape.schemaMap = shape := Option.some.inj (hw.symm.trans hs)
  intro finding hf
  have hf : finding ∈ memberFindings members := hf
  induction members with
  | nil => exact absurd hf List.not_mem_nil
  | cons p rest ih =>
    obtain ⟨hp, hrest⟩ := List.forall_mem_cons.mp h
    rcases List.mem_append.mp hf with hfirst | hlater
    · obtain ⟨inner, hinner, rfl⟩ := List.mem_map.mp hfirst
      exact (hp.2 inner hinner).under hp.1
    · exact ih hrest hlater hlater

/-- Names are judged, whether or not they come twice. -/
theorem judgedKeyword_required (names : List String) :
    JudgedKeyword "required" (.array (names.map .string)) := by
  intro shape hs
  obtain rfl : Shape.texts = shape := Option.some.inj hs
  intro finding hf
  have hf : finding ∈ textItems 0 (names.map Json.string) ++
      (if repeatsText (names.map .string) then
        wrong (.array (names.map .string)) " has non-unique elements" else []) := hf
  rw [textItems_string, List.nil_append] at hf
  split at hf
  · obtain rfl := List.mem_singleton.mp hf
    exact ⟨List.forall_mem_nil _, names, rfl⟩
  · exact absurd hf List.not_mem_nil

/-- A value that is judged is refused for a repetition, if it is not accepted. -/
theorem Judged.check_eq_error {value : Json} (h : Judged .schema value) {e : CheckError}
    (hcheck : check value = .error e) :
    ∃ path names, e = .invalid path (repetitionText names) ∧ ∀ step ∈ path, IsPlainText step := by
  unfold check at hcheck
  unfold Judged at h
  split at hcheck
  · cases hcheck
  · next path message rest hfound =>
    cases hcheck
    rw [hfound] at h
    obtain ⟨hpath, names, rfl⟩ := h _ List.mem_cons_self
    exact ⟨path, names, rfl, hpath⟩
  · next fault rest hfound =>
    rw [hfound] at h
    exact (h _ List.mem_cons_self).elim

end QuerySchema.Draft06

namespace QuerySchema.Schema

open Draft06 GraphQL

variable {scope : Scope} {reports : List Diagnostic}

/-! ## Operations -/

theorem judged_inputs {declarations : List VariableDefinition} {inputs : Inputs}
    (h : inputsOf scope declarations = ⟨reports, .ok inputs⟩) : Judged .schema inputs.schema := by
  refine judged_object ?_
  simp only [List.forall_mem_cons, List.not_mem_nil, false_implies, implies_true, and_true]
  exact ⟨(fitsKeyword_type .object).judged,
    ((fitsKeyword_map rfl).mpr (fits_property_of_inputsOf h)).judged,
    judgedKeyword_required _, fitsKeyword_closed.judged⟩

theorem judged_variablesPart {declarations? : Option (List VariableDefinition)} {schema : Json}
    {keys : List String}
    (h : variablesPart scope declarations? = ⟨reports, .ok (schema, keys)⟩) :
    Judged .schema schema := by
  rcases variablesPart_eq_ok h with ⟨-, rfl, -⟩ | ⟨-, rfl, -⟩ |
    ⟨declarations, inputs, -, -, hinputs, rfl, -⟩
  · exact fits_empty.judged
  · exact fits_false.judged
  · exact judged_inputs hinputs

theorem judged_operationSchema {name : Label} {operation : Operation} {schema : Json}
    (h : operationSchema scope name operation = ⟨reports, .ok schema⟩) :
    Judged .schema schema := by
  obtain ⟨inputs, keys, selections, r₁, r₂, hinputs, hselections, rfl, -⟩ := operationSchema_eq_ok h
  have hparts : JudgedKeyword "properties"
      (.object [("variables", inputs), ("selections", selections)]) := by
    have hvariables : IsPlainText "variables" := by decide
    have hselected : IsPlainText "selections" := by decide
    exact judgedKeyword_map rfl (List.forall_mem_cons.mpr
      ⟨⟨hvariables, judged_variablesPart hinputs⟩, List.forall_mem_singleton.mpr
        ⟨hselected, (fits_selectionSetSchema hselections).judged⟩⟩)
  refine judged_object ?_
  simp only [List.forall_mem_cons, List.not_mem_nil, false_implies, implies_true, and_true]
  exact ⟨(fitsKeyword_type .object).judged, fitsKeyword_closed.judged, hparts⟩

/-! ## Types -/

theorem judged_typeEntry {scalars : Scalars} {type : TypeDefinition} {name : Label} {schema : Json}
    (hd : SaysText type.description) (hf : ∀ field ∈ type.fields, field.Spelled)
    (h : typeEntry scalars type = .ok (name, schema)) : Judged .schema schema := by
  obtain ⟨fields, text?, hfields, htext, -, rfl⟩ := typeEntry_eq_ok h
  obtain ⟨names, -, hjson⟩ := map_json_of_isText fields.required (by
    intro label hl
    rw [required_of_fieldsOf hfields] at hl
    obtain ⟨field, hfield, rfl⟩ := List.mem_map.mp hl
    exact (hf field (List.mem_filter.mp hfield).1).1)
  have hmembers : ∀ p ∈ fieldedMembers fields, JudgedKeyword p.1 p.2 := by
    rw [fieldedMembers, hjson]
    simp only [List.forall_mem_cons, List.not_mem_nil, false_implies, implies_true, and_true]
    exact ⟨(fitsKeyword_type .object).judged,
      ((fitsKeyword_labelled rfl).mpr (areSchemas_fieldsOf hf hfields)).judged,
      judgedKeyword_required names⟩
  refine judged_object ?_
  -- a description is one more member, or it takes the place of one
  cases text? with
  | none => exact hmembers
  | some label =>
    obtain ⟨text, rfl⟩ := saysText_eq_ok hd htext label rfl
    intro p hp
    rcases Keyed.of_mem_put hp with rfl | hp
    · exact (fitsKeyword_text rfl).judged
    · exact hmembers p hp

/-! ## Documents -/

namespace Converter

variable {converter : Converter}

/-- The entry of a definition is judged. -/
theorem judged_entry {definition : Definition} (hs : definition.Spelled) {name : Label}
    {entry : Entry} (h : converter.entry definition = ⟨reports, .ok (name, entry)⟩) :
    Judged .schema entry.schema := by
  rcases entry_cases h with ⟨operation, schema, rfl, rfl, hentry⟩ |
    ⟨type, schema, rfl, rfl, -, hentry⟩ | ⟨type, schema, rfl, rfl, -, hentry⟩
  · exact judged_operationSchema (operationEntry_eq_ok hentry).2.2
  · exact judged_typeEntry hs.2.1 hs.2.2 hentry
  · exact (fits_enumEntry hs.2 hentry).judged

/-- A document is judged when its entries are and their names are printable. -/
theorem judged_toJson {document : SchemaDocument}
    (h : ∀ p ∈ document.entries, IsPlainText p.1.key ∧ Judged .schema p.2.schema) :
    Judged .schema document.toJson := by
  have hunder (key : String) (hkey : shape? key = some .schemaMap) :
      JudgedKeyword key (labelled (document.under key)) := by
    refine judgedKeyword_map hkey ?_
    intro p hp
    obtain ⟨entry, hentry, rfl⟩ := List.mem_map.mp hp
    obtain ⟨found, hfound, rfl⟩ := List.mem_map.mp hentry
    exact h found (List.mem_filter.mp hfound).1
  -- whatever the layout, its keys are among the two that hold schemas under names
  rw [SchemaDocument.toJson_eq]
  refine judged_object (List.forall_mem_cons.mpr ⟨(fitsKeyword_text rfl).judged, ?_⟩)
  refine List.forall_mem_map.mpr fun key hkey => hunder key ?_
  cases hlayout : document.layout <;> rw [hlayout] at hkey
  all_goals
    simp only [Layout.container] at hkey
    rcases List.mem_cons.mp hkey with rfl | hmore
    · rfl
    · split at hmore
      · rw [List.mem_singleton.mp hmore]
        rfl
      · exact absurd hmore List.not_mem_nil

/-- The entry of a definition that is worded stands under a printable name. -/
theorem isPlainText_key_of_entry {definition : Definition} (hw : definition.Worded) {name : Label}
    {entry : Entry} (h : converter.entry definition = ⟨reports, .ok (name, entry)⟩) :
    IsPlainText name.key := by
  obtain ⟨text, rfl⟩ := isText_of_entry hw.grammatical.spelled h
  obtain ⟨hname, -⟩ := entry_eq_ok h
  have hlabel := isPlain_label hw
  rw [Definition.label, hname] at hlabel
  exact hlabel

/-- The document of a conversion is accepted as a schema, or it is refused for names that repeat. -/
theorem check_eq_error {definitions : Document} (hread : ReadFromText definitions) {c : Conversion}
    (h : converter.convertDocument definitions = .ok c) {e : CheckError}
    (hcheck : Draft06.check c.document.toJson = .error e) :
    ∃ path names, e = .invalid path (repetitionText names) ∧ ∀ step ∈ path, IsPlainText step := by
  refine Judged.check_eq_error (judged_toJson ?_) hcheck
  rw [(entries_of_spelled hread.spelled h).1, List.forall_mem_flatMap]
  intro definition hd
  obtain ⟨name, entry, reports, hentry, heq⟩ := entry_of_attempted h hd
  have hmem := (of_mem_attemptedOf hd).1
  rw [heq, List.forall_mem_singleton]
  exact ⟨isPlainText_key_of_entry (hread.worded definition hmem) hentry,
    judged_entry (hread.spelled definition hmem) hentry⟩

end Converter

end QuerySchema.Schema
