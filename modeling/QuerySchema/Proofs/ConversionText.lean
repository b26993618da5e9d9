import QuerySchema.Proofs.Places
import QuerySchema.Proofs.SchemaConformance
import QuerySchema.Proofs.WrittenTexts

/-!
The text of a conversion.

Numbers reach a generated document through the defaults of variables and nowhere else. An integer
is taken over only if it has not too many digits, and a number only if it is finite; so whatever a
document was made from, it can be written as JSON, and nothing of it is lost. What is left is the
indentation: with one that does not fit into 64 bits nothing is written. A text may be as long as
it has to be, and a document as deep as it is; what a machine has room for is set aside.

What is proved:
  1. `storable_defaultOf`: what a default gives can be stored in a text.
  2. `storable_selectionSetSchema`, `storable_typeMembers`, `storable_entry`: so can what selections,
     types and definitions give, by induction along the parts.
  3. `storable_toJson`: the document of a conversion can be stored.
  4. `text_lossless`: with every indentation of 64 bits the document has a text of printable ASCII
     and line feeds, and a strict reading of it gives the document again.
-/

namespace QuerySchema.Json

open Decimal

@[simp] theorem storable_array {items : List Json} :
    Storable (.array items) ↔ ∀ item ∈ items, Storable item :=
  ⟨fun | .array h => h, .array⟩

@[simp] theorem storable_object {members : Keyed String Json} :
    Storable (.object members) ↔ members.keys.Nodup ∧ ∀ p ∈ members, Storable p.2 :=
  ⟨fun | .object hnodup h => ⟨hnodup, h⟩, fun h => .object h.1 h.2⟩

@[simp] theorem storable_string {text : String} : Storable (.string text) := .string text

@[simp] theorem storable_bool {value : Bool} : Storable (.bool value) := .bool value

@[simp] theorem storable_label (label : GraphQL.Label) : Storable label.json := by
  cases label with
  | text word => exact .string word
  | truth value => exact .bool value
  | nothing => exact .null

/-- An object with one more member, or another value for one. -/
theorem storable_put {members : Keyed String Json} (h : Storable (.object members)) (name : String)
    {value : Json} (hv : Storable value) : Storable (.object (members.put name value)) := by
  rw [storable_object] at h ⊢
  refine ⟨Keyed.nodup_keys_put h.1 name value, fun p hp => ?_⟩
  rcases Keyed.of_mem_put hp with rfl | hp
  · exact hv
  · exact h.2 p hp

end QuerySchema.Json

namespace QuerySchema.Decimal

/-- A number of some digits is below the power of ten with as many zeros. -/
theorem digitsValue_lt {cs : List Char} (h : ∀ c ∈ cs, isDigit c = true) :
    digitsValue cs < 10 ^ cs.length := by
  induction cs with
  | nil => decide
  | cons c cs ih =>
    obtain ⟨hc, hcs⟩ := List.forall_mem_cons.mp h
    have hrest := ih hcs
    have hdigit := isDigit_iff.mp hc
    rw [digitsValue_eq, Nat.ofDigitChars_cons, Nat.ofDigitChars_eq_ofDigitChars_zero,
      ← digitsValue_eq, List.length_cons, Nat.pow_succ, Nat.mul_zero, Nat.zero_add]
    generalize 10 ^ cs.length = power at hrest ⊢
    have hfirst : power * (c.toNat - '0'.toNat) ≤ power * 9 :=
      Nat.mul_le_mul_left power (Nat.sub_le_of_le_add hdigit.2)
    omega

/-- An integer that is read has not too many digits. -/
theorem length_of_readInteger {text : String} {n : Int} (h : readInteger text = .ok n) :
    (decimalDigits n.natAbs).length ≤ digitLimit := by
  obtain ⟨digits, hdigits, hlimit, hn⟩ : ∃ digits, (∀ c ∈ digits, isDigit c = true) ∧
      digits.length ≤ digitLimit ∧ n.natAbs = digitsValue digits := by
    simp only [readInteger] at h
    split at h
    · cases h
    split at h
    · cases h
    next hlimit =>
    split at h
    · refine ⟨_, fun c hc => (List.mem_filter.mp hc).2, Nat.le_of_not_lt hlimit, ?_⟩
      rw [← Except.ok.inj h]
      split <;> omega
    · cases h
  rw [decimalDigits, Nat.length_toDigits_le_iff (by decide) (by decide), hn]
  exact lt_of_lt_of_le (digitsValue_lt hdigits) (Nat.pow_le_pow_right (by decide) hlimit)

end QuerySchema.Decimal

namespace QuerySchema.Schema

open Decimal GraphQL Json

/-! ## Defaults and variables -/

variable {scope : Scope} {path : List Label} {reports : List Diagnostic}

/-- What a default gives can be stored: an integer has not too many digits, a number is finite. -/
theorem storable_defaultOf {value : Value} {literal : Json}
    (h : defaultOf value = .ok (some literal)) : Storable literal := by
  rcases defaultOf_cases h with ⟨text, n, hread, rfl⟩ | ⟨x, hfinite, rfl⟩ | ⟨label, rfl⟩
  · exact .int (length_of_readInteger hread)
  · exact .float hfinite
  · exact storable_label label

theorem storable_primitive (type : Primitive) : Storable (.object type.schema) := by
  simp [Primitive.schema]

theorem storable_baseProperty (scalars : Scalars) (typeName : Label) :
    Storable (.object (baseProperty scalars typeName)) := by
  rcases baseProperty_cases scalars typeName with he | ⟨type, he⟩
  · rw [he]
    simp
  · rw [he]
    exact storable_primitive type

theorem storable_variableProperty {typeName : Label} {default? : Option Value} {property : Json}
    (h : variableProperty scope typeName default? path = ⟨reports, .ok property⟩) :
    Storable property := by
  have hbase := storable_baseProperty scope.scalars typeName
  rcases variableProperty_eq_ok h with ⟨-, rfl, -⟩ | ⟨_, literal, -, hdefault, rfl, -⟩ |
    ⟨_, _, -, -, -, rfl, -⟩
  · exact hbase
  · exact storable_put hbase "default" (storable_defaultOf hdefault)
  · exact hbase

theorem storable_inputs {declarations : List VariableDefinition} {inputs : Inputs}
    (h : inputsOf scope declarations = ⟨reports, .ok inputs⟩) : Storable inputs.schema := by
  have hproperties : Storable (.object inputs.properties) := by
    refine Reported.foldlM_preserves (motive := fun inputs => Storable (.object inputs.properties))
      (fun before declaration _ hbefore r next hstep => ?_) (by simp [Inputs.empty]) h
    rcases addVariable_eq_ok hstep with ⟨typeName, property, -, hproperty, rfl⟩ | ⟨-, -, rfl, -⟩
    · exact storable_put hbefore _ (storable_variableProperty hproperty)
    · exact hbefore
  simpa [Inputs.schema, Keyed.keys] using hproperties

theorem storable_variablesPart {declarations? : Option (List VariableDefinition)} {schema : Json}
    {keys : List String}
    (h : variablesPart scope declarations? = ⟨reports, .ok (schema, keys)⟩) : Storable schema := by
  rcases variablesPart_eq_ok h with ⟨rfl, rfl, -⟩ | ⟨rfl, rfl, -⟩ |
    ⟨declarations, inputs, rfl, -, hinputs, rfl, -⟩
  · simp
  · simp
  · exact storable_inputs hinputs

/-! ## Selections -/

/-- Properties under different names, each of them a text, can be stored. -/
structure AreStorable (properties : Keyed Label Json) : Prop where
  nodup : properties.keys.Nodup
  isText : ∀ name ∈ properties.keys, name.IsText
  storable : ∀ p ∈ properties, Storable p.2

theorem areStorable_nil : AreStorable [] :=
  ⟨Keyed.nodup_keys_nil, isText_nil, fun _ hp => absurd hp List.not_mem_nil⟩

theorem AreStorable.put {properties : Keyed Label Json} (h : AreStorable properties) {name : Label}
    (hname : name.IsText) {schema : Json} (hs : Storable schema) :
    AreStorable (properties.put name schema) where
  nodup := Keyed.nodup_keys_put h.nodup name schema
  isText := isText_put hname h.isText
  storable := by
    intro p hp
    rcases Keyed.of_mem_put hp with rfl | hp
    · exact hs
    · exact h.storable p hp

/-- As an object they keep different names. -/
theorem storable_labelled {properties : Keyed Label Json} (h : AreStorable properties) :
    Storable (labelled properties) := by
  rw [labelled, storable_object, Keyed.rename, List.forall_mem_map]
  refine ⟨?_, h.storable⟩
  have hkeys := nodup_map_key h.isText h.nodup
  rwa [Keyed.keys, List.map_map] at hkeys ⊢

theorem storable_selectedObject {properties : Keyed Label Json} (h : AreStorable properties) :
    Storable (selectedObject properties) := by
  have hproperties := storable_labelled h
  simpa [selectedObject, Keyed.keys, labelled] using hproperties

theorem storable_passedObject {properties : Keyed Label Json} (h : AreStorable properties) :
    Storable (passedObject properties) := by
  have hproperties := storable_labelled h
  simpa [passedObject, Keyed.keys, labelled] using hproperties

theorem storable_fieldObject {selected passed : Json} (hs : Storable selected)
    (hp : Storable passed) : Storable (fieldObject selected passed) := by
  simp [fieldObject, Keyed.keys, hs, hp]

theorem storable_anything : Storable (.object []) := by simp

theorem storable_reference (pointer : String) : Storable (reference pointer) := by simp [reference]

/-- Of selections whose names are texts, all that is built can be stored. -/
def storableInvariant (scope : Scope) : SelectionInvariant scope where
  selection := Selection.Spelled
  argument argument := argument.name.IsText
  schema := Storable
  properties := AreStorable
  parts := spelled_parts
  anything := storable_anything
  bound _ _ _ _ := storable_reference _
  empty := areStorable_nil
  addArgument hname hbuilt hfound := hbuilt.put hname hfound
  addField hfield hbuilt hfound := hbuilt.put (Selection.spelled_field.mp hfield).1 hfound
  selected := storable_selectedObject
  passed := storable_passedObject
  field := storable_fieldObject

theorem storable_selectionSetSchema {selectionSet : Option (List Selection)}
    (hs : ∀ selection ∈ selectionSet.getD [], selection.Spelled) {schema : Json}
    (h : selectionSetSchema scope path selectionSet = ⟨reports, .ok schema⟩) : Storable schema :=
  (storableInvariant scope).of_selectionSetSchema hs h

theorem storable_operationSchema {name : Label} {operation : Operation} {schema : Json}
    (hs : ∀ selection ∈ operation.selectionSet.getD [], selection.Spelled)
    (h : operationSchema scope name operation = ⟨reports, .ok schema⟩) : Storable schema := by
  obtain ⟨inputs, keys, selections, r₁, r₂, hinputs, hselections, rfl, -⟩ := operationSchema_eq_ok h
  simp [operationObject, Keyed.keys, storable_variablesPart hinputs,
    storable_selectionSetSchema hs hselections]

/-! ## Types -/

theorem storable_typeMembers {scalars : Scalars} {type : TypeRef} {members : Keyed String Json}
    (h : typeMembers scalars type = .ok members) : Storable (.object members) := by
  induction type generalizing members with
  | nonNull inner ih => exact ih h
  | list item ih =>
    obtain ⟨inner, hinner, rfl⟩ := Outcome.map_eq_ok.mp h
    simpa [Keyed.keys] using ih hinner
  | flawed flaw => cases h
  | named label =>
    cases label with
    | truth value => cases h
    | nothing => cases h
    | text name =>
      obtain rfl := Except.ok.inj h
      rw [Scalars.schema?]
      cases scalars.get? name with
      | none => simp
      | some type => exact storable_primitive type

theorem storable_described {members : Keyed String Json} (h : Storable (.object members))
    (text? : Option Label) : Storable (.object (described members text?)) := by
  cases text? with
  | none => exact h
  | some label => exact storable_put h "description" (storable_label label)

theorem areStorable_fieldsOf {scalars : Scalars} {definitions : List FieldDefinition}
    {fields : Fields} (hs : ∀ field ∈ definitions, field.Spelled)
    (h : fieldsOf scalars definitions = .ok fields) : AreStorable fields.properties := by
  refine Reported.foldlM_preserves (motive := fun fields : Fields => AreStorable fields.properties)
    (fun before field hmem hbefore r next hstep => ?_) areStorable_nil (foldlM_addField_eq_ok h)
  obtain ⟨-, hadd⟩ := Reported.ofExcept_eq_ok.mp hstep
  obtain ⟨members, text?, hmembers, -, rfl⟩ := addField_eq_ok hadd
  exact hbefore.put (hs field hmem).1 (storable_described (storable_typeMembers hmembers) text?)

theorem storable_typeEntry {scalars : Scalars} {type : TypeDefinition} {name : Label}
    {schema : Json}
    (hs : ∀ field ∈ type.fields, field.Spelled)
    (h : typeEntry scalars type = .ok (name, schema)) : Storable schema := by
  obtain ⟨fields, text?, hfields, -, -, rfl⟩ := typeEntry_eq_ok h
  have hproperties := storable_labelled (areStorable_fieldsOf hs hfields)
  refine storable_described ?_ text?
  simpa [fieldedMembers, Keyed.keys, labelled] using hproperties

theorem storable_enumEntry {type : EnumDefinition} {name : Label} {schema : Json}
    (h : enumEntry type = .ok (name, schema)) : Storable schema := by
  obtain ⟨values, text?, -, -, -, rfl⟩ := enumEntry_eq_ok h
  refine storable_described ?_ text?
  simp [enumMembers, Keyed.keys]

/-! ## Documents -/

/-- A document under whose names, different texts, there are entries that can be stored. -/
structure SchemaDocument.IsStorable (document : SchemaDocument) : Prop where
  nodup : document.entries.keys.Nodup
  isText : document.HasTextNames
  storable : ∀ p ∈ document.entries, Storable p.2.schema

theorem areStorable_under {document : SchemaDocument} (h : document.IsStorable) (key : String) :
    AreStorable (document.under key) where
  nodup := by
    have hkeys : (document.under key).keys =
        ((document.entries.filter fun p => p.2.container document.layout = key).map Prod.fst) := by
      rw [SchemaDocument.under, SchemaDocument.schemas, Keyed.keys, List.map_map]
      rfl
    rw [hkeys]
    exact h.nodup.sublist (List.filter_sublist.map Prod.fst)
  isText := List.forall_mem_map.mpr (SchemaDocument.under_names h.isText key)
  storable := by
    intro p hp
    obtain ⟨entry, he, rfl⟩ := List.mem_map.mp hp
    exact h.storable entry (List.mem_filter.mp he).1

theorem storable_toJson {document : SchemaDocument} (h : document.IsStorable) :
    Storable document.toJson := by
  rw [SchemaDocument.toJson_eq, storable_object]
  constructor
  · cases document.layout with
    | definitions => simp [Keyed.keys, Layout.container]
    | properties => split <;> simp [Keyed.keys, Layout.container]
  · refine List.forall_mem_cons.mpr ⟨storable_string, List.forall_mem_map.mpr fun key _ => ?_⟩
    exact storable_labelled (areStorable_under h key)

namespace Converter

variable {converter : Converter}

/-- The entry of a definition can be stored. -/
theorem storable_entry {definition : Definition} (hs : definition.Spelled) {name : Label}
    {entry : Entry} (h : converter.entry definition = ⟨reports, .ok (name, entry)⟩) :
    Storable entry.schema := by
  rcases entry_cases h with ⟨operation, schema, rfl, rfl, hentry⟩ |
    ⟨type, schema, rfl, rfl, -, hentry⟩ | ⟨type, schema, rfl, rfl, -, hentry⟩
  · exact storable_operationSchema hs.2.2 (operationEntry_eq_ok hentry).2.2
  · exact storable_typeEntry hs.2.2 hentry
  · exact storable_enumEntry hentry

/-- A conversion of a document, or of a single definition, in which all names are texts. -/
inductive Makes (converter : Converter) (c : Conversion) : Prop where
  | document {definitions : Document} (hs : ∀ definition ∈ definitions, definition.Spelled)
    (h : converter.convertDocument definitions = .ok c)
  | definition {definition : Definition} (hs : definition.Spelled)
    (h : converter.convert definition = .ok c)

theorem isStorable_of_makes {c : Conversion} (h : converter.Makes c) : c.document.IsStorable := by
  cases h with
  | @document definitions hs h =>
    obtain ⟨hentries, htext, hnodup⟩ := entries_of_spelled hs h
    refine ⟨hnodup, htext, ?_⟩
    rw [hentries, List.forall_mem_flatMap]
    intro definition hd
    obtain ⟨name, entry, reports, hentry, heq⟩ := entry_of_attempted h hd
    rw [heq, List.forall_mem_singleton]
    exact storable_entry (hs definition (of_mem_attemptedOf hd).1) hentry
  | @definition definition hs h =>
    obtain ⟨name, entry, hentry, hdocument⟩ := convert_eq_ok h
    rw [hdocument]
    exact ⟨List.nodup_singleton name, List.forall_mem_singleton.mpr (isText_of_entry hs hentry),
      List.forall_mem_singleton.mpr (storable_entry hs hentry)⟩

/-- Lines can be indented by a signed number of 64 bits. -/
def IsIndentation (width : Int) : Prop := -0x8000000000000000 ≤ width ∧ width < 0x8000000000000000

theorem indentError?_eq_none {indent : Option Int} :
    indentError? indent = none ↔ ∀ width ∈ indent, IsIndentation width := by
  cases indent with
  | none => exact iff_of_true rfl fun _ h => nomatch h
  | some width =>
    have hall : (∀ w ∈ some width, IsIndentation w) ↔ IsIndentation width :=
      ⟨fun h => h width rfl, fun h w hw => Option.some.inj hw ▸ h⟩
    rw [hall, IsIndentation, indentError?]
    simp only [Bool.or_eq_true, decide_eq_true_eq]
    split
    · exact iff_of_false (by simp) (by omega)
    · exact iff_of_true rfl (by omega)

/-- Every conversion has a text on one line, and one with every indentation of 64 bits. With whatever
indentation it has one, that is printable ASCII and line feeds, and a strict reading of it gives the
document again: the same names in the same order, the same texts and the same numbers. -/
theorem text_lossless {c : Conversion} (h : converter.Makes c) (indent : Option Int) :
    ((∀ width ∈ indent, IsIndentation width) → ∃ text, c.text indent = .ok text) ∧
      ∀ text, c.text indent = .ok text →
        ArePlain text.toList ∧ readStrict text = .ok c.document.toJson := by
  have hstorable := storable_toJson (isStorable_of_makes h)
  have hobject : c.document.toJson.isString = false := by
    rw [SchemaDocument.toJson_eq]
    rfl
  constructor
  · intro hindent
    obtain ⟨text, htext, -⟩ := toText_storable hstorable (indentError?_eq_none.mpr hindent)
    exact ⟨text, htext⟩
  · intro text htext
    obtain ⟨found, hfound, hplain, hread⟩ :=
      toText_storable hstorable (indentError?_of_toText hobject htext)
    cases hfound.symm.trans htext
    exact ⟨hplain, hread⟩

/-- A query with defaults: a text with a quote, a control character and one above U+FFFF, and an
integer below zero. -/
def defaultsDocument : Document :=
  [.operation ⟨some .query, named "Q",
    some [⟨"s", .named "String", some (.string "\"\x01😀" false), []⟩,
      ⟨"n", .named "Int", some (.int "-12"), []⟩], [], some [.field none "f" [] [] none]⟩]

theorem text_lossless_defaultsDocument : ∃ c text, ReadFromText defaultsDocument ∧
    convertDocument ⟨.definitions, .builtin⟩ defaultsDocument = .ok c ∧ IsIndentation (-3) ∧
      c.text (some (-3)) = .ok text ∧ readStrict text = .ok c.document.toJson := by
  have hparse : Document.ofText ("query Q($s: String = \"\\\"\\u0001😀\", $n: Int = -12) " ++
      "\x7b f \x7d") = .ok defaultsDocument := by
    cbv
  have hread : ReadFromText defaultsDocument := fun _ hd => ⟨_, _, hparse, hd⟩
  have hconvert : convertDocument ⟨.definitions, .builtin⟩ defaultsDocument = .ok ⟨_, _⟩ := rfl
  have hindent : ∀ width ∈ some (-3), IsIndentation width := by
    simp [IsIndentation]
  have hlossless := text_lossless (.document hread.spelled hconvert) (some (-3))
  obtain ⟨text, htext⟩ := hlossless.1 hindent
  exact ⟨_, text, hread, hconvert, hindent _ rfl, htext, (hlossless.2 text htext).2⟩

/-- A query of a single field. -/
def plainDocument : Document :=
  [.operation ⟨some .query, named "Q", some [], [], some [.field none "f" [] [] none]⟩]

/-- With an indentation beyond 64 bits even a plain query has no text. -/
theorem text_refuses_wide_indentation :
    Document.ofText "query Q \x7b f \x7d" = .ok plainDocument ∧
      ∃ c, convertDocument ⟨.definitions, .builtin⟩ plainDocument = .ok c ∧
        c.text (some (-0x8000000000000001)) = .error .indentTooLarge :=
  ⟨by cbv, ⟨_, _⟩, rfl, rfl⟩

end Converter

end QuerySchema.Schema
