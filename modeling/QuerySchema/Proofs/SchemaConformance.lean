import Mathlib
import QuerySchema.Proofs.ReadDocuments
import QuerySchema.Proofs.SchemaFindings
import QuerySchema.Proofs.TypeSteps

/-!
When a generated document is a draft-06 schema.

Whatever the definitions of a document are called and however deep they are nested, the schemas that
are built for their parts are draft-06 schemas, with one exception. The names that an operation or a
type requires are written down as often as they are required, and the names under `required` must
not repeat; nothing keeps a name from being declared twice.

What is proved:
  1. `fits_selectionSetSchema`, `fits_typeMembers`, `fits_of_isPropertyFor`: what selections, types
     and variables give are schemas, by induction along the parts.
  2. `fits_entry_iff`: the entry of a definition is a schema just when none of the names that it
     requires, in order and with repetition, comes twice.
  3. `check_toJson_iff`: a document that was read from text gives a draft-06 schema just when no
     definition that has an entry requires a name twice.
-/

namespace QuerySchema.Schema

open Draft06 GraphQL

variable {scope : Scope} {path : List Label} {reports : List Diagnostic}

/-! ## Selections -/

/-- Every property is a schema. -/
def AreSchemas (properties : Keyed Label Json) : Prop := ∀ p ∈ properties, Fits .schema p.2

theorem areSchemas_nil : AreSchemas [] := fun _ hp => absurd hp List.not_mem_nil

theorem areSchemas_put {properties : Keyed Label Json} (h : AreSchemas properties) {name : Label}
    {schema : Json} (hs : Fits .schema schema) : AreSchemas (properties.put name schema) := by
  intro p hp
  rcases Keyed.of_mem_put hp with rfl | hp
  · exact hs
  · exact h p hp

theorem fitsKeyword_labelled {word : String} (hw : shape? word = some .schemaMap)
    {properties : Keyed Label Json} :
    FitsKeyword word (labelled properties) ↔ AreSchemas properties := by
  rw [labelled, fitsKeyword_map hw, Keyed.rename, List.forall_mem_map]
  rfl

theorem fits_reference (pointer : String) : Fits .schema (reference pointer) := by
  rw [reference, fits_object (by simp [Keyed.keys])]
  intro p hp
  rw [List.mem_singleton.mp hp]
  exact fitsKeyword_text rfl

theorem fits_selectedObject {properties : Keyed Label Json} (h : AreSchemas properties) :
    Fits .schema (selectedObject properties) := by
  rw [selectedObject, fits_object (by simp [Keyed.keys])]
  simp only [List.forall_mem_cons, List.not_mem_nil, false_implies, implies_true, and_true]
  exact ⟨fitsKeyword_type .object, fitsKeyword_closed, (fitsKeyword_labelled rfl).mpr h⟩

theorem fits_passedObject {properties : Keyed Label Json} (h : AreSchemas properties) :
    Fits .schema (passedObject properties) := by
  rw [passedObject, fits_object (by simp [Keyed.keys])]
  simp only [List.forall_mem_cons, List.not_mem_nil, false_implies, implies_true, and_true]
  exact ⟨fitsKeyword_type .object, (fitsKeyword_labelled rfl).mpr h,
    (fitsKeyword_required []).mpr List.nodup_nil, fitsKeyword_closed⟩

theorem fits_fieldObject {selected passed : Json} (hs : Fits .schema selected)
    (hp : Fits .schema passed) : Fits .schema (fieldObject selected passed) := by
  rw [fieldObject, fits_object (by simp [Keyed.keys])]
  simp only [List.forall_mem_cons, List.not_mem_nil, false_implies, implies_true, and_true]
  refine ⟨fitsKeyword_type .object, fitsKeyword_closed,
    (fitsKeyword_required []).mpr List.nodup_nil, (fitsKeyword_map rfl).mpr ?_⟩
  simp only [List.forall_mem_cons, List.not_mem_nil, false_implies, implies_true, and_true]
  exact ⟨hs, hp⟩

/-- Whatever the selections are, schemas are built for them and for their arguments. -/
def schemaInvariant (scope : Scope) : SelectionInvariant scope where
  selection _ := True
  argument _ := True
  schema := Fits .schema
  properties := AreSchemas
  parts _ := ⟨fun _ _ => trivial, fun _ _ _ _ => trivial⟩
  anything := fits_empty
  bound _ _ _ _ := fits_reference _
  empty := areSchemas_nil
  addArgument _ hbuilt hfound := areSchemas_put hbuilt hfound
  addField _ hbuilt hfound := areSchemas_put hbuilt hfound
  selected := fits_selectedObject
  passed := fits_passedObject
  field := fits_fieldObject

theorem fits_selectionSetSchema {selectionSet : Option (List Selection)} {schema : Json}
    (h : selectionSetSchema scope path selectionSet = ⟨reports, .ok schema⟩) :
    Fits .schema schema :=
  (schemaInvariant scope).of_selectionSetSchema (fun _ _ => trivial) h

/-! ## Variables -/

theorem fits_primitive (type : Primitive) : Fits .schema (.object type.schema) := by
  rw [Primitive.schema, fits_object (by simp [Keyed.keys])]
  intro p hp
  rw [List.mem_singleton.mp hp]
  exact fitsKeyword_type type

theorem fits_of_isPropertyFor {scalars : Scalars} {typeName : Label} {property : Json}
    (h : IsPropertyFor scalars typeName property) : Fits .schema property := by
  have hbase : Fits .schema (.object (baseProperty scalars typeName)) ∧
      (baseProperty scalars typeName).keys.Nodup ∧
      "default" ∉ (baseProperty scalars typeName).keys := by
    rcases baseProperty_cases scalars typeName with he | ⟨type, he⟩
    · rw [he]
      exact ⟨fits_empty, Keyed.nodup_keys_nil, List.not_mem_nil⟩
    · rw [he]
      exact ⟨fits_primitive type, by simp [Primitive.schema, Keyed.keys],
        by simp [Primitive.schema, Keyed.keys]⟩
  obtain ⟨hfits, hnodup, hnew⟩ := hbase
  rcases h with rfl | ⟨literal, rfl⟩
  · exact hfits
  · exact (fits_put hnodup hnew (fitsKeyword_default literal)).mpr hfits

/-- The properties of variables are schemas. -/
theorem fits_property_of_inputsOf {declarations : List VariableDefinition} {inputs : Inputs}
    (h : inputsOf scope declarations = ⟨reports, .ok inputs⟩) :
    ∀ p ∈ inputs.properties, Fits .schema p.2 := by
  refine (Outcome.forall_mem_iff_of_decided (nodup_keys_inputsOf h) (inputsOf_get? h)
    (fun _ property => Fits .schema property) (fun _ _ => True) ?_).mpr fun _ _ _ => trivial
  intro key typeName property hproperty
  exact iff_of_true (fits_of_isPropertyFor hproperty) trivial

theorem fits_inputs {declarations : List VariableDefinition} {inputs : Inputs}
    (h : inputsOf scope declarations = ⟨reports, .ok inputs⟩) :
    Fits .schema inputs.schema ↔ inputs.required.Nodup := by
  have hproperties := fits_property_of_inputsOf h
  rw [Inputs.schema, fits_object (by simp [Keyed.keys])]
  simp only [List.forall_mem_cons, List.not_mem_nil, false_implies, implies_true, and_true]
  constructor
  · rintro ⟨-, -, hrequired, -⟩
    exact (fitsKeyword_required _).mp hrequired
  · intro hn
    exact ⟨fitsKeyword_type .object, (fitsKeyword_map rfl).mpr hproperties,
      (fitsKeyword_required _).mpr hn, fitsKeyword_closed⟩

/-! ## Operations -/

theorem fits_variablesPart {declarations? : Option (List VariableDefinition)} {schema : Json}
    {keys : List String}
    (h : variablesPart scope declarations? = ⟨reports, .ok (schema, keys)⟩) :
    Fits .schema schema ↔
      ((demanded (declarations?.getD [])).map fun d => variableKey d.name).Nodup := by
  rcases variablesPart_eq_ok h with ⟨rfl, rfl, -⟩ | ⟨rfl, rfl, -⟩ |
    ⟨declarations, inputs, rfl, -, hinputs, rfl, -⟩
  · exact iff_of_true fits_empty List.nodup_nil
  · exact iff_of_true fits_false List.nodup_nil
  · rw [fits_inputs hinputs, required_of_inputsOf hinputs, Option.getD_some]

theorem fits_operationObject {inputs selections : Json} (hs : Fits .schema selections) :
    Fits .schema (operationObject inputs selections) ↔ Fits .schema inputs := by
  have hparts : FitsKeyword "properties"
      (.object [("variables", inputs), ("selections", selections)]) ↔ Fits .schema inputs := by
    rw [fitsKeyword_map rfl]
    simp only [List.forall_mem_cons, List.not_mem_nil, false_implies, implies_true, and_true, hs]
  rw [operationObject, fits_object (by simp [Keyed.keys])]
  simp only [List.forall_mem_cons, List.not_mem_nil, false_implies, implies_true, and_true, hparts]
  exact ⟨fun h => h.2.2, fun h => ⟨fitsKeyword_type .object, fitsKeyword_closed, h⟩⟩

theorem fits_operationSchema {name : Label} {operation : Operation} {schema : Json}
    (h : operationSchema scope name operation = ⟨reports, .ok schema⟩) :
    Fits .schema schema ↔
      ((demanded (operation.declarations.getD [])).map fun d => variableKey d.name).Nodup := by
  obtain ⟨inputs, keys, selections, r₁, r₂, hinputs, hselections, rfl, -⟩ := operationSchema_eq_ok h
  rw [fits_operationObject (fits_selectionSetSchema hselections), fits_variablesPart hinputs]

/-! ## Types -/

/-- The schema of the values of a type is a schema without a description. -/
theorem fits_typeMembers {scalars : Scalars} {type : TypeRef} {members : Keyed String Json}
    (h : typeMembers scalars type = .ok members) :
    Fits .schema (.object members) ∧ members.keys.Nodup ∧ "description" ∉ members.keys := by
  induction type generalizing members with
  | nonNull inner ih => exact ih h
  | list item ih =>
    obtain ⟨inner, hinner, rfl⟩ := Outcome.map_eq_ok.mp h
    refine ⟨?_, by simp [Keyed.keys], by simp [Keyed.keys]⟩
    rw [fits_object (by simp [Keyed.keys])]
    simp only [List.forall_mem_cons, List.not_mem_nil, false_implies, implies_true, and_true]
    exact ⟨fitsKeyword_type .array, fitsKeyword_items (ih hinner).1⟩
  | flawed flaw => cases h
  | named label =>
    cases label with
    | truth value => cases h
    | nothing => cases h
    | text name =>
      obtain rfl := Except.ok.inj h
      rw [Scalars.schema?]
      cases scalars.get? name with
      | none => exact ⟨fits_reference _, by simp [Keyed.keys], by simp [Keyed.keys]⟩
      | some type =>
        exact ⟨fits_primitive type, by simp [Primitive.schema, Keyed.keys],
          by simp [Primitive.schema, Keyed.keys]⟩

/-- A description that is a text makes no difference. -/
theorem fits_described {members : Keyed String Json} (hn : members.keys.Nodup)
    (hnew : "description" ∉ members.keys) {text? : Option Label}
    (ht : ∀ label ∈ text?, label.IsText) :
    Fits .schema (.object (described members text?)) ↔ Fits .schema (.object members) := by
  cases text? with
  | none => rfl
  | some label =>
    obtain ⟨text, rfl⟩ := ht label rfl
    exact fits_put hn hnew (fitsKeyword_text rfl)

theorem areSchemas_fieldsOf {scalars : Scalars} {definitions : List FieldDefinition}
    {fields : Fields} (hs : ∀ field ∈ definitions, field.Spelled)
    (h : fieldsOf scalars definitions = .ok fields) : AreSchemas fields.properties := by
  refine forall_mem_fieldsOf ?_ h
  intro field hfield members text? hmembers htext
  obtain ⟨hfits, hnodup, hnew⟩ := fits_typeMembers hmembers
  have hdescription := saysText_eq_ok (hs field hfield).2 htext
  exact (fits_described hnodup hnew hdescription).mpr hfits

theorem fits_typeEntry {scalars : Scalars} {type : TypeDefinition} {name : Label} {schema : Json}
    (hd : SaysText type.description) (hf : ∀ field ∈ type.fields, field.Spelled)
    (h : typeEntry scalars type = .ok (name, schema)) :
    Fits .schema schema ↔ ((demandedFields type.fields).map FieldDefinition.name).Nodup := by
  obtain ⟨fields, text?, hfields, htext, -, rfl⟩ := typeEntry_eq_ok h
  have hkeys : (fieldedMembers fields).keys = ["type", "properties", "required"] := rfl
  obtain ⟨names, hnames, hjson⟩ := map_json_of_isText fields.required (by
    intro label hl
    rw [required_of_fieldsOf hfields] at hl
    obtain ⟨field, hfield, rfl⟩ := List.mem_map.mp hl
    exact (hf field (List.mem_filter.mp hfield).1).1)
  have hnodup : names.Nodup ↔ ((demandedFields type.fields).map FieldDefinition.name).Nodup := by
    rw [← required_of_fieldsOf hfields, hnames]
    exact (List.nodup_map_iff fun _ _ he => Label.text.inj he).symm
  rw [fits_described (by simp [hkeys]) (by simp [hkeys]) (saysText_eq_ok hd htext), ← hnodup,
    fieldedMembers, hjson, fits_object (by simp [Keyed.keys])]
  simp only [List.forall_mem_cons, List.not_mem_nil, false_implies, implies_true, and_true]
  constructor
  · rintro ⟨-, -, hrequired⟩
    exact (fitsKeyword_required names).mp hrequired
  · intro hn
    exact ⟨fitsKeyword_type .object, (fitsKeyword_labelled rfl).mpr (areSchemas_fieldsOf hf hfields),
      (fitsKeyword_required names).mpr hn⟩

theorem fits_enumEntry {type : EnumDefinition} {name : Label} {schema : Json}
    (hd : SaysText type.description) (h : enumEntry type = .ok (name, schema)) :
    Fits .schema schema := by
  obtain ⟨values, text?, -, htext, -, rfl⟩ := enumEntry_eq_ok h
  have hkeys : (enumMembers values).keys = ["type", "enum"] := rfl
  rw [fits_described (by simp [hkeys]) (by simp [hkeys]) (saysText_eq_ok hd htext), enumMembers,
    fits_object (by simp [Keyed.keys])]
  simp only [List.forall_mem_cons, List.not_mem_nil, false_implies, implies_true, and_true]
  exact ⟨fitsKeyword_type .string, fitsKeyword_enum _⟩

/-! ## Entries -/

/-- The names that a definition requires, each as often as it does: variables that have to be given,
and fields that have to be there. -/
def requiredNames : Definition → List Label
  | .operation operation =>
    (demanded (operation.declarations.getD [])).map VariableDefinition.name
  | .fielded type => (demandedFields type.fields).map FieldDefinition.name
  | _ => []

/-- Variables have different keys just when they have different names. -/
theorem nodup_variableKey {declarations : List VariableDefinition}
    (h : ∀ d ∈ declarations, d.name.IsText) :
    (declarations.map fun d => variableKey d.name).Nodup ↔
      (declarations.map VariableDefinition.name).Nodup := by
  obtain ⟨names, hnames, -⟩ := map_json_of_isText (declarations.map VariableDefinition.name)
    (List.forall_mem_map.mpr h)
  have hkeys : (declarations.map fun d => variableKey d.name) = names.map fun name => "$" ++ name := by
    have hvia : (declarations.map fun d => variableKey d.name) =
        (declarations.map VariableDefinition.name).map variableKey := by
      rw [List.map_map]
      rfl
    rw [hvia, hnames, List.map_map]
    rfl
  rw [hkeys, hnames, List.nodup_map_iff variableMark_injective,
    List.nodup_map_iff fun _ _ he => Label.text.inj he]

namespace Converter

variable {converter : Converter}

/-- The entry of a definition is a schema just when the definition requires no name twice. -/
theorem fits_entry_iff {definition : Definition} (hs : definition.Spelled) {name : Label}
    {entry : Entry} (h : converter.entry definition = ⟨reports, .ok (name, entry)⟩) :
    Fits .schema entry.schema ↔ (requiredNames definition).Nodup := by
  rcases entry_cases h with ⟨operation, schema, rfl, rfl, hentry⟩ |
    ⟨type, schema, rfl, rfl, -, hentry⟩ | ⟨type, schema, rfl, rfl, -, hentry⟩
  · obtain ⟨-, -, hschema⟩ := operationEntry_eq_ok hentry
    obtain ⟨-, hnames, -⟩ := hs
    have htexts : ∀ d ∈ demanded (operation.declarations.getD []), d.name.IsText := fun d hd =>
      hnames d (List.mem_filter.mp hd).1
    rw [fits_operationSchema hschema, nodup_variableKey htexts, requiredNames]
  · obtain ⟨-, hdescription, hfields⟩ := hs
    exact fits_typeEntry hdescription hfields hentry
  · exact iff_of_true (fits_enumEntry hs.2 hentry) List.nodup_nil

end Converter

/-! ## Documents -/

theorem areSchemas_schemas {document : SchemaDocument} {wanted : Entry → Bool} :
    AreSchemas (document.schemas wanted) ↔
      ∀ p ∈ document.entries, wanted p.2 = true → Fits .schema p.2.schema := by
  rw [AreSchemas, SchemaDocument.schemas, List.forall_mem_map]
  simp only [List.mem_filter, and_imp]

/-- Without types there is no member for them, and none that could be wrong. -/
theorem fitsKeyword_typesMember {types : Keyed Label Json} :
    (∀ p ∈ (if types.isEmpty then [] else [("definitions", labelled types)]),
      FitsKeyword p.1 p.2) ↔ AreSchemas types := by
  cases types with
  | nil => exact iff_of_true (fun _ hp => absurd hp List.not_mem_nil) areSchemas_nil
  | cons first rest =>
    rw [List.isEmpty_cons, if_neg Bool.false_ne_true, List.forall_mem_singleton,
      fitsKeyword_labelled rfl]

/-- A document is a schema just when all of its entries are. -/
theorem fits_toJson {document : SchemaDocument} :
    Fits .schema document.toJson ↔ ∀ p ∈ document.entries, Fits .schema p.2.schema := by
  have hversion : FitsKeyword "$schema" (.string draft06) := fitsKeyword_text rfl
  obtain ⟨layout, entries⟩ := document
  cases layout with
  | definitions =>
    rw [SchemaDocument.toJson, fits_object (by simp [Keyed.keys])]
    simp only [List.forall_mem_cons, List.not_mem_nil, false_implies, implies_true, and_true]
    rw [fitsKeyword_labelled rfl, areSchemas_schemas]
    constructor
    · intro h p hp
      exact h.2 p hp rfl
    · intro h
      exact ⟨hversion, fun p hp _ => h p hp⟩
  | properties =>
    rw [SchemaDocument.toJson]
    generalize hops : SchemaDocument.schemas ⟨.properties, entries⟩ (fun e => e.isOperation) = operations
    generalize htys : SchemaDocument.schemas ⟨.properties, entries⟩ (fun e => !e.isOperation) = types
    have hoperations : AreSchemas operations ↔
        ∀ p ∈ entries, p.2.isOperation = true → Fits .schema p.2.schema := by
      rw [← hops, areSchemas_schemas]
    have htypes : AreSchemas types ↔
        ∀ p ∈ entries, (!p.2.isOperation) = true → Fits .schema p.2.schema := by
      rw [← htys, areSchemas_schemas]
    rw [fits_object (by cases types <;> simp [Keyed.keys]), List.forall_mem_append,
      fitsKeyword_typesMember]
    simp only [List.forall_mem_cons, List.not_mem_nil, false_implies, implies_true, and_true]
    rw [fitsKeyword_labelled rfl, hoperations, htypes]
    constructor
    · rintro ⟨⟨-, hall⟩, hothers⟩ p hp
      cases hsort : p.2.isOperation with
      | true => exact hall p hp hsort
      | false => exact hothers p hp (by rw [hsort]; rfl)
    · intro h
      exact ⟨⟨hversion, fun p hp _ => h p hp⟩, fun p hp _ => h p hp⟩

namespace Converter

variable {converter : Converter}

/-- A document that was read from text gives a draft-06 schema just when no definition that has an
entry requires a name twice. -/
theorem check_toJson_iff {definitions : Document} (hread : ReadFromText definitions) {c : Conversion}
    (h : converter.convertDocument definitions = .ok c) :
    Draft06.check c.document.toJson = .ok () ↔
      ∀ definition ∈ attempted definitions, (requiredNames definition).Nodup := by
  have hspelled := hread.spelled
  rw [check_eq_ok_iff, fits_toJson, (entries_of_spelled hspelled h).1]
  simp only [List.forall_mem_flatMap]
  refine forall₂_congr fun definition hd => ?_
  obtain ⟨name, entry, reports, hentry, heq⟩ := entry_of_attempted h hd
  rw [heq, List.forall_mem_singleton]
  exact fits_entry_iff (hspelled definition (of_mem_attemptedOf hd).1) hentry

/-- A query of two variables that have to be given, and a type with a field that has to be there. -/
def pairDocument : Document :=
  [.operation ⟨some .query, named "Q", some [⟨"a", .nonNull (.named "Int"), none, []⟩,
      ⟨"b", .nonNull (.named "Int"), none, []⟩], [], some [.field none "f" [] [] none]⟩,
    .fielded ⟨.object, named "T", .ok none, [⟨"a", .nonNull (.list (.named "T")), .ok none⟩]⟩]

/-- Different names may be required, and one name in different definitions. -/
theorem check_toJson_iff_pairDocument :
    ∃ c, ReadFromText pairDocument ∧
      convertDocument ⟨.properties, .builtin⟩ pairDocument = .ok c ∧
      (attempted pairDocument).map requiredNames = [[.text "a", .text "b"], [.text "a"]] ∧
      Draft06.check c.document.toJson = .ok () := by
  have hparse : Document.ofText "query Q($a: Int!, $b: Int!) \x7b f \x7d type T \x7b a: [T]! \x7d" =
      .ok pairDocument := by
    cbv
  have hread : ReadFromText pairDocument := fun _ hd => ⟨_, _, hparse, hd⟩
  have hconvert : convertDocument ⟨.properties, .builtin⟩ pairDocument = .ok ⟨_, _⟩ := rfl
  exact ⟨_, hread, hconvert, rfl, (check_toJson_iff hread hconvert).mpr (by decide)⟩

/-- A query of a variable that has to be given and is declared twice. -/
def twiceDocument : Document :=
  [.operation ⟨some .query, named "Q", some [⟨"a", .nonNull (.named "Int"), none, []⟩,
    ⟨"a", .nonNull (.named "Int"), none, []⟩], [], some [.field none "f" [] [] none]⟩]

/-- A text with such a query is read and converted without a report, but what it is converted to is no
draft-06 schema. -/
theorem check_rejects_twiceDocument :
    Document.ofText "query Q($a: Int!, $a: Int!) \x7b f \x7d" = .ok twiceDocument ∧
      ∃ c, convertDocument ⟨.definitions, .builtin⟩ twiceDocument = .ok c ∧ c.isComplete = true ∧
        Draft06.check c.document.toJson =
          .error (.invalid ["definitions", "Q", "properties", "variables", "required"]
            "['$a', '$a'] has non-unique elements") := by
  refine ⟨by cbv, ⟨_, _⟩, rfl, rfl, ?_⟩
  cbv

end Converter

end QuerySchema.Schema
