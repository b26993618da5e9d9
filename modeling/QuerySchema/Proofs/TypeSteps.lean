import QuerySchema.Proofs.DocumentMerge
import QuerySchema.Proofs.LastWrites

/-!
What one step of building a type can do.

The fields of a type are added one after the other; then comes the description, if there is one, and
the name is read last. A step lemma says all that can have happened when a step succeeded.

What is proved:
  1. `addField_eq_ok`: a field gives its name a property, and requires it when it excludes null; so
     what holds of the schema of each field holds of every property (`forall_mem_fieldsOf`).
  2. `typeEntry_eq_ok`, `enumEntry_eq_ok`: the entry of a type is built from its fields, or values,
     and its description.
  3. `fieldsOf_get?`, `fieldsOf_keys`: the last field of a name decides its property, and the first one
     its place.
  4. `required_of_fieldsOf`: which names a type requires, in order and with repetition.
-/

namespace QuerySchema.Schema

open GraphQL

variable {scalars : Scalars}

/-! ## Descriptions -/

/-- Some members with a description, if there is one. -/
def described (members : Keyed String Json) : Option Label → Keyed String Json
  | some label => members.put "description" label.json
  | none => members

theorem describe_eq_ok {members out : Keyed String Json} {description : Readable (Option Label)}
    (h : describe members description = .ok out) :
    ∃ text?, description = .ok text? ∧ out = described members text? := by
  unfold describe at h
  obtain ⟨text?, hread, hput⟩ := Outcome.bind_eq_ok.mp h
  refine ⟨text?, Outcome.mapError_eq_ok.mp hread, ?_⟩
  cases text? with
  | none => cases hput; rfl
  | some label => cases hput; rfl

/-! ## Fields -/

/-- Some fields with one more. -/
def Fields.add (fields : Fields) (name : Label) (schema : Json) (isRequired : Bool) : Fields :=
  ⟨fields.properties.put name schema,
    if isRequired then fields.required ++ [name] else fields.required⟩

theorem addField_eq_ok {fields out : Fields} {field : FieldDefinition}
    (h : addField scalars fields field = .ok out) :
    ∃ members text?, typeMembers scalars field.type = .ok members ∧
      field.description = .ok text? ∧
      out = fields.add field.name (.object (described members text?)) (excludesNull field.type) := by
  unfold addField at h
  obtain ⟨members, hmembers, hrest⟩ := Outcome.bind_eq_ok.mp h
  obtain ⟨full, hdescribe, hput⟩ := Outcome.bind_eq_ok.mp hrest
  obtain ⟨text?, htext, rfl⟩ := describe_eq_ok hdescribe
  cases hput
  exact ⟨members, text?, hmembers, htext, rfl⟩

/-- Adding the fields one after the other makes no report. -/
theorem foldlM_addField_eq_ok {definitions : List FieldDefinition} {fields : Fields}
    (h : fieldsOf scalars definitions = .ok fields) :
    definitions.foldlM (fun fields field => Reported.ofExcept (addField scalars fields field))
      ⟨[], []⟩ = (⟨[], .ok fields⟩ : Build Fields) := by
  rw [Reported.foldlM_ofExcept]
  exact congrArg Reported.ofExcept h

/-- What holds of the schema of each field by itself holds of every property of the type. -/
theorem forall_mem_fieldsOf {Q : Json → Prop} {definitions : List FieldDefinition}
    (hfield : ∀ field ∈ definitions, ∀ members text?,
      typeMembers scalars field.type = .ok members → field.description = .ok text? →
      Q (.object (described members text?)))
    {fields : Fields} (h : fieldsOf scalars definitions = .ok fields) :
    ∀ p ∈ fields.properties, Q p.2 := by
  refine Reported.foldlM_preserves (motive := fun fields : Fields => ∀ p ∈ fields.properties, Q p.2)
    (fun before field hmem hbefore reports next hstep => ?_)
    (fun p hp => absurd hp List.not_mem_nil) (foldlM_addField_eq_ok h)
  obtain ⟨-, hadd⟩ := Reported.ofExcept_eq_ok.mp hstep
  obtain ⟨members, text?, hmembers, htext, rfl⟩ := addField_eq_ok hadd
  intro p hp
  rcases Keyed.of_mem_put hp with rfl | hp
  · exact hfield field hmem members text? hmembers htext
  · exact hbefore p hp

/-- The last field of a name. -/
def lastField? (fields : List FieldDefinition) (name : Label) : Option FieldDefinition :=
  Outcome.lastGiven (fun field => field.name = name) some fields

/-- The schema of a field: that of its type, with its description. -/
def IsFieldSchema (scalars : Scalars) (field : FieldDefinition) (schema : Json) : Prop :=
  ∃ members text?, typeMembers scalars field.type = .ok members ∧ field.description = .ok text? ∧
    schema = .object (described members text?)

/-- The last field of a name decides its property. -/
theorem fieldsOf_get? {definitions : List FieldDefinition} {fields : Fields}
    (h : fieldsOf scalars definitions = .ok fields) (name : Label) :
    Outcome.Decided (IsFieldSchema scalars) (lastField? definitions name) none
      (fields.properties.get? name) := by
  refine Outcome.foldlM_decided (fun fields : Fields => fields.properties.get? name)
    (fun before field reports next hstep => ?_) (foldlM_addField_eq_ok h)
  obtain ⟨-, hadd⟩ := Reported.ofExcept_eq_ok.mp hstep
  obtain ⟨members, text?, hmembers, htext, rfl⟩ := addField_eq_ok hadd
  by_cases hname : field.name = name
  · rw [if_pos hname, ← hname]
    exact ⟨_, Keyed.get?_put_self _ _ _, members, text?, hmembers, htext, rfl⟩
  · rw [if_neg hname]
    exact Keyed.get?_put_of_ne _ _ fun he => hname he.symm

/-- The properties of a type are those of its fields, each name once and in the order of the fields. -/
theorem fieldsOf_keys {definitions : List FieldDefinition} {fields : Fields}
    (h : fieldsOf scalars definitions = .ok fields) :
    fields.properties.keys = (definitions.map FieldDefinition.name).eraseDups := by
  have hkeys := Keyed.keys_foldlM_filter Fields.properties FieldDefinition.name (fun _ => true)
    (fun before field reports next hstep => ?_) Keyed.nodup_keys_nil (foldlM_addField_eq_ok h)
  · rwa [List.filter_eq_self.mpr fun _ _ => rfl] at hkeys
  · obtain ⟨-, hadd⟩ := Reported.ofExcept_eq_ok.mp hstep
    obtain ⟨members, text?, -, -, rfl⟩ := addField_eq_ok hadd
    exact ⟨_, rfl⟩

/-- The fields that have to be there: those whose type excludes null. -/
def demandedFields (definitions : List FieldDefinition) : List FieldDefinition :=
  definitions.filter fun field => excludesNull field.type

/-- The names of the fields that have to be there are required, one for each field. -/
theorem required_of_fieldsOf {definitions : List FieldDefinition} {fields : Fields}
    (h : fieldsOf scalars definitions = .ok fields) :
    fields.required = (demandedFields definitions).map FieldDefinition.name := by
  refine Outcome.foldlM_appends_filter Fields.required (fun field => excludesNull field.type)
    FieldDefinition.name (fun before field reports next hstep => ?_) (foldlM_addField_eq_ok h)
  obtain ⟨-, hadd⟩ := Reported.ofExcept_eq_ok.mp hstep
  obtain ⟨members, text?, -, -, rfl⟩ := addField_eq_ok hadd
  rfl

/-! ## Entries -/

/-- The members of the entry of a type with fields, without a description. -/
def fieldedMembers (fields : Fields) : Keyed String Json :=
  [("type", .string "object"), ("properties", labelled fields.properties),
    ("required", .array (fields.required.map Label.json))]

theorem typeEntry_eq_ok {type : TypeDefinition} {name : Label} {schema : Json}
    (h : typeEntry scalars type = .ok (name, schema)) :
    ∃ fields text?, fieldsOf scalars type.fields = .ok fields ∧ type.description = .ok text? ∧
      type.name = .ok (some name) ∧ schema = .object (described (fieldedMembers fields) text?) := by
  obtain ⟨fields, hfields, hrest⟩ := Outcome.bind_eq_ok.mp h
  obtain ⟨members, hdescribe, hrest⟩ := Outcome.bind_eq_ok.mp hrest
  obtain ⟨label, hname, he⟩ := Outcome.bind_eq_ok.mp hrest
  obtain ⟨text?, htext, rfl⟩ := describe_eq_ok hdescribe
  cases he
  exact ⟨fields, text?, hfields, htext, Converter.requireName_eq_ok hname, rfl⟩

/-- The members of the entry of an enum type, without a description. -/
def enumMembers (values : List Label) : Keyed String Json :=
  [("type", .string "string"), ("enum", .array (values.map Label.json))]

theorem enumEntry_eq_ok {type : EnumDefinition} {name : Label} {schema : Json}
    (h : enumEntry type = .ok (name, schema)) :
    ∃ values text?, type.values.mapM readable = .ok values ∧ type.description = .ok text? ∧
      type.name = .ok (some name) ∧ schema = .object (described (enumMembers values) text?) := by
  obtain ⟨values, hvalues, hrest⟩ := Outcome.bind_eq_ok.mp h
  obtain ⟨members, hdescribe, hrest⟩ := Outcome.bind_eq_ok.mp hrest
  obtain ⟨label, hname, he⟩ := Outcome.bind_eq_ok.mp hrest
  obtain ⟨text?, htext, rfl⟩ := describe_eq_ok hdescribe
  cases he
  exact ⟨values, text?, hvalues, htext, Converter.requireName_eq_ok hname, rfl⟩

end QuerySchema.Schema
