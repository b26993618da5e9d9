import Mathlib.Data.List.Nodup
import QuerySchema.Proofs.FailingDefinitions
import QuerySchema.Proofs.Places
import QuerySchema.Proofs.TypeForms
import QuerySchema.Proofs.TypeReferences

/-!
What becomes of every field of a type.

Each name of a field has one property, whose place is that of the first field of the name and whose
schema is that of the last: the schema of its type and then its own description, if it has one. What
is required are the names of the fields whose type excludes null at its outermost level, as often as
there are such fields; inside a type nothing that excludes null counts.

What is proved:
  1. `typeEntry_of_isWhole`: a type whose names and descriptions are texts and whose fields have
     types with a name at their core has an entry.
  2. `described_eq_append`, `isOwnSchema_of_isWhole`: a description is the last member of a
     property.
  3. `fieldsOf_congr`, `typeEntry_congr`: what excludes null inside a type plays no part.
  4. `typeEntry_accounts`: keys, properties and required names of the entry of a type.
-/

namespace QuerySchema

namespace GraphQL

/-! ## Types whose parts are there -/

/-- The name and the description of a field are texts, and there is a name at the core of its
type. -/
def FieldDefinition.IsWhole (field : FieldDefinition) : Prop :=
  field.Spelled ∧ ∃ name, field.type.coreName? = some name

/-- A type has a name, its description is a text, and its fields are whole. -/
structure TypeDefinition.IsWhole (type : TypeDefinition) : Prop where
  named : ∃ name : String, type.name = .ok (some (.text name))
  described : SaysText type.description
  fields : ∀ field ∈ type.fields, field.IsWhole

/-- The name of a field as it stands in a schema. -/
def FieldDefinition.key (field : FieldDefinition) : String := field.name.key

/-- Two fields differ at most in what excludes null inside their types. -/
structure FieldDefinition.AgreesOutside (field other : FieldDefinition) : Prop where
  name : field.name = other.name
  description : field.description = other.description
  type : field.type.withNull = other.type.withNull
  outermost : Schema.excludesNull field.type = Schema.excludesNull other.type

theorem exists_text_of_saysText {place : Readable (Option Label)} (h : SaysText place) :
    ∃ text? : Option String, place = .ok (text?.map .text) := by
  obtain ⟨label?, rfl, htext⟩ := h
  cases label? with
  | none => exact ⟨none, rfl⟩
  | some label =>
    obtain ⟨text, rfl⟩ := htext label rfl
    exact ⟨some text, rfl⟩

end GraphQL

namespace Schema

open GraphQL Outcome

variable {scalars : Scalars}

/-! ## Entries -/

/-- The fields of a whole type make an entry under its name. -/
theorem typeEntry_of_isWhole (scalars : Scalars) {type : TypeDefinition} (h : type.IsWhole) :
    ∃ (name : String) (fields : Fields) (text? : Option Label),
      type.name = .ok (some (.text name)) ∧ fieldsOf scalars type.fields = .ok fields ∧
      typeEntry scalars type =
        .ok (.text name, .object (described (fieldedMembers fields) text?)) := by
  obtain ⟨name, hname⟩ := h.named
  have hfields : ∃ fields, fieldsOf scalars type.fields = .ok fields := by
    refine foldlM_succeeds (fun fields field hf => ?_) _
    obtain ⟨⟨-, htext⟩, core, hcore⟩ := h.fields field hf
    obtain ⟨full, hfull⟩ := describe_succeeds _ htext
    exact ⟨_, bind_eq_ok.mpr ⟨_, typeMembers_eq_listed hcore, bind_eq_ok.mpr ⟨full, hfull, rfl⟩⟩⟩
  obtain ⟨fields, hfields⟩ := hfields
  obtain ⟨members, hmembers⟩ := describe_succeeds (fieldedMembers fields) h.described
  have hentry : typeEntry scalars type = .ok (.text name, .object members) := by
    refine bind_eq_ok.mpr ⟨fields, hfields, bind_eq_ok.mpr ⟨members, hmembers, ?_⟩⟩
    rw [hname]
    rfl
  obtain ⟨text?, -, rfl⟩ := describe_eq_ok hmembers
  exact ⟨name, fields, text?, hname, hfields, hentry⟩

/-! ## Properties -/

/-- A description comes after all that is said of the type. -/
theorem described_eq_append {members : Keyed String Json} (h : "description" ∉ members.keys)
    (text? : Option String) :
    described members (text?.map .text) =
      members ++ text?.toList.map fun text => ("description", .string text) := by
  cases text? with
  | none => exact (List.append_nil members).symm
  | some text => exact Keyed.put_eq_append h _

/-- The schema of a field alone: all that is said of its type, and then its own description, if it
has one. -/
def IsOwnSchema (scalars : Scalars) (field : FieldDefinition) (schema : Json) : Prop :=
  ∃ (members : Keyed String Json) (text? : Option String),
    typeMembers scalars field.type = .ok members ∧ field.description = .ok (text?.map .text) ∧
    "description" ∉ members.keys ∧
    schema = .object (members ++ text?.toList.map fun text => ("description", .string text))

theorem isOwnSchema_of_isWhole {field : FieldDefinition} {schema : Json} (h : field.IsWhole)
    (hschema : IsFieldSchema scalars field schema) : IsOwnSchema scalars field schema := by
  obtain ⟨members, label?, hmembers, hlabel, rfl⟩ := hschema
  obtain ⟨text?, htext⟩ := exists_text_of_saysText h.1.2
  obtain rfl : label? = text?.map .text := Except.ok.inj (hlabel.symm.trans htext)
  have hnew := description_not_mem_typeMembers hmembers
  exact ⟨members, text?, hmembers, htext, hnew, congrArg _ (described_eq_append hnew text?)⟩

theorem mem_of_lastField? {fields : List FieldDefinition} {name : Label} {field : FieldDefinition}
    (h : lastField? fields name = some field) : field ∈ fields := by
  obtain ⟨found, hmem, -, hfound⟩ := exists_of_lastGiven h
  obtain rfl := Option.some.inj hfound
  exact hmem

/-- Under the name of each field stands the schema of the last field of this name. -/
theorem exists_lastField_of_isWhole {definitions : List FieldDefinition} {fields : Fields}
    (hwhole : ∀ field ∈ definitions, field.IsWhole) (h : fieldsOf scalars definitions = .ok fields)
    {field : FieldDefinition} (hf : field ∈ definitions) :
    ∃ last property, lastField? definitions (.text field.key) = some last ∧
      (fields.properties.rename Label.key).get? field.key = some property ∧
      IsOwnSchema scalars last property := by
  have htexts : ∀ p ∈ fields.properties, p.1.IsText := by
    intro p hp
    have hkey : p.1 ∈ fields.properties.keys := List.mem_map_of_mem hp
    rw [fieldsOf_keys h, List.mem_eraseDups] at hkey
    obtain ⟨other, hother, hname⟩ := List.mem_map.mp hkey
    exact hname ▸ (hwhole other hother).1.1
  have hname : field.name = .text field.key := by
    obtain ⟨text, htext⟩ := (hwhole field hf).1.1
    rw [FieldDefinition.key, htext, Label.key]
  have hgiven : (lastField? definitions (.text field.key)).isSome = true :=
    (lastGiven_isSome definitions).mpr ⟨field, hf, hname, rfl⟩
  obtain ⟨last, hlast⟩ := Option.isSome_iff_exists.mp hgiven
  obtain ⟨property, hproperty, hschema⟩ := (fieldsOf_get? h (.text field.key)).exists hlast
  refine ⟨last, property, hlast, (SchemaDocument.get?_rename htexts field.key).trans hproperty, ?_⟩
  exact isOwnSchema_of_isWhole (hwhole last (mem_of_lastField? hlast)) hschema

/-! ## What excludes null inside a type -/

theorem addField_congr {field other : FieldDefinition} (h : field.AgreesOutside other)
    (fields : Fields) : addField scalars fields field = addField scalars fields other := by
  unfold addField
  rw [typeMembers_congr h.type, h.description, h.name, h.outermost]

/-- Fields that differ inside their types alone are added alike. -/
theorem fieldsOf_congr {definitions others : List FieldDefinition}
    (h : List.Forall₂ FieldDefinition.AgreesOutside definitions others) (start : Fields) :
    definitions.foldlM (addField scalars) start = others.foldlM (addField scalars) start := by
  induction h generalizing start with
  | nil => rfl
  | cons hfield _ ih =>
    rw [List.foldlM_cons, List.foldlM_cons, addField_congr hfield]
    exact bind_congr ih

theorem typeEntry_congr {type : TypeDefinition} {others : List FieldDefinition}
    (h : List.Forall₂ FieldDefinition.AgreesOutside type.fields others) :
    typeEntry scalars { type with fields := others } = typeEntry scalars type := by
  unfold typeEntry fieldsOf
  rw [fieldsOf_congr h]

/-! ## The entry of a type -/

/-- Every field of a type is accounted for, in whatever number and under whatever names the fields
come. The keys of the properties are the names of the fields, each once and in the order in which
they first come; the last field of a name says what its property is, by its type and by its own
description, and nothing is left of a field that it replaces. What is required are the names of the
fields whose type excludes null at its outermost level, in order and one for each, so each of them
has a property; where no name comes twice, they are the names of just these fields, each once.
Inside a type null can be excluded or allowed anywhere without any change to the entry. -/
theorem typeEntry_accounts (scalars : Scalars) {type : TypeDefinition} (h : type.IsWhole) :
    ∃ (name : String) (schema : Json) (properties : Keyed String Json) (required : List String),
      type.name = .ok (some (.text name)) ∧ typeEntry scalars type = .ok (.text name, schema) ∧
      schema.member? "properties" = some (.object properties) ∧
      schema.member? "required" = some (.array (required.map .string)) ∧
      properties.keys = (type.fields.map FieldDefinition.key).eraseDups ∧
      (∀ key ∈ properties.keys, ∃ field property, lastField? type.fields (.text key) = some field ∧
        properties.get? key = some property ∧ IsOwnSchema scalars field property) ∧
      required = (demandedFields type.fields).map FieldDefinition.key ∧
      required ⊆ properties.keys ∧
      ((type.fields.map FieldDefinition.key).Nodup → required.Nodup ∧
        ∀ field ∈ type.fields, field.key ∈ required ↔ excludesNull field.type = true) ∧
      ∀ others, List.Forall₂ FieldDefinition.AgreesOutside type.fields others →
        typeEntry scalars { type with fields := others } = .ok (.text name, schema) := by
  obtain ⟨name, fields, text?, hname, hfields, hentry⟩ := typeEntry_of_isWhole scalars h
  have htexts : ∀ label ∈ type.fields.map FieldDefinition.name, label.IsText :=
    List.forall_mem_map.mpr fun field hf => (h.fields field hf).1.1
  have hkeys : (fields.properties.rename Label.key).keys =
      (type.fields.map FieldDefinition.key).eraseDups := by
    rw [keys_labelled htexts (fieldsOf_keys hfields), List.map_map]
    rfl
  have hrequired : fields.required = (demandedFields type.fields).map FieldDefinition.name :=
    required_of_fieldsOf hfields
  refine ⟨name, _, fields.properties.rename Label.key,
    (demandedFields type.fields).map FieldDefinition.key, hname, hentry, ?_, ?_, hkeys, ?_, rfl, ?_,
    ?_, fun others hothers => (typeEntry_congr hothers).trans hentry⟩
  · cases text? <;> rfl
  · have hmember : (Json.object (described (fieldedMembers fields) text?)).member? "required" =
        some (.array (fields.required.map Label.json)) := by
      cases text? <;> rfl
    rw [hmember, hrequired, List.map_map, List.map_map]
    refine congrArg (fun items => some (Json.array items)) (List.map_congr_left fun field hf => ?_)
    obtain ⟨text, htext⟩ := (h.fields field (List.mem_filter.mp hf).1).1.1
    simp [FieldDefinition.key, htext, Label.json, Label.key]
  · intro key hkey
    rw [hkeys, List.mem_eraseDups] at hkey
    obtain ⟨field, hf, rfl⟩ := List.mem_map.mp hkey
    exact exists_lastField_of_isWhole h.fields hfields hf
  · intro key hkey
    obtain ⟨field, hf, rfl⟩ := List.mem_map.mp hkey
    rw [hkeys, List.mem_eraseDups]
    exact List.mem_map_of_mem (List.mem_filter.mp hf).1
  · intro hnodup
    refine ⟨hnodup.sublist (List.filter_sublist.map _), fun field hf => ?_⟩
    constructor
    · intro hrequires
      obtain ⟨other, hother, hkey⟩ := List.mem_map.mp hrequires
      obtain ⟨hmem, hexcludes⟩ := List.mem_filter.mp hother
      rwa [← List.inj_on_of_nodup_map hnodup hmem hf hkey]
    · exact fun hexcludes => List.mem_map_of_mem (List.mem_filter.mpr ⟨hf, hexcludes⟩)

/-- A type with two fields of one name and two of another. -/
def rewrittenType : TypeDefinition :=
  ⟨.object, named "T", .ok none,
    [⟨"a", .nonNull (.named "Int"), .ok (some "old")⟩,
      ⟨"b", .list (.nonNull (.named "ID")), .ok none⟩,
      ⟨"a", .nonNull (.list (.named "User")), .ok none⟩,
      ⟨"b", .named "Boolean", .ok (some "new")⟩]⟩

/-- The first name is required twice and ends without the description of its first field; the second
one is not required, although null is excluded inside the type of its first field. -/
theorem typeEntry_accounts_rewrittenType :
    rewrittenType.IsWhole ∧ ∃ schema properties,
      typeEntry .builtin rewrittenType = .ok (.text "T", schema) ∧
      schema.member? "properties" = some (.object properties) ∧
      schema.member? "required" = some (.array [.string "a", .string "a"]) ∧
      Keyed.keys properties = ["a", "b"] ∧
      Keyed.get? properties "a" = some (.object [("type", .string "array"),
        ("items", .object [("$ref", .string "#/definitions/User")])]) ∧
      Keyed.get? properties "b" = some (.object [("type", .string "boolean"),
        ("description", .string "new")]) := by
  have hwhole : rewrittenType.IsWhole := by
    refine ⟨⟨"T", rfl⟩, saysText_none, ?_⟩
    simp only [rewrittenType, List.forall_mem_cons]
    exact ⟨⟨⟨⟨_, rfl⟩, saysText_some _⟩, _, rfl⟩, ⟨⟨⟨_, rfl⟩, saysText_none⟩, _, rfl⟩,
      ⟨⟨⟨_, rfl⟩, saysText_none⟩, _, rfl⟩, ⟨⟨⟨_, rfl⟩, saysText_some _⟩, _, rfl⟩,
      fun _ h => absurd h List.not_mem_nil⟩
  obtain ⟨name, schema, properties, required, hname, hentry, hproperties, hrequired, hkeys, hlast,
    hnames, -, -, -⟩ := typeEntry_accounts .builtin hwhole
  have hkeys : properties.keys = ["a", "b"] := by
    rw [hkeys]
    decide
  have hnames : required = ["a", "a"] := by
    rw [hnames]
    decide
  obtain rfl : name = "T" := by
    cases hname
    rfl
  obtain ⟨first, a, hfirst, ha, members, text?, hmembers, htext, -, rfl⟩ :=
    hlast "a" (by rw [hkeys]; decide)
  obtain ⟨second, b, hsecond, hb, others, text'?, hothers, htext', -, rfl⟩ :=
    hlast "b" (by rw [hkeys]; decide)
  cases hfirst
  cases hsecond
  cases hmembers
  cases hothers
  obtain rfl : text? = none := by
    cases text? with
    | none => rfl
    | some text => cases htext
  obtain rfl : text'? = some "new" := by
    cases text'? with
    | none => cases htext'
    | some text => cases htext'; rfl
  refine ⟨hwhole, schema, properties, hentry, hproperties, ?_, hkeys, ha, hb⟩
  rw [hrequired, hnames]
  rfl

end Schema

end QuerySchema
