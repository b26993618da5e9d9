import QuerySchema.Proofs.ArgumentReferences
import QuerySchema.Proofs.ReadDocuments
import QuerySchema.Proofs.TypeSteps

/-!
Where the references of a generated document start.

An operation refers to its variables, through the arguments of its fields and nowhere else; these
references start where the layout puts the operations. A type refers to the types of its fields;
these references start in the definitions, whatever the layout. Names, descriptions and defaults are
texts as well, but they never stand where a reference does.

What is proved:
  1. `references_of_operationEntry`: the references of an operation all start where the layout puts
     the operations.
  2. `refersToTypes_typeEntry`: the references of a type are all references to types.
  3. `startsRight_of_mem_entries`: so it is for every entry of a converted document.
-/

namespace QuerySchema.Schema

open GraphQL

variable {scope : Scope} {path : List Label}

/-! ## Values without references -/

theorem memberReference_of_ne {name : String} (h : name ≠ "$ref") (value : Json) :
    Json.memberReference name value = value.references := by
  cases value with
  | string text => rw [Json.memberReference, if_neg h, Json.references] <;> simp
  | object members => rw [Json.memberReference_object, Json.references_object]
  | array items => rw [Json.memberReference]; simp
  | null => rw [Json.memberReference]; simp
  | bool value => rw [Json.memberReference]; simp
  | int value => rw [Json.memberReference]; simp
  | float value => rw [Json.memberReference]; simp

theorem references_label (label : Label) : label.json.references = [] := by
  cases label <;> simp [Label.json, Json.references]

theorem itemReferences_of_forall {items : List Json} (h : ∀ item ∈ items, item.references = []) :
    Json.itemReferences items = [] := by
  induction items with
  | nil => rw [Json.itemReferences]
  | cons item rest ih =>
    rw [Json.itemReferences, h item List.mem_cons_self, List.nil_append]
    exact ih fun other hother => h other (List.mem_cons_of_mem _ hother)

theorem itemReferences_labels (labels : List Label) :
    Json.itemReferences (labels.map Label.json) = [] := by
  refine itemReferences_of_forall fun item hitem => ?_
  obtain ⟨label, -, rfl⟩ := List.mem_map.mp hitem
  exact references_label label

/-- Putting a member that holds no reference adds none. -/
theorem mem_memberReferences_of_put {members : Keyed String Json} {name pointer : String}
    {value : Json} (hname : name ≠ "$ref") (hvalue : value.references = [])
    (h : pointer ∈ Json.memberReferences (members.put name value)) :
    pointer ∈ Json.memberReferences members := by
  obtain ⟨p, hp, hr⟩ := Json.mem_memberReferences.mp h
  rcases Keyed.of_mem_put hp with rfl | hp
  · rw [memberReference_of_ne hname, hvalue] at hr
    exact absurd hr List.not_mem_nil
  · exact Json.mem_memberReferences.mpr ⟨p, hp, hr⟩

theorem memberReferences_primitive (type : Primitive) : Json.memberReferences type.schema = [] := by
  simp [Primitive.schema, Json.memberReferences, Json.memberReference]

/-! ## Operations -/

/-- The references of arguments start where the layout puts the operations. -/
theorem references_of_selectionSet {name : Label} {keys : List String}
    {selectionSet : Option (List Selection)} {reports : List Diagnostic} {schema : Json}
    (h : selectionSetSchema (selectionScope scope name keys) path selectionSet =
      ⟨reports, .ok schema⟩) :
    ∀ pointer ∈ schema.references, ∃ tokens,
      pointer = Json.pointer scope.layout.pointerStart tokens := by
  cases selectionSet with
  | none =>
    obtain ⟨-, rfl⟩ := Reported.pure_eq_ok.mp h
    rw [references_selectedObject]
    exact refers_rename (refers_nil _)
  | some selections =>
    obtain ⟨properties, hbuild, rfl⟩ := Reported.map_eq_ok.mp h
    rw [references_selectedObject]
    refine refers_rename (refers_addSelections ?_ (refers_nil _) hbuild)
    intro argument variableName pointer _ _ _ hpointer
    cases name with
    | text text =>
      cases hpointer
      exact ⟨_, rfl⟩
    | truth value => cases hpointer
    | nothing => cases hpointer

/-- A default is a plain value, which holds no reference. -/
theorem references_of_defaultOf {value : Value} {literal : Json}
    (h : defaultOf value = .ok (some literal)) : literal.references = [] := by
  rcases defaultOf_cases h with ⟨text, n, -, rfl⟩ | ⟨x, -, rfl⟩ | ⟨label, rfl⟩
  · simp [Json.references]
  · simp [Json.references]
  · exact references_label label

theorem memberReferences_baseProperty (scalars : Scalars) (typeName : Label) :
    Json.memberReferences (baseProperty scalars typeName) = [] := by
  rcases baseProperty_cases scalars typeName with he | ⟨type, he⟩
  · rw [he, Json.memberReferences]
  · rw [he, memberReferences_primitive]

theorem references_of_variableProperty {typeName : Label} {default? : Option Value}
    {property : Json} {reports : List Diagnostic}
    (h : variableProperty scope typeName default? path = ⟨reports, .ok property⟩) :
    ∀ key, Json.memberReference key property = [] := by
  intro key
  have hbase : Json.memberReference key (.object (baseProperty scope.scalars typeName)) = [] := by
    rw [Json.memberReference_object, memberReferences_baseProperty]
  rcases variableProperty_eq_ok h with ⟨-, rfl, -⟩ | ⟨_, literal, -, hdefault, rfl, -⟩ |
    ⟨_, _, -, -, -, rfl, -⟩
  · exact hbase
  · -- a default stands under its own keyword, so what it says is never taken for a reference
    rw [Json.memberReference_object, List.eq_nil_iff_forall_not_mem]
    intro pointer hpointer
    have hbefore := mem_memberReferences_of_put (by decide) (references_of_defaultOf hdefault) hpointer
    rw [memberReferences_baseProperty] at hbefore
    exact List.not_mem_nil hbefore
  · exact hbase

theorem references_of_inputsOf {declarations : List VariableDefinition} {reports : List Diagnostic}
    {inputs : Inputs} (h : inputsOf scope declarations = ⟨reports, .ok inputs⟩) :
    ∀ p ∈ inputs.properties, Json.memberReference p.1 p.2 = [] := by
  refine Reported.foldlM_preserves
    (motive := fun inputs : Inputs => ∀ p ∈ inputs.properties, Json.memberReference p.1 p.2 = [])
    (fun before declaration _ hbefore reports next hstep => ?_)
    (fun p hp => absurd hp List.not_mem_nil) h
  rcases addVariable_eq_ok hstep with ⟨typeName, property, -, hproperty, rfl⟩ | ⟨-, -, rfl, -⟩
  · intro p hp
    rcases Keyed.of_mem_put hp with rfl | hp
    · exact references_of_variableProperty hproperty _
    · exact hbefore p hp
  · exact hbefore

/-- What an operation says of its variables holds no reference. -/
theorem references_of_variablesPart {declarations? : Option (List VariableDefinition)}
    {reports : List Diagnostic} {inputs : Json} {keys : List String}
    (h : variablesPart scope declarations? = ⟨reports, .ok (inputs, keys)⟩) :
    inputs.references = [] := by
  rcases variablesPart_eq_ok h with ⟨-, rfl, -⟩ | ⟨-, rfl, -⟩ |
    ⟨declarations, inputs, -, -, hinputs, rfl, -⟩
  · simp [Json.memberReferences]
  · simp [Json.references]
  · have hproperties : Json.memberReferences inputs.properties = [] := by
      rw [List.eq_nil_iff_forall_not_mem]
      intro pointer hpointer
      obtain ⟨p, hp, hr⟩ := Json.mem_memberReferences.mp hpointer
      rw [references_of_inputsOf hinputs p hp] at hr
      exact List.not_mem_nil hr
    have hrequired : Json.itemReferences (inputs.required.map .string) = [] :=
      itemReferences_of_forall fun item hitem => by
        obtain ⟨key, -, rfl⟩ := List.mem_map.mp hitem
        simp [Json.references]
    simp [Inputs.schema, Json.memberReferences, Json.memberReference, Json.references, hproperties,
      hrequired]

theorem references_of_operationEntry {operation : Operation} {reports : List Diagnostic}
    {name : Label} {schema : Json}
    (h : operationEntry scope operation = ⟨reports, .ok (name, schema)⟩) :
    ∀ pointer ∈ schema.references, ∃ tokens,
      pointer = Json.pointer scope.layout.pointerStart tokens := by
  obtain ⟨-, -, hschema⟩ := Converter.operationEntry_eq_ok h
  obtain ⟨inputs, keys, selections, r₁, r₂, hvariables, hselections, rfl, -⟩ :=
    operationSchema_eq_ok hschema
  have hreferences : (operationObject inputs selections).references = selections.references := by
    simp [operationObject, Json.memberReferences, Json.references, memberReference_of_ne,
      references_of_variablesPart hvariables]
  rw [hreferences]
  exact references_of_selectionSet hselections

/-! ## Types -/

/-- The references of a type are references to types. -/
def RefersToTypes (schema : Json) : Prop :=
  ∀ pointer ∈ schema.references, ∃ name, pointer = typeReference name

theorem refersToTypes_described {members : Keyed String Json} (h : RefersToTypes (.object members))
    (text? : Option Label) : RefersToTypes (.object (described members text?)) := by
  cases text? with
  | none => exact h
  | some label =>
    intro pointer hpointer
    rw [Json.references_object] at hpointer
    refine h pointer ?_
    rw [Json.references_object]
    exact mem_memberReferences_of_put (by decide) (references_label label) hpointer

theorem refersToTypes_typeMembers {scalars : Scalars} {type : TypeRef}
    {members : Keyed String Json} (h : typeMembers scalars type = .ok members) :
    RefersToTypes (.object members) := by
  induction type generalizing members with
  | nonNull inner ih => exact ih h
  | list item ih =>
    obtain ⟨inner, hinner, rfl⟩ := Outcome.map_eq_ok.mp h
    intro pointer hpointer
    refine ih hinner pointer ?_
    simpa [Json.memberReferences, Json.memberReference] using hpointer
  | flawed flaw => cases h
  | named label =>
    cases label with
    | truth value => cases h
    | nothing => cases h
    | text name =>
      obtain rfl := Except.ok.inj h
      intro pointer hpointer
      cases hs : scalars.schema? name with
      | none =>
        rw [hs] at hpointer
        refine ⟨name, ?_⟩
        simpa [Json.memberReferences, Json.memberReference] using hpointer
      | some schema =>
        obtain ⟨type, -, rfl⟩ := Option.map_eq_some_iff.mp hs
        rw [hs, Option.getD_some, Json.references_object, memberReferences_primitive] at hpointer
        exact absurd hpointer List.not_mem_nil

theorem refersToTypes_fieldsOf {scalars : Scalars} {definitions : List FieldDefinition}
    {fields : Fields} (h : fieldsOf scalars definitions = .ok fields) :
    ∀ p ∈ fields.properties, (∃ members, p.2 = .object members) ∧ RefersToTypes p.2 := by
  refine forall_mem_fieldsOf (Q := fun schema =>
    (∃ members, schema = .object members) ∧ RefersToTypes schema) ?_ h
  intro field _ members text? hmembers _
  exact ⟨⟨_, rfl⟩, refersToTypes_described (refersToTypes_typeMembers hmembers) text?⟩

theorem refersToTypes_typeEntry {scalars : Scalars} {type : TypeDefinition} {name : Label}
    {schema : Json} (h : typeEntry scalars type = .ok (name, schema)) : RefersToTypes schema := by
  obtain ⟨fields, text?, hfields, -, -, rfl⟩ := typeEntry_eq_ok h
  refine refersToTypes_described (fun pointer hpointer => ?_) text?
  have hproperties : pointer ∈ Json.memberReferences (fields.properties.rename Label.key) := by
    simpa [fieldedMembers, labelled, Json.memberReferences, Json.memberReference, Json.references,
      itemReferences_labels] using hpointer
  obtain ⟨p, hp, hr⟩ := Json.mem_memberReferences.mp hproperties
  obtain ⟨q, hq, rfl⟩ := List.mem_map.mp hp
  obtain ⟨⟨members, hmembers⟩, hrefers⟩ := refersToTypes_fieldsOf hfields q hq
  rw [hmembers, Json.memberReference_object] at hr
  refine hrefers pointer ?_
  rw [hmembers, Json.references_object]
  exact hr

theorem refersToTypes_enumEntry {type : EnumDefinition} {name : Label} {schema : Json}
    (h : enumEntry type = .ok (name, schema)) : RefersToTypes schema := by
  obtain ⟨values, text?, -, -, -, rfl⟩ := enumEntry_eq_ok h
  refine refersToTypes_described (fun pointer hpointer => ?_) text?
  simp [enumMembers, Json.memberReferences, Json.memberReference, Json.references,
    itemReferences_labels] at hpointer

/-! ## Entries -/

/-- The references of an entry start where they should: those of an operation where the layout puts
the operations, those of a type in the definitions. -/
def Entry.StartsRight (layout : Layout) (entry : Entry) : Prop :=
  if entry.isOperation then
    ∀ pointer ∈ entry.schema.references, ∃ tokens, pointer = Json.pointer layout.pointerStart tokens
  else RefersToTypes entry.schema

namespace Converter

variable {converter : Converter} {definitions : Document} {c : Conversion}

theorem startsRight_of_entry {definition : Definition} {name : Label} {entry : Entry}
    {reports : List Diagnostic}
    (h : converter.entry definition = ⟨reports, .ok (name, entry)⟩) :
    entry.StartsRight converter.layout := by
  rcases entry_cases h with ⟨operation, schema, rfl, rfl, hentry⟩ |
    ⟨type, schema, rfl, rfl, -, hentry⟩ | ⟨type, schema, rfl, rfl, -, hentry⟩
  · exact references_of_operationEntry hentry
  · exact refersToTypes_typeEntry hentry
  · exact refersToTypes_enumEntry hentry

/-- The references of every entry of a converted document start where they should. -/
theorem startsRight_of_mem_entries (h : converter.convertDocument definitions = .ok c) :
    ∀ p ∈ c.document.entries, p.2.StartsRight converter.layout := by
  intro p hp
  obtain ⟨conversions, -, hdoc, hentries, -⟩ := convertDocument_ok h
  rw [hdoc, write, hentries] at hp
  rcases Keyed.of_mem_foldl_put hp with hp | hp
  · exact absurd hp List.not_mem_nil
  · obtain ⟨definition, hd, hp⟩ := List.mem_flatMap.mp hp
    obtain ⟨name, entry, reports, hentry, heq⟩ := entry_of_attempted h hd
    rw [heq, List.mem_singleton] at hp
    rw [hp]
    exact startsRight_of_entry hentry

end Converter

end QuerySchema.Schema
