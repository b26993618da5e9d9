import QuerySchema.Proofs.ReferenceStarts
import QuerySchema.Proofs.TextPlaces

/-!
What the layout of a document decides.

The layout says where the operations stand, and with that where a pointer to one of their variables
starts. Nothing else depends on it. An entry of an operation that is built for the one layout becomes
that for the other when the references of its arguments are restarted and all else is left alone, also
names and defaults that look like pointers; `isArgumentReference` says where these references stand.

What is proved:
  1. `descend_moveEntry`: moving an entry restarts the references of its arguments and leaves every
     other text alone.
  2. `addSelections_moved`: building selections for the other layout is building them and moving
     them, by induction along the selections; reports and failures are the same.
  3. `addDefinition_moved`: one step of a conversion for the other layout is the same step on the
     document that is moved there.
  4. `convertDocument_layouts`: the conversions for the two layouts fail alike; or they say the same,
     keep the same definitions in the same order, with the same types, and the operations of one are
     those of the other with the references of their arguments restarted.
-/

namespace QuerySchema.Schema

open GraphQL

/-! ## Where the references of arguments stand -/

/-- Whether a place in the schema of an argument is that of its reference. -/
def isReference : List String → Bool
  | ["$ref"] => true
  | _ => false

/-- Whether a place in the schema of some arguments is that of a reference. -/
def inArguments : List String → Bool
  | "properties" :: _ :: place => isReference place
  | _ => false

mutual
/-- Whether a place in the schema of a selection set is that of a reference of an argument. -/
def inSelections : List String → Bool
  | "properties" :: _ :: place => inField place
  | _ => false
/-- Whether a place in the schema of a field is that of a reference of an argument. -/
def inField : List String → Bool
  | "properties" :: "selections" :: place => inSelections place
  | "properties" :: "arguments" :: place => inArguments place
  | _ => false
end

/-- Whether a place in the entry of an operation is that of a reference of an argument. -/
def isArgumentReference : List String → Bool
  | "properties" :: "selections" :: place => inSelections place
  | _ => false

example : isArgumentReference ["properties", "selections", "properties", "f", "properties",
    "arguments", "properties", "x", "$ref"] = true := by decide

/-! ## Moving the parts of an entry -/

/-- A pointer into the definitions as a pointer into the properties. -/
def moveText : String → String := Json.restart "#/definitions" "#/properties"

/-- The schema of one argument with its reference moved. -/
def moveArgument : Json → Json := Json.rewriteAt moveText isReference

/-- The schema of the arguments of a field with their references moved. -/
def moveArguments : Json → Json := Json.rewriteAt moveText inArguments

/-- The schema of a field with the references of its arguments moved, at all depths. -/
def moveField : Json → Json := Json.rewriteAt moveText inField

/-- The schema of a selection set with the references of the arguments moved, at all depths. -/
def moveSet : Json → Json := Json.rewriteAt moveText inSelections

/-- The entry of an operation with the references of the arguments moved. -/
def moveEntry : Json → Json := Json.rewriteAt moveText isArgumentReference

theorem rewriteAt_labelled {f : String → String} {spots inner : List String → Bool}
    (h : ∀ name place, spots (name :: place) = inner place) (properties : Keyed Label Json) :
    Json.rewriteAt f spots (labelled properties) =
      labelled (properties.mapValues (Json.rewriteAt f inner)) := by
  have hinner (name : String) : (fun place => spots (name :: place)) = inner := funext (h name)
  rw [labelled, Json.rewriteAt, Json.rewriteMembers_eq_map, labelled, Keyed.rename, Keyed.rename,
    Keyed.mapValues, List.map_map, List.map_map]
  refine congrArg Json.object (List.map_congr_left fun p _ => ?_)
  simp only [Function.comp_apply, hinner]

theorem moveArgument_reference (pointer : String) :
    moveArgument (reference pointer) = reference (moveText pointer) := rfl

theorem moveArguments_passedObject (properties : Keyed Label Json) :
    moveArguments (passedObject properties) = passedObject (properties.mapValues moveArgument) := by
  have hproperties : Json.rewriteAt moveText (fun place => inArguments ("properties" :: place))
      (labelled properties) = labelled (properties.mapValues moveArgument) :=
    rewriteAt_labelled (fun _ _ => rfl) properties
  rw [passedObject, moveArguments, Json.rewriteAt]
  simp only [Json.rewriteMembers, hproperties]
  rfl

theorem moveSet_selectedObject (properties : Keyed Label Json) :
    moveSet (selectedObject properties) = selectedObject (properties.mapValues moveField) := by
  have hproperties : Json.rewriteAt moveText (fun place => inSelections ("properties" :: place))
      (labelled properties) = labelled (properties.mapValues moveField) :=
    rewriteAt_labelled (fun _ _ => rfl) properties
  rw [selectedObject, moveSet, Json.rewriteAt]
  simp only [Json.rewriteMembers, hproperties]
  rfl

theorem moveField_fieldObject (selected passed : Json) :
    moveField (fieldObject selected passed) =
      fieldObject (moveSet selected) (moveArguments passed) := by
  rfl

theorem moveEntry_operationObject (inputs selections : Json) :
    moveEntry (operationObject inputs selections) = operationObject inputs (moveSet selections) := by
  have hinputs : Json.rewriteAt moveText
      (fun place => isArgumentReference ("properties" :: "variables" :: place)) inputs = inputs :=
    Json.rewriteAt_of_never (fun _ => rfl) inputs
  rw [operationObject, moveEntry, Json.rewriteAt]
  simp only [Json.rewriteMembers, Json.rewriteAt, hinputs]
  rfl

/-- A text in the entry of an operation is restarted where it is the reference of an argument, and
is left alone everywhere else. -/
theorem descend_moveEntry {schema : Json} {place : List String} {text : String}
    (h : schema.descend place = some (.string text)) :
    (moveEntry schema).descend place =
      some (.string (if isArgumentReference place then moveText text else text)) := by
  rw [moveEntry, Json.descend_rewriteAt, h, Option.map_some, Json.rewriteAt, List.append_nil]

/-! ## Building for the other layout -/

/-- A scope with another layout. -/
def Scope.at (scope : Scope) (layout : Layout) : Scope := { scope with layout }

variable {scope : Scope} {path : List Label}

/-- The layout decides where a pointer to a variable starts, and nothing else of it. -/
theorem variablePointer_moved (name : Label) :
    variablePointer (scope.at .properties) name =
      (variablePointer (scope.at .definitions) name).map moveText := by
  obtain ⟨layout, scalars, operation, declared⟩ := scope
  cases operation with
  | none => rfl
  | some label =>
    cases label with
    | truth value => rfl
    | nothing => rfl
    | text operation => exact congrArg Except.ok (Json.restart_pointer _ _ _).symm

theorem addArgument_moved (properties : Keyed Label Json) (argument : Argument) :
    addArgument (scope.at .properties) path (properties.mapValues moveArgument) argument =
      Keyed.mapValues moveArgument <$>
        addArgument (scope.at .definitions) path properties argument := by
  unfold addArgument
  match argument with
  | ⟨name, .variable variableName⟩ =>
    show (if scope.declared.contains (variableKey variableName) then _ else _) =
      Keyed.mapValues moveArgument <$>
        if scope.declared.contains (variableKey variableName) then _ else _
    split
    · rw [variablePointer_moved]
      cases variablePointer (scope.at .definitions) variableName with
      | error e => rfl
      | ok pointer =>
        have hput := Keyed.put_mapValues moveArgument properties name (reference pointer)
        rw [moveArgument_reference] at hput
        exact congrArg pure hput
    · rw [map_bind]
      refine congrArg _ (funext fun _ => ?_)
      exact congrArg pure (Keyed.put_mapValues moveArgument properties name (.object []))
  | ⟨_, .int _⟩ | ⟨_, .float _⟩ | ⟨_, .string _ _⟩ | ⟨_, .boolean _⟩ | ⟨_, .null⟩ | ⟨_, .enum _⟩
  | ⟨_, .list _⟩ | ⟨_, .object _⟩ | ⟨_, .odd _ _⟩ | ⟨_, .other _⟩ | ⟨_, .flawed _⟩ => rfl

theorem argumentsSchema_moved (arguments : List Argument) :
    argumentsSchema (scope.at .properties) path arguments =
      moveArguments <$> argumentsSchema (scope.at .definitions) path arguments := by
  have hproperties : argumentProperties (scope.at .properties) path arguments =
      Keyed.mapValues moveArgument <$> argumentProperties (scope.at .definitions) path arguments :=
    Reported.foldlM_hom addArgument_moved arguments []
  unfold argumentsSchema
  rw [hproperties, bind_map_left, map_bind]
  refine congrArg _ (funext fun properties => ?_)
  exact congrArg pure (moveArguments_passedObject properties).symm

theorem passedSchema_moved (arguments : List Argument) :
    passedSchema (scope.at .properties) path arguments =
      moveArguments <$> passedSchema (scope.at .definitions) path arguments := by
  unfold passedSchema
  split
  · rfl
  · exact argumentsSchema_moved arguments

/-- The schema of a field is moved where that of what it selects is. -/
theorem fieldSchema_moved {sub : Option (List Selection)}
    (hsub : innerSchema (scope.at .properties) path sub =
      moveSet <$> innerSchema (scope.at .definitions) path sub) (arguments : List Argument) :
    fieldSchema (scope.at .properties) path arguments sub =
      moveField <$> fieldSchema (scope.at .definitions) path arguments sub := by
  rw [fieldSchema_eq, fieldSchema_eq]
  split
  · rfl
  · rw [hsub, bind_map_left, map_bind]
    refine congrArg _ (funext fun selected => ?_)
    rw [passedSchema_moved, bind_map_left, map_bind]
    refine congrArg _ (funext fun passed => ?_)
    exact congrArg pure (moveField_fieldObject selected passed).symm

theorem innerSchema_moved {sub : Option (List Selection)}
    (hsub : ∀ selections, sub = some selections →
      addSelections (scope.at .properties) path [] selections =
        Keyed.mapValues moveField <$> addSelections (scope.at .definitions) path [] selections) :
    innerSchema (scope.at .properties) path sub =
      moveSet <$> innerSchema (scope.at .definitions) path sub := by
  cases sub with
  | none => rfl
  | some selections =>
    rw [innerSchema, innerSchema, hsub selections rfl, Functor.map_map, Functor.map_map]
    exact congrArg (· <$> _) (funext fun properties => (moveSet_selectedObject properties).symm)

theorem addSelection_field_moved {name : Label} {sub : Option (List Selection)}
    (hinner : innerSchema (scope.at .properties) (path ++ [name]) sub =
      moveSet <$> innerSchema (scope.at .definitions) (path ++ [name]) sub)
    (alias? : Option (Readable Label)) (arguments : List Argument) (directives : List Directive)
    (properties : Keyed Label Json) :
    addSelection (scope.at .properties) path (properties.mapValues moveField)
        (.field alias? name arguments directives sub) =
      Keyed.mapValues moveField <$> addSelection (scope.at .definitions) path properties
        (.field alias? name arguments directives sub) := by
  rw [addSelection_field_eq, addSelection_field_eq, Keyed.contains_mapValues, map_bind]
  refine congrArg _ (funext fun _ => ?_)
  rw [fieldSchema_moved hinner, bind_map_left, map_bind]
  refine congrArg _ (funext fun schema => ?_)
  exact congrArg pure (Keyed.put_mapValues moveField properties name schema)

/-- Building selections for the other layout is building them and moving their references. -/
theorem addSelections_moved (selections : List Selection) (properties : Keyed Label Json) :
    addSelections (scope.at .properties) path (properties.mapValues moveField) selections =
      Keyed.mapValues moveField <$>
        addSelections (scope.at .definitions) path properties selections := by
  -- one selection is moved by itself, then the rest from the properties it leaves
  have hcons {selection : Selection} {rest : List Selection} {path : List Label}
      {properties : Keyed Label Json}
      (hfirst : addSelection (scope.at .properties) path (properties.mapValues moveField) selection =
        Keyed.mapValues moveField <$>
          addSelection (scope.at .definitions) path properties selection)
      (hrest : ∀ added, addSelections (scope.at .properties) path (Keyed.mapValues moveField added)
          rest = Keyed.mapValues moveField <$>
            addSelections (scope.at .definitions) path added rest) :
      addSelections (scope.at .properties) path (properties.mapValues moveField) (selection :: rest) =
        Keyed.mapValues moveField <$>
          addSelections (scope.at .definitions) path properties (selection :: rest) := by
    rw [addSelections, addSelections, hfirst, bind_map_left, map_bind]
    exact congrArg _ (funext hrest)
  induction selections using selections_induction generalizing path properties with
  | nil => rfl
  | field alias? name arguments directives sub rest hsub ih =>
    have hinner : innerSchema (scope.at .properties) (path ++ [name]) sub =
        moveSet <$> innerSchema (scope.at .definitions) (path ++ [name]) sub :=
      innerSchema_moved fun selections hsome => hsub selections hsome []
    exact hcons (addSelection_field_moved hinner alias? arguments directives properties) ih
  | fragmentSpread name directives rest ih => exact hcons rfl ih
  | inlineFragment condition directives inner rest ih => exact hcons rfl ih
  | flawed flaw rest ih => exact hcons rfl ih

theorem selectionSetSchema_moved (selectionSet : Option (List Selection)) :
    selectionSetSchema (scope.at .properties) path selectionSet =
      moveSet <$> selectionSetSchema (scope.at .definitions) path selectionSet := by
  cases selectionSet with
  | none => rfl
  | some selections =>
    have hinner : innerSchema (scope.at .properties) path (some selections) =
        moveSet <$> innerSchema (scope.at .definitions) path (some selections) := by
      refine innerSchema_moved fun other hsome => ?_
      rw [← Option.some.inj hsome]
      exact addSelections_moved selections []
    rw [selectionSetSchema, selectionSetSchema, selectionTree, selectionTree]
    exact hinner

/-! ## Entries for the other layout -/

theorem operationSchema_moved (name : Label) (operation : Operation) :
    operationSchema (scope.at .properties) name operation =
      moveEntry <$> operationSchema (scope.at .definitions) name operation := by
  rw [operationSchema_eq, operationSchema_eq, map_bind]
  -- what the variables say does not depend on the layout
  refine congrArg _ (funext fun found => ?_)
  have hselections :
      selectionSetSchema ((selectionScope scope name found.2).at .properties) [name]
          operation.selectionSet =
        moveSet <$> selectionSetSchema ((selectionScope scope name found.2).at .definitions) [name]
          operation.selectionSet := selectionSetSchema_moved operation.selectionSet
  show selectionSetSchema ((selectionScope scope name found.2).at .properties) [name]
      operation.selectionSet >>= _ = moveEntry <$>
    (selectionSetSchema ((selectionScope scope name found.2).at .definitions) [name]
      operation.selectionSet >>= _)
  rw [hselections, bind_map_left, map_bind]
  refine congrArg _ (funext fun selections => ?_)
  exact congrArg pure (moveEntry_operationObject found.1 selections).symm

theorem operationEntry_moved (operation : Operation) :
    operationEntry (scope.at .properties) operation =
      (fun found => (found.1, moveEntry found.2)) <$>
        operationEntry (scope.at .definitions) operation := by
  unfold operationEntry
  rw [map_bind]
  refine congrArg _ (funext fun found => ?_)
  cases found with
  | none => rfl
  | some name =>
    cases hblank : name.isBlank with
    | true => simp only [hblank, if_true]; rfl
    | false =>
      simp only [hblank, Bool.false_eq_true, if_false]
      rw [operationSchema_moved, bind_map_left, map_bind]
      rfl

/-- An entry for the other layout: only that of an operation changes. -/
def Entry.moved (entry : Entry) : Entry :=
  { entry with schema := if entry.isOperation then moveEntry entry.schema else entry.schema }

/-- A document of the other layout with the same entries, those of operations moved. -/
def SchemaDocument.moved (document : SchemaDocument) : SchemaDocument :=
  ⟨.properties, document.entries.mapValues Entry.moved⟩

namespace Converter

variable {scalars : Scalars}

theorem entry_moved (definition : Definition) :
    entry ⟨.properties, scalars⟩ definition =
      (fun found => (found.1, found.2.moved)) <$> entry ⟨.definitions, scalars⟩ definition := by
  cases definition with
  | operation operation =>
    have hentry : operationEntry ((Scope.top .definitions scalars).at .properties) operation =
        (fun found => (found.1, moveEntry found.2)) <$>
          operationEntry ((Scope.top .definitions scalars).at .definitions) operation :=
      operationEntry_moved operation
    show (fun found => (found.1, (⟨true, found.2⟩ : Entry))) <$>
        operationEntry ((Scope.top .definitions scalars).at .properties) operation = _
    rw [hentry, Functor.map_map, entry, Functor.map_map]
    rfl
  | fielded type =>
    rw [entry, entry]
    cases typeEntry scalars type <;> rfl
  | enum type =>
    rw [entry, entry]
    cases enumEntry type <;> rfl
  | other kind name => rfl
  | flawed flaw => rfl

/-- One step of a conversion for the other layout is the same step on the document that is moved. -/
theorem addDefinition_moved (document : SchemaDocument) (definition : Definition) :
    addDefinition ⟨.properties, scalars⟩ document.moved definition =
      SchemaDocument.moved <$> addDefinition ⟨.definitions, scalars⟩ document definition := by
  have htaken (name : Label) : document.moved.isTaken name = document.isTaken name :=
    Keyed.contains_mapValues Entry.moved document.entries name
  have hadd : addDefinition.addEntry ⟨.properties, scalars⟩ document.moved definition =
      SchemaDocument.moved <$> addDefinition.addEntry ⟨.definitions, scalars⟩ document definition := by
    rw [addEntry_eq, addEntry_eq, entry_moved, Functor.map_map, Functor.map_map]
    refine congrArg (· <$> _) (funext fun found => ?_)
    rw [SchemaDocument.add, SchemaDocument.moved, SchemaDocument.moved, SchemaDocument.add,
      Keyed.put_mapValues]
  cases hm : definition.isModelled with
  | true =>
    rw [addDefinition_of_isModelled hm, addDefinition_of_isModelled hm, map_bind]
    refine congrArg _ (funext fun found => ?_)
    cases found with
    | none => exact hadd
    | some name =>
      show (if name ≠ .nothing && document.moved.isTaken name then _ else _) =
        SchemaDocument.moved <$> if name ≠ .nothing && document.isTaken name then _ else _
      rw [htaken]
      split
      · rfl
      · exact hadd
  | false =>
    cases definition with
    | operation operation => cases hm
    | fielded type => cases hm
    | enum type => cases hm
    | other kind name =>
      cases name with
      | error flaw => rfl
      | ok found => rfl
    | flawed flaw => rfl

/-- The conversion for the other layout is the conversion with its document moved. -/
theorem convertDocument_moved (definitions : Document) :
    convertDocument ⟨.properties, scalars⟩ definitions =
      (convertDocument ⟨.definitions, scalars⟩ definitions).map fun c =>
        ⟨c.document.moved, c.diagnostics⟩ := by
  have hbuild : documentOf ⟨.properties, scalars⟩ definitions =
      SchemaDocument.moved <$> documentOf ⟨.definitions, scalars⟩ definitions :=
    Reported.foldlM_hom addDefinition_moved definitions (.empty .definitions)
  simp only [convertDocument, hbuild, Reported.result_map, Reported.reports_map]
  cases (documentOf ⟨.definitions, scalars⟩ definitions).result <;> rfl

end Converter

/-! ## The two layouts -/

/-- How the conversion with the operations under the properties compares to that with the operations
in the definitions. -/
structure Conversion.IsRelaid (c relaid : Conversion) : Prop where
  /-- Both say the same. -/
  diagnostics : relaid.diagnostics = c.diagnostics
  /-- Both keep the same definitions, in the same order. -/
  names : relaid.document.entries.keys = c.document.entries.keys
  /-- The operations of one are those of the other, in the same order, with the references of their
  arguments moved. -/
  operations : relaid.document.schemas (fun entry => entry.isOperation) =
    (c.document.schemas fun entry => entry.isOperation).mapValues moveEntry
  /-- In an operation of the other, a text is moved at the place of a reference of an argument, and
  stays as it is at any other place. -/
  texts : ∀ name schema, (name, schema) ∈ c.document.schemas (fun entry => entry.isOperation) →
    ∃ moved, (name, moved) ∈ relaid.document.schemas (fun entry => entry.isOperation) ∧
      ∀ place text, schema.descend place = some (.string text) → moved.descend place =
        some (.string (if isArgumentReference place then moveText text else text))
  /-- The types are the same, in the same order. -/
  types : relaid.document.schemas (fun entry => !entry.isOperation) =
    c.document.schemas fun entry => !entry.isOperation
  /-- One has all its entries in the definitions. -/
  json : c.document.toJson = .object [("$schema", .string draft06),
    ("definitions", labelled (c.document.schemas fun _ => true))]
  /-- The other has its operations under the properties, and its types, if any, in the definitions. -/
  relaidJson : relaid.document.toJson = .object ([("$schema", .string draft06),
    ("properties", labelled (relaid.document.schemas fun entry => entry.isOperation))] ++
      if (relaid.document.schemas fun entry => !entry.isOperation).isEmpty then []
      else [("definitions", labelled (relaid.document.schemas fun entry => !entry.isOperation))])
  /-- The references of operations start in the definitions, and so do those of types. -/
  starts : ∀ p ∈ c.document.entries, p.2.StartsRight .definitions
  /-- The references of operations start in the properties, those of types in the definitions. -/
  relaidStarts : ∀ p ∈ relaid.document.entries, p.2.StartsRight .properties

/-- The schemas of one sort in a document that is moved are those before, changed as they are. -/
theorem SchemaDocument.schemas_moved (document : SchemaDocument) {wanted : Entry → Bool}
    {f : Json → Json} (hwanted : ∀ entry, wanted (Entry.moved entry) = wanted entry)
    (hf : ∀ entry, wanted entry = true → (Entry.moved entry).schema = f entry.schema) :
    document.moved.schemas wanted = (document.schemas wanted).mapValues f := by
  change Keyed.select wanted Entry.schema (document.entries.mapValues Entry.moved) =
    Keyed.mapValues f (Keyed.select wanted Entry.schema document.entries)
  exact Keyed.select_mapValues hwanted hf document.entries

namespace Converter

variable {scalars : Scalars} {definitions : Document} {c : Conversion}

theorem isRelaid_moved (h : convertDocument ⟨.definitions, scalars⟩ definitions = .ok c) :
    c.IsRelaid ⟨c.document.moved, c.diagnostics⟩ := by
  have hlayout : c.document.layout = .definitions := layout_of_convertDocument h
  have hmoved : convertDocument ⟨.properties, scalars⟩ definitions =
      .ok ⟨c.document.moved, c.diagnostics⟩ := by
    rw [convertDocument_moved, h]
    rfl
  have hoperations : c.document.moved.schemas (fun entry => entry.isOperation) =
      (c.document.schemas fun entry => entry.isOperation).mapValues moveEntry := by
    refine c.document.schemas_moved (fun _ => rfl) fun entry hoperation => ?_
    rw [Entry.moved, if_pos hoperation]
  have htypes : c.document.moved.schemas (fun entry => !entry.isOperation) =
      (c.document.schemas fun entry => !entry.isOperation).mapValues fun schema => schema := by
    refine c.document.schemas_moved (fun _ => rfl) fun entry htype => ?_
    rw [Entry.moved, if_neg (by simpa using htype)]
  rw [Keyed.mapValues_id] at htypes
  have htexts (name : Label) (schema : Json)
      (hmem : (name, schema) ∈ c.document.schemas fun entry => entry.isOperation) :
      ∃ moved, (name, moved) ∈ c.document.moved.schemas (fun entry => entry.isOperation) ∧
        ∀ place text, schema.descend place = some (.string text) → moved.descend place =
          some (.string (if isArgumentReference place then moveText text else text)) := by
    refine ⟨moveEntry schema, ?_, fun place text h => descend_moveEntry h⟩
    rw [hoperations]
    exact List.mem_map.mpr ⟨(name, schema), hmem, rfl⟩
  exact {
    diagnostics := rfl
    names := Keyed.keys_mapValues Entry.moved c.document.entries
    operations := hoperations
    texts := htexts
    types := htypes
    json := by rw [SchemaDocument.toJson, hlayout]
    relaidJson := rfl
    starts := startsRight_of_mem_entries h
    relaidStarts := startsRight_of_mem_entries hmoved }

/-- The conversions of a document for the two layouts fail for the same reason, or both succeed and
differ in nothing but where the operations stand and where the references of arguments start. -/
theorem convertDocument_layouts (scalars : Scalars) (definitions : Document) :
    (∃ e, convertDocument ⟨.definitions, scalars⟩ definitions = .error e ∧
      convertDocument ⟨.properties, scalars⟩ definitions = .error e) ∨
    ∃ c relaid, convertDocument ⟨.definitions, scalars⟩ definitions = .ok c ∧
      convertDocument ⟨.properties, scalars⟩ definitions = .ok relaid ∧ c.IsRelaid relaid := by
  have hmoved : convertDocument ⟨.properties, scalars⟩ definitions =
      (convertDocument ⟨.definitions, scalars⟩ definitions).map fun c =>
        ⟨c.document.moved, c.diagnostics⟩ := convertDocument_moved definitions
  cases h : convertDocument ⟨.definitions, scalars⟩ definitions with
  | error e =>
    rw [h] at hmoved
    exact .inl ⟨e, rfl, hmoved⟩
  | ok c =>
    rw [h] at hmoved
    exact .inr ⟨c, _, rfl, hmoved, isRelaid_moved h⟩

/-- A query with a reference, between names and a default that look like one, and a type that
refers to itself. -/
def pointingDocument : Document :=
  [.operation ⟨some .query, .ok (some "Q"),
      some [⟨"a", .named "String", some (.string "#/definitions/T" false), []⟩], [],
      some [.field none "$ref" [⟨"#/definitions", .variable "a"⟩] [] none]⟩,
    .fielded ⟨.object, .ok (some "T"), .ok none, [⟨"next", .named "T", .ok none⟩]⟩]

/-- The reference of the argument is moved; the default of the variable and the reference of the type
are left alone. -/
theorem convertDocument_layouts_pointingDocument :
    ∃ c relaid, convertDocument ⟨.definitions, .builtin⟩ pointingDocument = .ok c ∧
      convertDocument ⟨.properties, .builtin⟩ pointingDocument = .ok relaid ∧
      c.IsRelaid relaid ∧
      c.document.toJson.descend ["definitions", "Q", "properties", "selections", "properties",
        "$ref", "properties", "arguments", "properties", "#/definitions", "$ref"] =
          some (.string "#/definitions/Q/properties/variables/properties/$a") ∧
      relaid.document.toJson.descend ["properties", "Q", "properties", "selections", "properties",
        "$ref", "properties", "arguments", "properties", "#/definitions", "$ref"] =
          some (.string "#/properties/Q/properties/variables/properties/$a") ∧
      relaid.document.toJson.descend ["properties", "Q", "properties", "variables", "properties",
        "$a", "default"] = some (.string "#/definitions/T") ∧
      relaid.document.toJson.descend ["definitions", "T", "properties", "next", "$ref"] =
        some (.string "#/definitions/T") := by
  rcases convertDocument_layouts .builtin pointingDocument with ⟨e, he, -⟩ | ⟨c, relaid, hc, hr, h⟩
  · cases he
  · cases hc
    cases hr
    exact ⟨_, _, rfl, rfl, h, rfl, rfl, rfl, rfl⟩

end Converter

end QuerySchema.Schema
