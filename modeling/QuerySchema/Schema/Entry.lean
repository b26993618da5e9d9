import QuerySchema.Schema.Selections

/-!
The entry of a definition.

An operation, an object, input or interface type and an enum type each have an entry in the
generated document, under the name of the definition. An operation's entry describes what is passed
to it and what it selects. A type's entry describes its fields: a mapped scalar by its JSON type,
any other name by a reference into the document's `definitions`, a list by its items. Excluding null
makes a field required and changes nothing else. An enum's entry lists its values.
-/

namespace QuerySchema.Schema

open GraphQL

/-! ## Operations -/

/-- The schema of an operation, from the schemas of its two parts. -/
def operationObject (inputs selections : Json) : Json :=
  .object [("type", .string "object"), ("additionalProperties", .bool false),
    ("properties", .object [("variables", inputs), ("selections", selections)])]

/-- The schema of an operation with a given name. An operation without any list of variables
accepts whatever is passed to it. -/
def operationSchema (scope : Scope) (name : Label) (operation : Operation) : Build Json := do
  let inner := scope.within name
  match operation.declarations with
  | none =>
    return operationObject (.object [])
      (← selectionSetSchema inner [name] operation.selectionSet)
  | some declarations =>
    let inputs ← inputs? inner declarations
    let keys := match inputs with
      | some found => found.properties.keys
      | none => []
    return operationObject (inputsSchema inputs)
      (← selectionSetSchema (inner.declare keys) [name] operation.selectionSet)

/-- The name and the schema of an operation. A name has to be there and must not be blank. -/
def operationEntry (scope : Scope) (operation : Operation) : Build (Label × Json) := do
  match ← Build.read .definition operation.name with
  | none => Build.fail (.anonymousOperation operation.type)
  | some name =>
    if name.isBlank then Build.fail (.anonymousOperation operation.type)
    else return (name, ← operationSchema scope name operation)

/-! ## Types -/

/-- A reference to the entry of a type. -/
def typeReference (name : String) : String := Json.pointer "#/definitions" [name]

/-- The schema of the values of a type, as the members of an object. -/
def typeMembers (scalars : Scalars) : TypeRef → Except BuildError (Keyed String Json)
  | .nonNull inner => typeMembers scalars inner
  | .list item =>
    (typeMembers scalars item).map fun members =>
      [("type", .string "array"), ("items", .object members)]
  | .named (.text name) =>
    .ok ((scalars.schema? name).getD [("$ref", .string (typeReference name))])
  | .named label => .error (.unreadable .type (.lacks label.found "replace"))
  | .flawed flaw => .error (.unreadable .type flaw)

/-- What is read in a place of a definition. -/
def readable {α : Type} (place : Readable α) : Except BuildError α :=
  place.mapError (.unreadable .definition)

/-- Whether a type excludes null at its outermost level. -/
def excludesNull : TypeRef → Bool
  | .nonNull _ => true
  | _ => false

/-- Adds a description where there is one. -/
def describe (members : Keyed String Json) (description : Readable (Option Label)) :
    Except BuildError (Keyed String Json) := do
  match ← readable description with
  | some label => return members.put "description" label.json
  | none => return members

/-- The fields of a type: their properties and the names of the required ones. -/
structure Fields where
  properties : Keyed Label Json
  required : List Label
  deriving Repr

/-- Adds a field of a type. -/
def addField (scalars : Scalars) (fields : Fields) (field : FieldDefinition) :
    Except BuildError Fields := do
  let members ← describe (← typeMembers scalars field.type) field.description
  return ⟨fields.properties.put field.name (.object members),
    if excludesNull field.type then fields.required ++ [field.name] else fields.required⟩

/-- The fields of a type, in order. -/
def fieldsOf (scalars : Scalars) (definitions : List FieldDefinition) :
    Except BuildError Fields :=
  definitions.foldlM (addField scalars) ⟨[], []⟩

/-- A name that has to be there. -/
def requireName (name : Readable (Option Label)) : Except BuildError Label := do
  match ← readable name with
  | some label => return label
  | none => .error (.unreadable .definition (.lacks .nothing "value"))

/-- The name and the schema of a type with fields. -/
def typeEntry (scalars : Scalars) (type : TypeDefinition) : Except BuildError (Label × Json) := do
  let fields ← fieldsOf scalars type.fields
  let members ← describe [("type", .string "object"), ("properties", labelled fields.properties),
    ("required", .array (fields.required.map Label.json))] type.description
  return (← requireName type.name, .object members)

/-- The name and the schema of an enum type. -/
def enumEntry (type : EnumDefinition) : Except BuildError (Label × Json) := do
  let values ← type.values.mapM readable
  let members ← describe [("type", .string "string"),
    ("enum", .array (values.map Label.json))] type.description
  return (← requireName type.name, .object members)

end QuerySchema.Schema
