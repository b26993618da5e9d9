import QuerySchema.Schema.Call
import QuerySchema.Schema.Session
import QuerySchema.Schema.Store

/-!
Building in place.

These are the builders as they work on a store. Each part is built in a context: reports go to its
collector, and an operation is built in a context of its own, in which its variables are declared
once they are known. The property of a variable starts as the object that the scalars give out for
its type and is filled in afterwards. A conversion makes a context and reads its collector in the
end.
-/

namespace QuerySchema.Schema

open GraphQL

namespace Building

/-! ## Variables -/

/-- Writes the default of a variable into its property, where it is a plain literal. -/
def putDefault (context property : Nat) (path : List Label) : Option Value → Building Unit
  | none => return
  | some value => do
    match ← ofExcept (defaultOf value) with
    | some literal => putMember property "default" literal
    | none =>
      match value.kind? with
      | some kind => report context (.unsupportedDefault kind) path
      | none => fail (.unreadable .value (.lacks .nothing "kind"))

/-- The property of a variable of a named type. -/
def variableProperty (context : Nat) (typeName : Label) (default? : Option Value)
    (path : List Label) : Building Json := do
  let property ← newObject (baseProperty (← get).scalars typeName)
  putDefault context property path default?
  return .object (← members property)

/-- Adds the declaration of a variable. -/
def addVariable (context : Nat) (inputs : Inputs) (declaration : VariableDefinition) :
    Building Inputs := do
  let key := variableKey declaration.name
  let operation := ((← get).contextAt context).operation
  let path : List Label := [(operation.filter (!·.isBlank)).getD "", "variables", key]
  match declaration.type with
  | .nonNull (.named typeName) =>
    let property ← variableProperty context typeName declaration.default? path
    return inputs.add key property true
  | .nonNull (.flawed (.lacks holder part)) => fail (.unreadable .variableType (.lacks holder part))
  | .named typeName =>
    let property ← variableProperty context typeName declaration.default? path
    return inputs.add key property false
  | .nonNull _ | .list _ =>
    report context (.listVariable key) path
    return inputs
  | .flawed flaw => fail (.unreadable .variableType flaw)

/-- The inputs of an operation, or none when its list of declarations is empty. -/
def inputs? (context : Nat) (declarations : List VariableDefinition) : Building (Option Inputs) :=
  if declarations.isEmpty then return none
  else some <$> declarations.foldlM (addVariable context) .empty

/-! ## Selections -/

/-- The pointer to a variable of the operation of a context. -/
def variablePointer (context : Nat) (name : Label) : Building String := do
  ofExcept (Schema.variablePointer ((← get).scopeAt context) name)

/-- Adds an argument of a field. -/
def addArgument (context : Nat) (path : List Label) (properties : Keyed Label Json)
    (argument : Argument) : Building (Keyed Label Json) :=
  match argument.value with
  | .variable variableName => do
    if ((← get).contextAt context).declared.contains (variableKey variableName) then
      let pointer ← variablePointer context variableName
      return properties.put argument.name (reference pointer)
    else
      report context (.unresolvedVariable argument.name variableName) (path ++ [argument.name])
      return properties.put argument.name (.object [])
  | .flawed flaw => fail (.unreadable .value flaw)
  | value =>
    match value.kind? with
    | some kind => do
      report context (.literalArgument kind argument.name) (path ++ [argument.name])
      return properties
    | none => fail (.unreadable .value (.lacks .nothing "kind"))

/-- The schema of the arguments of a field. -/
def argumentsSchema (context : Nat) (path : List Label) (arguments : List Argument) :
    Building Json := do
  let properties ← arguments.foldlM (addArgument context path) []
  return .object [("type", .string "object"), ("properties", labelled properties),
    ("required", .array []), ("additionalProperties", .bool false)]

mutual

/-- The properties of a selection set, added to those of the selections before. -/
def addSelections (context : Nat) (path : List Label) (properties : Keyed Label Json) :
    List Selection → Building (Keyed Label Json)
  | [] => return properties
  | selection :: rest => do
    let added ← addSelection context path properties selection
    addSelections context path added rest

/-- Adds one selection. -/
def addSelection (context : Nat) (path : List Label) (properties : Keyed Label Json) :
    Selection → Building (Keyed Label Json)
  | .field alias? name arguments _ selectionSet => do
    if properties.contains name then
      let shown ← alias?.mapM (read .selection)
      report context (.overwrittenSelection name shown) (path ++ [name])
    let schema ← fieldSchema context (path ++ [name]) arguments selectionSet
    return properties.put name schema
  | .fragmentSpread name _ => do
    report context (.fragmentSpread name) path
    return properties
  | .inlineFragment typeCondition _ _ => do
    report context (.inlineFragment typeCondition) path
    return properties
  | .flawed flaw => fail (.unreadable .selection flaw)

/-- The schema of a field. -/
def fieldSchema (context : Nat) (path : List Label) (arguments : List Argument) :
    Option (List Selection) → Building Json
  | none => do
    if arguments.isEmpty then return .object []
    else return fieldObject (.object []) (← argumentsSchema context path arguments)
  | some selections => do
    let selected ← addSelections context path [] selections
    let passed ←
      if arguments.isEmpty then pure (.object []) else argumentsSchema context path arguments
    return fieldObject (selectedObject selected) passed

end

/-- The properties of a selection set. -/
def selectionTree (context : Nat) (path : List Label) (selections : List Selection) :
    Building (Keyed Label Json) :=
  addSelections context path [] selections

/-- The schema of a selection set, without any property when there is none. -/
def selectionSetSchema (context : Nat) (path : List Label)
    (selectionSet : Option (List Selection)) : Building Json :=
  match selectionSet with
  | none => return selectedObject []
  | some selections => selectedObject <$> selectionTree context path selections

/-! ## Entries -/

/-- The schemas of the two parts of an operation, built in the context made for it. -/
def operationParts (inner : Nat) (name : Label) (operation : Operation) : Building Json := do
  match operation.declarations with
  | none =>
    return operationObject (.object [])
      (← selectionSetSchema inner [name] operation.selectionSet)
  | some declarations =>
    let inputs ← inputs? inner declarations
    declare inner (match inputs with
      | some found => found.properties.keys
      | none => [])
    return operationObject (inputsSchema inputs)
      (← selectionSetSchema inner [name] operation.selectionSet)

/-- The name and the schema of an operation. -/
def operationEntry (context : Nat) (operation : Operation) : Building (Label × Json) := do
  match ← read .definition operation.name with
  | none => fail (.anonymousOperation operation.type)
  | some name =>
    if name.isBlank then fail (.anonymousOperation operation.type)
    else
      let inner ← forOperation context name
      return (name, ← operationParts inner name operation)

/-- The name and the schema of a type with fields. -/
def typeEntry (type : TypeDefinition) : Building (Label × Json) := do
  ofExcept (Schema.typeEntry (← get).scalars type)

/-- The name and the schema of an enum type. -/
def enumEntry (type : EnumDefinition) : Building (Label × Json) := ofExcept (Schema.enumEntry type)

/-- The schema that a call asks for, built in a context. -/
def perform (context : Nat) : Call → Building Json
  | .inputs declarations => inputsSchema <$> inputs? context declarations
  | .arguments passed path => argumentsSchema context path passed
  | .selectionSet selections path => selectionSetSchema context path selections
  | .selectionTree selections path => labelled <$> selectionTree context path selections
  | .typeSchema type => do
    ofExcept ((typeMembers (← get).scalars type).map .object)
  | .operation node => entryPair <$> operationEntry context node
  | .fielded type => entryPair <$> typeEntry type
  | .enum type => entryPair <$> enumEntry type
  | .variablePointer name => .string <$> variablePointer context name

/-! ## Documents -/

/-- The name and the entry of a definition. A kind without entries is refused. -/
def entry (context : Nat) : Definition → Building (Label × Entry)
  | .operation operation =>
    (fun found => (found.1, ⟨true, found.2⟩)) <$> operationEntry context operation
  | .fielded type => (fun found => (found.1, ⟨false, found.2⟩)) <$> typeEntry type
  | .enum type => (fun found => (found.1, ⟨false, found.2⟩)) <$> enumEntry type
  | .other kind _ => fail (.unsupportedDefinition kind)
  | .flawed flaw => fail (.unreadable .definition flaw)

/-- Adds a definition to a document, unless it has no entry or its name is taken. -/
def addDefinition (context : Nat) (document : SchemaDocument) :
    Definition → Building SchemaDocument
  | .other kind name => do
    let path := ((← read .definition name).filter (· ≠ .nothing)).toList
    report context (.unsupportedDefinition kind) path
    return document
  | definition => do
    match ← read .definition definition.name with
    | some name =>
      if name ≠ .nothing && document.isTaken name then
        report context (.duplicateDefinition name) [name]
        return document
      else addEntry document definition
    | none => addEntry document definition
where
  /-- Adds the entry of the definition. -/
  addEntry (document : SchemaDocument) (definition : Definition) : Building SchemaDocument := do
    let (name, entry) ← entry context definition
    return document.add name entry

/-- Makes a document in a context of its own, with the reports that are made on the way. -/
def collecting (work : Nat → Building SchemaDocument) : Building Conversion := do
  let context ← newContext
  let document ← work context
  return ⟨document, ← collected context⟩

/-- Converts one definition. -/
def convert (definition : Definition) : Building Conversion :=
  collecting fun context => do
    addDefinition.addEntry context (.empty (← get).layout) definition

/-- Converts a whole GraphQL document. -/
def convertDocument (definitions : Document) : Building Conversion :=
  collecting fun context => do
    definitions.foldlM (addDefinition context) (.empty (← get).layout)

end Building

/-! ## Calls and requests in turn -/

namespace Store

/-- Performs a call in a context: the store afterwards, and how the call ended. -/
def perform (store : Store) (context : Nat) (call : Call) : Store × Except BuildError Json :=
  ((Building.perform context call).outcome store).swap

/-- Performs calls one after the other in one context. -/
def performAll (store : Store) (context : Nat) : List Call → Store × List (Except BuildError Json)
  | [] => (store, [])
  | call :: rest =>
    let (next, ended) := store.perform context call
    let (last, others) := next.performAll context rest
    (last, ended :: others)

/-- Registers a scalar. -/
def register (store : Store) (name type : String) : Store × Except UnknownPrimitive Unit :=
  match store.scalars.register name type with
  | .ok scalars => ({ store with scalars }, .ok ())
  | .error e => (store, .error e)

/-- Serves a request: the store afterwards, and the reply. -/
def serve (store : Store) : Request → Store × Reply
  | .register scalar type =>
    let (next, ended) := store.register scalar type
    (next, .registered ended)
  | .get scalar => (store, .type (store.scalars.get? scalar))
  | .has scalar => (store, .known (store.scalars.contains scalar))
  | .schemaFor scalar => (store, .schema ((store.scalars.schema? scalar).map .object))
  | .convert definition =>
    let (ended, next) := (Building.convert definition).outcome store
    (next, .conversion ended)
  | .convertDocument definitions =>
    let (ended, next) := (Building.convertDocument definitions).outcome store
    (next, .conversion ended)

/-- The store after some requests in turn. -/
def serveAll (store : Store) (requests : List Request) : Store :=
  requests.foldl (fun store request => (store.serve request).1) store

end Store

end QuerySchema.Schema
