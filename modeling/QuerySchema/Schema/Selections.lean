import QuerySchema.Schema.Inputs

/-!
The schema of what an operation selects.

A selection set gives an object with one property per field name. A field that takes no arguments
and selects nothing accepts anything; any other field is an object with one property for what it
selects and one for its arguments. When a name is selected twice, the later selection counts and
the earlier place, and this is reported. Fragments are not expanded.

An argument that is bound to a variable refers to the schema of that variable. A variable without a
schema gives an argument that accepts anything; a literal gives no argument. Both are reported.
-/

namespace QuerySchema.Schema

open GraphQL

/-- The schema of an object that has the given properties and no others, none of them required. -/
def selectedObject (properties : Keyed Label Json) : Json :=
  .object [("type", .string "object"), ("additionalProperties", .bool false),
    ("properties", labelled properties)]

/-- A reference to another place of the document. -/
def reference (pointer : String) : Json := .object [("$ref", .string pointer)]

/-- Adds an argument of a field. -/
def addArgument (scope : Scope) (path : List Label) (properties : Keyed Label Json)
    (argument : Argument) : Build (Keyed Label Json) :=
  match argument.value with
  | .variable variableName =>
    if scope.declared.contains (variableKey variableName) then do
      let pointer ← Build.ofExcept (variablePointer scope variableName)
      return properties.put argument.name (reference pointer)
    else do
      Build.report (.unresolvedVariable argument.name variableName) (path ++ [argument.name])
      return properties.put argument.name (.object [])
  | .flawed flaw => Build.fail (.unreadable .value flaw)
  | value =>
    match value.kind? with
    | some kind => do
      Build.report (.literalArgument kind argument.name) (path ++ [argument.name])
      return properties
    | none => Build.fail (.unreadable .value (.lacks .nothing "kind"))

/-- The properties of the arguments of a field. -/
def argumentProperties (scope : Scope) (path : List Label) (arguments : List Argument) :
    Build (Keyed Label Json) :=
  arguments.foldlM (addArgument scope path) []

/-- The schema of the arguments of a field: an object that has these properties and no others. -/
def argumentsSchema (scope : Scope) (path : List Label) (arguments : List Argument) :
    Build Json := do
  let properties ← argumentProperties scope path arguments
  return .object [("type", .string "object"), ("properties", labelled properties),
    ("required", .array []), ("additionalProperties", .bool false)]

/-- The schema of a field that takes arguments or selects something. -/
def fieldObject (selections arguments : Json) : Json :=
  .object [("type", .string "object"), ("additionalProperties", .bool false),
    ("required", .array []),
    ("properties", .object [("selections", selections), ("arguments", arguments)])]

mutual

/-- The properties of a selection set, added to those of the selections before. -/
def addSelections (scope : Scope) (path : List Label) (properties : Keyed Label Json) :
    List Selection → Build (Keyed Label Json)
  | [] => return properties
  | selection :: rest => do
    let added ← addSelection scope path properties selection
    addSelections scope path added rest

/-- Adds one selection. What it replaces is reported before it is built. -/
def addSelection (scope : Scope) (path : List Label) (properties : Keyed Label Json) :
    Selection → Build (Keyed Label Json)
  | .field alias? name arguments _ selectionSet => do
    if properties.contains name then
      let shown ← alias?.mapM (Build.read .selection)
      Build.report (.overwrittenSelection name shown) (path ++ [name])
    let schema ← fieldSchema scope (path ++ [name]) arguments selectionSet
    return properties.put name schema
  | .fragmentSpread name _ => do
    Build.report (.fragmentSpread name) path
    return properties
  | .inlineFragment typeCondition _ _ => do
    Build.report (.inlineFragment typeCondition) path
    return properties
  | .flawed flaw => Build.fail (.unreadable .selection flaw)

/-- The schema of a field: what it selects is built before its arguments. -/
def fieldSchema (scope : Scope) (path : List Label) (arguments : List Argument) :
    Option (List Selection) → Build Json
  | none => do
    if arguments.isEmpty then return .object []
    else return fieldObject (.object []) (← argumentsSchema scope path arguments)
  | some selections => do
    let selected ← addSelections scope path [] selections
    let passed ←
      if arguments.isEmpty then pure (.object []) else argumentsSchema scope path arguments
    return fieldObject (selectedObject selected) passed

end

/-- The properties of a selection set. -/
def selectionTree (scope : Scope) (path : List Label) (selections : List Selection) :
    Build (Keyed Label Json) :=
  addSelections scope path [] selections

/-- The schema of a selection set, without any property when there is none. -/
def selectionSetSchema (scope : Scope) (path : List Label)
    (selectionSet : Option (List Selection)) : Build Json :=
  match selectionSet with
  | none => return selectedObject []
  | some selections => selectedObject <$> selectionTree scope path selections

end QuerySchema.Schema
