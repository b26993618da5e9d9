import QuerySchema.Decimal.Literal
import QuerySchema.Json.Pointer
import QuerySchema.Schema.Build

/-!
The schema of what is passed to an operation: its variables.

A variable of a named type gets a property under its key; the property has the type of a mapped
scalar, or accepts anything, and holds the default of the variable where that is a plain literal.
Variables that must not be null are required. A variable of a list type has no schema. When a
variable is declared twice, the later declaration counts and the earlier place.
-/

namespace QuerySchema.Schema

open Decimal GraphQL

/-- The properties of the variables and the keys of the required ones. -/
structure Inputs where
  properties : Keyed String Json
  required : List String
  deriving Repr

namespace Inputs

/-- No variables. -/
def empty : Inputs := ⟨[], []⟩

/-- Gives a variable its property. -/
def add (inputs : Inputs) (key : String) (property : Json) (isRequired : Bool) : Inputs :=
  ⟨inputs.properties.put key property,
    if isRequired then inputs.required ++ [key] else inputs.required⟩

/-- The schema: an object that has these properties and no others. -/
def schema (inputs : Inputs) : Json :=
  .object [("type", .string "object"), ("properties", .object inputs.properties),
    ("required", .array (inputs.required.map .string)), ("additionalProperties", .bool false)]

end Inputs

/-- The default that the text of an integer gives. -/
def integerDefault (text : String) : Except BuildError (Option Json) :=
  match readInteger text with
  | .ok n => .ok (some (.int n))
  | .error e => .error (.literal e)

/-- The default that the text of a number gives; none for one beyond the range of binary64. -/
def numberDefault (text : String) : Except BuildError (Option Json) :=
  match readNumber text with
  | .ok x => .ok (if x.isFinite then some (.float x) else none)
  | .error e => .error (.literal e)

/-- The default that a literal gives; none for a value that is not a plain literal and for a number
beyond the range of binary64. -/
def defaultOf : Value → Except BuildError (Option Json)
  | .int text => integerDefault text
  | .float text => numberDefault text
  | .string text _ => .ok (some (.string text))
  | .boolean value => .ok (some (.bool value))
  | .odd kind said => oddDefault kind said
  | .flawed flaw => .error (.unreadable .value flaw)
  | _ => .ok none
where
  /-- The default that a node gives which does not say what its kind should: a number has to say
  something, and a truth value counts as one or zero. -/
  oddDefault (kind : NodeKind) (said : Label) : Except BuildError (Option Json) :=
    match kind, said with
    | .intValue, .nothing => .error (.unsaidNumber true)
    | .floatValue, .nothing => .error (.unsaidNumber false)
    | .intValue, .truth value => .ok (some (.int (if value then 1 else 0)))
    | .floatValue, .truth value => numberDefault (if value then "1" else "0")
    | .intValue, .text text => integerDefault text
    | .floatValue, .text text => numberDefault text
    | _, _ => .ok (some said.json)

/-- What the property of a variable of a named type says of its values. -/
def baseProperty (scalars : Scalars) : Label → Keyed String Json
  | .text name => (scalars.schema? name).getD []
  | _ => []

/-- The property of a variable of a named type. -/
def variableProperty (scope : Scope) (typeName : Label) (default? : Option Value)
    (path : List Label) : Build Json := do
  let base := baseProperty scope.scalars typeName
  match default? with
  | none => return .object base
  | some value =>
    match ← Build.ofExcept (defaultOf value) with
    | some literal => return .object (base.put "default" literal)
    | none =>
      match value.kind? with
      | some kind =>
        Build.report (.unsupportedDefault kind) path
        return .object base
      | none => Build.fail (.unreadable .value (.lacks .nothing "kind"))

/-- Adds the declaration of a variable. -/
def addVariable (scope : Scope) (inputs : Inputs) (declaration : VariableDefinition) :
    Build Inputs := do
  let key := variableKey declaration.name
  let path : List Label :=
    [(scope.operation.filter (!·.isBlank)).getD "", "variables", key]
  match declaration.type with
  | .nonNull (.named typeName) =>
    let property ← variableProperty scope typeName declaration.default? path
    return inputs.add key property true
  | .nonNull (.flawed (.lacks holder part)) =>
    Build.fail (.unreadable .variableType (.lacks holder part))
  | .named typeName =>
    let property ← variableProperty scope typeName declaration.default? path
    return inputs.add key property false
  | .nonNull _ | .list _ =>
    Build.report (.listVariable key) path
    return inputs
  | .flawed flaw => Build.fail (.unreadable .variableType flaw)

/-- The inputs of an operation, from a list of declarations. -/
def inputsOf (scope : Scope) (declarations : List VariableDefinition) : Build Inputs :=
  declarations.foldlM (addVariable scope) .empty

/-- The inputs of an operation, or none when its list of declarations is empty. -/
def inputs? (scope : Scope) (declarations : List VariableDefinition) : Build (Option Inputs) :=
  if declarations.isEmpty then return none else some <$> inputsOf scope declarations

/-- The schema of the inputs. Without any declaration nothing may be passed. -/
def inputsSchema : Option Inputs → Json
  | some inputs => inputs.schema
  | none => .bool false

/-- The pointer to a variable of the operation, whose name has to be a text. -/
def variablePointer (scope : Scope) (name : Label) : Except BuildError String :=
  match scope.operation with
  | some (.text operation) =>
    .ok (Json.pointer scope.layout.pointerStart
      [operation, "properties", "variables", "properties", variableKey name])
  | some label => .error (.unreadable .value (.lacks label.found "replace"))
  | none => .error .outsideOperation

end QuerySchema.Schema
