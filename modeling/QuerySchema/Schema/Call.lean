import QuerySchema.Schema.Entry

/-!
Building one part of a schema on its own.

A `Call` asks for the schema of one part of a GraphQL document. All calls are made in a scope, and
none of them changes it: `Call.run` yields the schema, or why there is none, and the reports.
-/

namespace QuerySchema.Schema

open GraphQL

/-- A part whose schema is asked for. -/
inductive Call where
  | inputs (declarations : List VariableDefinition)
  | arguments (arguments : List Argument) (path : List Label)
  | selectionSet (selections : Option (List Selection)) (path : List Label)
  | selectionTree (selections : List Selection) (path : List Label)
  | typeSchema (type : TypeRef)
  | operation (operation : Operation)
  | fielded (type : TypeDefinition)
  | enum (type : EnumDefinition)
  | variablePointer (name : String)
  deriving Repr

/-- A name and a schema as one value. -/
def entryPair (entry : Label × Json) : Json := .array [entry.1.json, entry.2]

/-- The schema that a call asks for. -/
def Call.run (scope : Scope) : Call → Build Json
  | .inputs declarations => inputsSchema <$> inputs? scope declarations
  | .arguments passed path => argumentsSchema scope path passed
  | .selectionSet selections path => selectionSetSchema scope path selections
  | .selectionTree selections path => labelled <$> Schema.selectionTree scope path selections
  | .typeSchema type => Build.ofExcept ((typeMembers scope.scalars type).map .object)
  | .operation node => entryPair <$> operationEntry scope node
  | .fielded type => Build.ofExcept ((typeEntry scope.scalars type).map entryPair)
  | .enum type => Build.ofExcept ((enumEntry type).map entryPair)
  | .variablePointer name =>
    Build.ofExcept ((Schema.variablePointer scope name).map .string)

end QuerySchema.Schema
