import QuerySchema.GraphQL.RawTree

/-!
The tree of a GraphQL document.

Operations and the definitions of object, input, interface and enum types are held in full. Of any
other definition only its kind and its name are kept, since nothing else of it is ever used.

A tree may come from the grammar or from a `RawTree`. The latter can have something else where a
definition, a selection, a type or a value belongs; such a place holds a `Flaw`, and it makes
trouble only when it is read. Names that can be missing are optional.
-/

namespace QuerySchema.GraphQL

/-- A value: the argument of a field or the default of a variable. Numbers keep their text. -/
inductive Value where
  | variable (name : Label)
  | int (text : String)
  | float (text : String)
  | string (text : String) (block : Bool)
  | boolean (value : Bool)
  | null
  | enum (name : String)
  | list (values : List Value)
  | object (fields : List (String × Value))
  /-- A node for a number, a text or a truth value that says something else, or nothing. -/
  | odd (kind : NodeKind) (said : Label)
  /-- A node of which only the kind is kept. -/
  | other (kind : NodeKind)
  | flawed (flaw : Flaw)
  deriving Repr

/-- The kind of the node that a value is; none for a place that holds no node. -/
def Value.kind? : Value → Option NodeKind
  | .variable _ => some .variable
  | .int _ => some .intValue
  | .float _ => some .floatValue
  | .string _ _ => some .stringValue
  | .boolean _ => some .booleanValue
  | .null => some .nullValue
  | .enum _ => some .enumValue
  | .list _ => some .listValue
  | .object _ => some .objectValue
  | .odd kind _ => some kind
  | .other kind => some kind
  | .flawed _ => none

/-- The type of a variable or of a field. -/
inductive TypeRef where
  | named (name : Label)
  | list (item : TypeRef)
  | nonNull (inner : TypeRef)
  | flawed (flaw : Flaw)
  deriving DecidableEq, Repr

/-- A named value passed to a field or to a directive. An argument whose name cannot be read has a
flawed value. -/
structure Argument where
  name : Label
  value : Value
  deriving Repr

/-- A directive on some part of a document. -/
structure Directive where
  name : String
  arguments : List Argument
  deriving Repr

/-- One selection of a selection set. -/
inductive Selection where
  | field (alias? : Option (Readable Label)) (name : Label) (arguments : List Argument)
      (directives : List Directive) (selectionSet : Option (List Selection))
  | fragmentSpread (name : Label) (directives : List Directive)
  | inlineFragment (typeCondition : Option Label) (directives : List Directive)
      (selectionSet : List Selection)
  | flawed (flaw : Flaw)
  deriving Repr

/-- The declaration of a variable of an operation. One whose name cannot be read has a flawed
type. -/
structure VariableDefinition where
  name : Label
  type : TypeRef
  default? : Option Value
  directives : List Directive
  deriving Repr

/-- A name that is there. -/
def named (name : String) : Readable (Option Label) := .ok (some name)

/-- The three types of operations. -/
inductive OperationType where
  | query
  | mutation
  | subscription
  deriving DecidableEq, Repr

/-- The keyword of an operation type. -/
def OperationType.text : OperationType → String
  | .query => "query"
  | .mutation => "mutation"
  | .subscription => "subscription"

/-- The operation type of a keyword. -/
def OperationType.ofText? (word : String) : Option OperationType :=
  [query, mutation, subscription].find? fun type => type.text == word

/-- An operation. A missing list of variables differs from an empty one. -/
structure Operation where
  type : Option OperationType
  name : Readable (Option Label)
  declarations : Option (List VariableDefinition)
  directives : List Directive
  selectionSet : Option (List Selection)
  deriving Repr

/-- A field of a type definition. One whose name cannot be read has a flawed type. -/
structure FieldDefinition where
  name : Label
  type : TypeRef
  description : Readable (Option Label)
  deriving Repr

/-- The three kinds of types that have fields. -/
inductive FieldedKind where
  | object
  | input
  | interface
  deriving DecidableEq, Repr

/-- The definition of a type with fields. -/
structure TypeDefinition where
  kind : FieldedKind
  name : Readable (Option Label)
  description : Readable (Option Label)
  fields : List FieldDefinition
  deriving Repr

/-- The definition of an enum type, by the names of its values. -/
structure EnumDefinition where
  name : Readable (Option Label)
  description : Readable (Option Label)
  values : List (Readable Label)
  deriving Repr

/-- A definition at the top level of a document. -/
inductive Definition where
  | operation (operation : Operation)
  | fielded (type : TypeDefinition)
  | enum (type : EnumDefinition)
  /-- A definition of any other kind. -/
  | other (kind : NodeKind) (name : Readable (Option Label))
  | flawed (flaw : Flaw)
  deriving Repr

namespace Definition

/-- The kind of a definition; none for a place that holds no node. -/
def kind? : Definition → Option NodeKind
  | .operation _ => some .operationDefinition
  | .fielded type => some (match type.kind with
    | .object => .objectTypeDefinition
    | .input => .inputObjectTypeDefinition
    | .interface => .interfaceTypeDefinition)
  | .enum _ => some .enumTypeDefinition
  | .other kind _ => some kind
  | .flawed _ => none

/-- The name of a definition, if it has one. -/
def name : Definition → Readable (Option Label)
  | .operation o => o.name
  | .fielded type => type.name
  | .enum type => type.name
  | .other _ name => name
  | .flawed flaw => .error flaw

end Definition

/-- A document: its definitions in order. -/
abbrev Document := List Definition

end QuerySchema.GraphQL
