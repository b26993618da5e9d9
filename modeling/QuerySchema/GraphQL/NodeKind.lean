/-!
Kinds of nodes in the tree of a GraphQL document.

Each kind has a spelling in lower case, used in diagnostics, and a class name made from it, used
when a node stands where it does not belong.
-/

namespace QuerySchema.GraphQL

/-- A kind of node. -/
inductive NodeKind where
  | name
  | document
  | operationDefinition
  | variableDefinition
  | selectionSet
  | field
  | argument
  | fragmentSpread
  | inlineFragment
  | fragmentDefinition
  | variable
  | intValue
  | floatValue
  | stringValue
  | booleanValue
  | nullValue
  | enumValue
  | listValue
  | objectValue
  | objectField
  | directive
  | namedType
  | listType
  | nonNullType
  | schemaDefinition
  | operationTypeDefinition
  | scalarTypeDefinition
  | objectTypeDefinition
  | fieldDefinition
  | inputValueDefinition
  | interfaceTypeDefinition
  | unionTypeDefinition
  | enumTypeDefinition
  | enumValueDefinition
  | inputObjectTypeDefinition
  | directiveDefinition
  | schemaExtension
  | scalarTypeExtension
  | objectTypeExtension
  | interfaceTypeExtension
  | unionTypeExtension
  | enumTypeExtension
  | inputObjectTypeExtension
  | directiveExtension
  deriving DecidableEq, Repr

namespace NodeKind

/-- The spelling of a kind. -/
def text : NodeKind → String
  | .name => "name"
  | .document => "document"
  | .operationDefinition => "operation_definition"
  | .variableDefinition => "variable_definition"
  | .selectionSet => "selection_set"
  | .field => "field"
  | .argument => "argument"
  | .fragmentSpread => "fragment_spread"
  | .inlineFragment => "inline_fragment"
  | .fragmentDefinition => "fragment_definition"
  | .variable => "variable"
  | .intValue => "int_value"
  | .floatValue => "float_value"
  | .stringValue => "string_value"
  | .booleanValue => "boolean_value"
  | .nullValue => "null_value"
  | .enumValue => "enum_value"
  | .listValue => "list_value"
  | .objectValue => "object_value"
  | .objectField => "object_field"
  | .directive => "directive"
  | .namedType => "named_type"
  | .listType => "list_type"
  | .nonNullType => "non_null_type"
  | .schemaDefinition => "schema_definition"
  | .operationTypeDefinition => "operation_type_definition"
  | .scalarTypeDefinition => "scalar_type_definition"
  | .objectTypeDefinition => "object_type_definition"
  | .fieldDefinition => "field_definition"
  | .inputValueDefinition => "input_value_definition"
  | .interfaceTypeDefinition => "interface_type_definition"
  | .unionTypeDefinition => "union_type_definition"
  | .enumTypeDefinition => "enum_type_definition"
  | .enumValueDefinition => "enum_value_definition"
  | .inputObjectTypeDefinition => "input_object_type_definition"
  | .directiveDefinition => "directive_definition"
  | .schemaExtension => "schema_extension"
  | .scalarTypeExtension => "scalar_type_extension"
  | .objectTypeExtension => "object_type_extension"
  | .interfaceTypeExtension => "interface_type_extension"
  | .unionTypeExtension => "union_type_extension"
  | .enumTypeExtension => "enum_type_extension"
  | .inputObjectTypeExtension => "input_object_type_extension"
  | .directiveExtension => "directive_extension"

/-- Every kind. -/
def all : List NodeKind :=
  [.name, .document, .operationDefinition, .variableDefinition, .selectionSet, .field,
    .argument, .fragmentSpread, .inlineFragment, .fragmentDefinition, .variable, .intValue,
    .floatValue, .stringValue, .booleanValue, .nullValue, .enumValue, .listValue, .objectValue,
    .objectField, .directive, .namedType, .listType, .nonNullType, .schemaDefinition,
    .operationTypeDefinition, .scalarTypeDefinition, .objectTypeDefinition, .fieldDefinition,
    .inputValueDefinition, .interfaceTypeDefinition, .unionTypeDefinition, .enumTypeDefinition,
    .enumValueDefinition, .inputObjectTypeDefinition, .directiveDefinition, .schemaExtension,
    .scalarTypeExtension, .objectTypeExtension, .interfaceTypeExtension, .unionTypeExtension,
    .enumTypeExtension, .inputObjectTypeExtension, .directiveExtension]

/-- The kind with a given spelling. -/
def ofText? (spelling : String) : Option NodeKind := all.find? fun kind => kind.text == spelling

/-- The parts that a node of a kind has, as far as anything is ever looked up in them. -/
def parts : NodeKind → List String
  | .name | .intValue | .floatValue | .stringValue | .booleanValue | .enumValue => ["value"]
  | .document => ["definitions"]
  | .operationDefinition =>
    ["description", "name", "operation", "variable_definitions", "selection_set"]
  | .variableDefinition => ["description", "variable", "type", "default_value"]
  | .selectionSet => ["selections"]
  | .field => ["alias", "name", "arguments", "selection_set"]
  | .argument | .objectField => ["name", "value"]
  | .fragmentSpread | .variable | .namedType | .scalarTypeExtension => ["name"]
  | .inlineFragment => ["type_condition", "selection_set"]
  | .fragmentDefinition =>
    ["description", "name", "variable_definitions", "type_condition", "selection_set"]
  | .nullValue => []
  | .listValue => ["values"]
  | .objectValue => ["fields"]
  | .directive => ["name", "arguments"]
  | .listType | .nonNullType => ["type"]
  | .schemaDefinition => ["description"]
  | .operationTypeDefinition => ["operation", "type"]
  | .scalarTypeDefinition | .unionTypeDefinition | .enumValueDefinition => ["description", "name"]
  | .objectTypeDefinition | .interfaceTypeDefinition | .inputObjectTypeDefinition =>
    ["description", "name", "fields"]
  | .fieldDefinition => ["description", "name", "arguments", "type"]
  | .inputValueDefinition => ["description", "name", "type", "default_value"]
  | .enumTypeDefinition => ["description", "name", "values"]
  | .directiveDefinition => ["description", "name", "arguments"]
  | .schemaExtension => []
  | .objectTypeExtension | .interfaceTypeExtension | .inputObjectTypeExtension =>
    ["name", "fields"]
  | .unionTypeExtension | .directiveExtension => ["name"]
  | .enumTypeExtension => ["name", "values"]

/-- A spelling with the letter after each underscore, and the first one, as a capital. -/
def capitalised : (start : Bool) → List Char → List Char
  | _, [] => []
  | _, '_' :: rest => capitalised true rest
  | start, c :: rest => (if start then c.toUpper else c) :: capitalised false rest

/-- The class name of a kind: `int_value` is an `IntValueNode`. -/
def className (kind : NodeKind) : String :=
  String.ofList (capitalised true kind.text.toList) ++ "Node"

end NodeKind

end QuerySchema.GraphQL
