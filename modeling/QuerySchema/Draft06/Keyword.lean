/-!
The keywords of a draft-06 schema.

Each keyword asks for a shape of its value. The order of the keywords is the order in which a schema
is looked through, so it decides which of several faults is found first.
-/

namespace QuerySchema.Draft06

/-- What the value of a keyword, or a part of it, has to be. -/
inductive Shape where
  /-- A schema: an object or a boolean. -/
  | schema
  /-- A list of schemas, not empty. -/
  | schemas
  /-- A schema or a list of schemas. -/
  | items
  /-- An object whose members are schemas. -/
  | schemaMap
  /-- An object whose members are schemas and whose names are regular expressions. -/
  | patternMap
  /-- An object whose members are schemas or lists of texts. -/
  | dependencyMap
  /-- A schema or a list of texts. -/
  | dependency
  /-- The name of a type, or a list of such names: not empty and without repetition. -/
  | types
  /-- A list of texts without repetition. -/
  | texts
  | text
  /-- A text that is a regular expression. -/
  | pattern
  | boolean
  | number
  /-- A number above zero. -/
  | positive
  /-- An integer that is not below zero. -/
  | count
  | list
  | anything
  deriving DecidableEq, Repr

/-- The keywords in order, with the shapes of their values. -/
def keywords : List (String × Shape) :=
  [("$id", .text), ("$schema", .text), ("$ref", .text), ("title", .text), ("description", .text),
    ("default", .anything), ("examples", .list), ("multipleOf", .positive), ("maximum", .number),
    ("exclusiveMaximum", .number), ("minimum", .number), ("exclusiveMinimum", .number),
    ("maxLength", .count), ("minLength", .count), ("pattern", .pattern),
    ("additionalItems", .schema), ("items", .items), ("maxItems", .count), ("minItems", .count),
    ("uniqueItems", .boolean), ("contains", .schema), ("maxProperties", .count),
    ("minProperties", .count), ("required", .texts), ("additionalProperties", .schema),
    ("definitions", .schemaMap), ("properties", .schemaMap), ("patternProperties", .patternMap),
    ("dependencies", .dependencyMap), ("propertyNames", .schema), ("const", .anything),
    ("enum", .list), ("type", .types), ("format", .text), ("allOf", .schemas), ("anyOf", .schemas),
    ("oneOf", .schemas), ("not", .schema)]

/-- The shape that a keyword asks for; none for a word that is no keyword. -/
def shape? (word : String) : Option Shape := keywords.lookup word

end QuerySchema.Draft06
