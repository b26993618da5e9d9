import QuerySchema.Json.Value
import QuerySchema.Text.Quoted

/-!
Which JSON type stands for a GraphQL scalar.

The five built-in scalars are always mapped. Further scalars can be mapped, and a mapping can be
replaced; the last registration of a name counts. A registration that names no JSON type is refused
and changes nothing.
-/

namespace QuerySchema.Schema

open Text

/-- The primitive types of a JSON schema. -/
inductive Primitive where
  | array
  | boolean
  | integer
  | null
  | number
  | object
  | string
  deriving DecidableEq, Repr

namespace Primitive

/-- The name of a type. -/
def text : Primitive → String
  | .array => "array"
  | .boolean => "boolean"
  | .integer => "integer"
  | .null => "null"
  | .number => "number"
  | .object => "object"
  | .string => "string"

/-- Every type. -/
def all : List Primitive := [.array, .boolean, .integer, .null, .number, .object, .string]

/-- The type with a given name. -/
def ofText? (word : String) : Option Primitive := all.find? fun type => type.text == word

/-- The schema of all values of a type. -/
def schema (type : Primitive) : Keyed String Json := [("type", .string type.text)]

end Primitive

/-- A registration that names no JSON type. -/
structure UnknownPrimitive where
  type : String
  scalar : String
  deriving DecidableEq, Repr

/-- What is said about a registration that names no JSON type. -/
def UnknownPrimitive.message (e : UnknownPrimitive) : String :=
  "Unknown JSON Schema type " ++ quoted e.type ++ " for scalar " ++ quoted e.scalar

/-- The mapped scalars. -/
structure Scalars where
  types : Keyed String Primitive
  deriving Repr

namespace Scalars

/-- The scalars that every GraphQL service knows. -/
def builtin : Scalars :=
  ⟨[("String", .string), ("ID", .string), ("Int", .number), ("Float", .number),
    ("Boolean", .boolean)]⟩

/-- The type of a scalar, if it is mapped. -/
def get? (scalars : Scalars) (name : String) : Option Primitive := scalars.types.get? name

/-- Whether a scalar is mapped. -/
def contains (scalars : Scalars) (name : String) : Bool := scalars.types.contains name

/-- The schema of a scalar, if it is mapped. -/
def schema? (scalars : Scalars) (name : String) : Option (Keyed String Json) :=
  (scalars.get? name).map Primitive.schema

/-- Maps a scalar to the type with a given name. -/
def register (scalars : Scalars) (name type : String) : Except UnknownPrimitive Scalars :=
  match Primitive.ofText? type with
  | some primitive => .ok ⟨scalars.types.put name primitive⟩
  | none => .error ⟨type, name⟩

/-- Registers each pair of name and type in turn, up to the first that is refused. -/
def registerAll (scalars : Scalars) (pairs : List (String × String)) :
    Except UnknownPrimitive Scalars :=
  pairs.foldlM (fun known pair => known.register pair.1 pair.2) scalars

end Scalars

end QuerySchema.Schema
