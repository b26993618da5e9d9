import QuerySchema.Schema.Conversion

/-!
A converter in use.

One converter serves any number of requests. A registration that is accepted maps one more scalar;
no other request changes the converter.
-/

namespace QuerySchema.Schema

open GraphQL

/-- A request to a converter. -/
inductive Request where
  | register (scalar type : String)
  | get (scalar : String)
  | has (scalar : String)
  | schemaFor (scalar : String)
  | convert (definition : Definition)
  | convertDocument (definitions : Document)
  deriving Repr

/-- The reply to a request. -/
inductive Reply where
  | registered (outcome : Except UnknownPrimitive Unit)
  | type (found : Option Primitive)
  | known (found : Bool)
  | schema (found : Option Json)
  | conversion (outcome : Except BuildError Conversion)

/-- Serves a request: the converter afterwards, and the reply. -/
def Converter.serve (converter : Converter) : Request → Converter × Reply
  | .register scalar type =>
    match converter.register scalar type with
    | .ok changed => (changed, .registered (.ok ()))
    | .error e => (converter, .registered (.error e))
  | .get scalar => (converter, .type (converter.scalars.get? scalar))
  | .has scalar => (converter, .known (converter.scalars.contains scalar))
  | .schemaFor scalar =>
    (converter, .schema ((converter.scalars.schema? scalar).map .object))
  | .convert definition => (converter, .conversion (converter.convert definition))
  | .convertDocument definitions =>
    (converter, .conversion (converter.convertDocument definitions))

end QuerySchema.Schema
