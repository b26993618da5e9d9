import QuerySchema.Schema.Scalars
import QuerySchema.Text.Blank

/-!
Scalar mappings as they are given on a command line.

A mapping is a name and a type with an equals sign between them. Both have to be there; blanks
around them do not count, but a side of blanks only is there.
-/

namespace QuerySchema.CommandLine

open Schema Text

/-- Why a value maps no scalar. -/
inductive MappingFault where
  /-- It is not a name and a type. -/
  | malformed (value : String)
  /-- It names no type. -/
  | unknownType (error : UnknownPrimitive)
  deriving DecidableEq, Repr

/-- What is said about a value that maps no scalar. -/
def MappingFault.message : MappingFault → String
  | .malformed value => "Invalid value: expected NAME=TYPE, got " ++ quoted value
  | .unknownType e => "Invalid value for --scalar: " ++ e.message

/-- The name and the type of a mapping. -/
def readMapping (value : String) : Except MappingFault (String × String) :=
  let cs := value.toList
  let name := cs.takeWhile (· ≠ '=')
  let type := cs.drop (name.length + 1)
  if name.isEmpty || type.isEmpty then .error (.malformed value)
  else .ok (strip (String.ofList name), strip (String.ofList type))

/-- Adds a mapping to the mapped scalars. -/
def addMapping (scalars : Scalars) (value : String) : Except MappingFault Scalars := do
  let (name, type) ← readMapping value
  (scalars.register name type).mapError .unknownType

/-- The mapped scalars after every mapping in turn, up to the first that is refused. -/
def readMappings (values : List String) : Except MappingFault Scalars :=
  values.foldlM addMapping .builtin

end QuerySchema.CommandLine
