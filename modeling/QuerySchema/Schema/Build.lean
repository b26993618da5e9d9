import QuerySchema.Decimal.Literal
import QuerySchema.GraphQL.Document
import QuerySchema.Reported
import QuerySchema.Schema.Diagnostic
import QuerySchema.Schema.Layout
import QuerySchema.Schema.Scalars

/-!
Building a part of a schema.

A `Build` yields a part, or a reason why there is none, and in either case the reports on what was
left out. It has no other effect: what a part is built from is its input and a `Scope`, and
building one part cannot change what another part sees.
-/

namespace QuerySchema.Schema

open Decimal GraphQL

/-- Which place of a tree could not be read. -/
inductive Role where
  | selection
  | type
  | variableType
  | value
  | definition
  deriving DecidableEq, Repr

/-- The wording of a place. -/
def Role.text : Role → String
  | .selection => "selection"
  | .type => "type"
  | .variableType => "variable type"
  | .value => "value"
  | .definition => "definition"

/-- Why a part of a schema cannot be built. -/
inductive BuildError where
  /-- An operation needs a name, since its entry is found by it. -/
  | anonymousOperation (type : Option OperationType)
  /-- The definition is of a kind that has no entry. -/
  | unsupportedDefinition (kind : NodeKind)
  /-- A place of the tree holds something that does not belong there. -/
  | unreadable (role : Role) (flaw : Flaw)
  /-- A variable is pointed to outside of any operation. -/
  | outsideOperation
  /-- The default of a variable is not the number it should be. -/
  | literal (error : LiteralError)
  /-- The default of a variable is a number that says no text. -/
  | unsaidNumber (isInteger : Bool)
  deriving DecidableEq, Repr

/-- What is said about a place that cannot be read. -/
def flawText (role : Role) : Flaw → String
  | .misplaced found => "Unexpected " ++ role.text ++ " node: " ++ found.className
  | .lacks holder part => "'" ++ holder.className ++ "' object has no attribute '" ++ part ++ "'"
  | .unlisted found => "'" ++ found.className ++ "' object is not iterable"

/-- What is said when a part cannot be built. -/
def BuildError.message : BuildError → String
  | .anonymousOperation type =>
    "Anonymous " ++ (type.map OperationType.text).getD "operation" ++
      " not supported: please provide a named operation"
  | .unsupportedDefinition kind =>
    "Cannot convert definition of kind " ++ Text.quoted kind.text
  | .unreadable role flaw => flawText role flaw
  | .outsideOperation => flawText .value (.lacks .nothing "replace")
  | .literal error => error.message
  | .unsaidNumber isInteger =>
    (if isInteger then "int() argument must be a string, a bytes-like object or a real number"
      else "float() argument must be a string or a real number") ++
      ", not '" ++ Found.nothing.className ++ "'"

/-- The building of a part: its result, with the reports made on the way. -/
abbrev Build := Reported Diagnostic BuildError

namespace Build

/-- Reports that a part is left out. -/
def report (omission : Omission) (path : List Label) : Build Unit :=
  Reported.report (omission.reportAt path)

/-- Gives up. -/
def fail {α : Type} (e : BuildError) : Build α := Reported.fail e

/-- A step that makes no report. -/
def ofExcept {α : Type} (result : Except BuildError α) : Build α := Reported.ofExcept result

theorem ofExcept_map {α β : Type} (f : α → β) (result : Except BuildError α) :
    ofExcept (result.map f) = f <$> ofExcept result := Reported.ofExcept_map f result

/-- What is read in a place. -/
def read {α : Type} (role : Role) (place : Readable α) : Build α :=
  Reported.ofExcept (place.mapError (.unreadable role))

end Build

/-- What the parts of one operation, or of one document, are built in. -/
structure Scope where
  layout : Layout
  scalars : Scalars
  /-- The name of the operation; none at the top of a document. -/
  operation : Option Label
  /-- The keys of the variables that have a schema in the operation. -/
  declared : List String

/-- The scope at the top of a document. -/
def Scope.top (layout : Layout) (scalars : Scalars) : Scope := ⟨layout, scalars, none, []⟩

/-- The scope of an operation before its variables are known. -/
def Scope.within (scope : Scope) (operation : Label) : Scope :=
  ⟨scope.layout, scope.scalars, some operation, []⟩

/-- The scope with further variables declared. -/
def Scope.declare (scope : Scope) (keys : List String) : Scope :=
  { scope with declared := scope.declared ++ keys }

/-- The key of a variable. -/
def variableKey (name : Label) : String := "$" ++ name.spoken

end QuerySchema.Schema
