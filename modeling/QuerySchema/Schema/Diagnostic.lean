import QuerySchema.GraphQL.RawTree

/-!
Reports about parts of the input that the schema does not represent.

A diagnostic has a kind, a wording and the path of keys that leads to the part. `Omission` lists
everything that is ever left out; its kind and its wording follow from what it is. A path can be
written down when all its steps are texts, as they are in every parsed document.
-/

namespace QuerySchema.Schema

open GraphQL Text

/-- The kinds of reports. -/
inductive DiagnosticKind where
  | fragmentSpread
  | inlineFragment
  | listVariable
  | unsupportedDefault
  | literalArgument
  | unresolvedVariable
  | unsupportedDefinition
  | duplicateDefinition
  | overwrittenSelection
  deriving DecidableEq, Repr

/-- A word that names no kind of report. -/
structure UnknownDiagnosticKind where
  word : String
  deriving DecidableEq, Repr

/-- What is said about a word that names no kind of report. -/
def UnknownDiagnosticKind.message (e : UnknownDiagnosticKind) : String :=
  quoted e.word ++ " is not a valid DiagnosticKind"

namespace DiagnosticKind

/-- The spelling of a kind. -/
def text : DiagnosticKind → String
  | .fragmentSpread => "fragment_spread"
  | .inlineFragment => "inline_fragment"
  | .listVariable => "list_variable"
  | .unsupportedDefault => "unsupported_default"
  | .literalArgument => "literal_argument"
  | .unresolvedVariable => "unresolved_variable"
  | .unsupportedDefinition => "unsupported_definition"
  | .duplicateDefinition => "duplicate_definition"
  | .overwrittenSelection => "overwritten_selection"

/-- Every kind. -/
def all : List DiagnosticKind :=
  [.fragmentSpread, .inlineFragment, .listVariable, .unsupportedDefault, .literalArgument,
    .unresolvedVariable, .unsupportedDefinition, .duplicateDefinition, .overwrittenSelection]

/-- The kind of a word. -/
def ofText (word : String) : Except UnknownDiagnosticKind DiagnosticKind :=
  match all.find? fun kind => kind.text == word with
  | some kind => .ok kind
  | none => .error ⟨word⟩

end DiagnosticKind

/-- A report. -/
structure Diagnostic where
  kind : DiagnosticKind
  message : String
  /-- The keys from the top of the document to the part that was left out. -/
  path : List Label
  deriving DecidableEq, Repr

/-- A step of a path that is no text, by its place. -/
structure UnwritableStep where
  index : Nat
  found : Found
  deriving DecidableEq, Repr

/-- What is said about a step that is no text. -/
def UnwritableStep.message (e : UnwritableStep) : String :=
  "sequence item " ++ toString e.index ++ ": expected str instance, " ++ e.found.className ++
    " found"

/-- The first step, from an index on, that is no text. -/
def unwritableStep? : (index : Nat) → List Label → Option UnwritableStep
  | _, [] => none
  | index, .text _ :: rest => unwritableStep? (index + 1) rest
  | index, label :: _ => some ⟨index, label.found⟩

namespace Diagnostic

/-- The path with dots between its keys. -/
def location (d : Diagnostic) : String := ".".intercalate (d.path.map Label.spoken)

/-- A report on one line. A path without any key is left out. -/
def text (d : Diagnostic) : String :=
  if d.path.isEmpty then d.message else d.location ++ ": " ++ d.message

/-- The reports of one kind. -/
def ofKind (kind : DiagnosticKind) (reports : List Diagnostic) : List Diagnostic :=
  reports.filter fun d => d.kind == kind

end Diagnostic

/-- A part of the input that the schema does not represent. -/
inductive Omission where
  | fragmentSpread (name : Label)
  | inlineFragment (typeCondition : Option Label)
  | listVariable (key : String)
  | unsupportedDefault (kind : NodeKind)
  | literalArgument (kind : NodeKind) (argument : Label)
  | unresolvedVariable (argument variableName : Label)
  | unsupportedDefinition (kind : NodeKind)
  | duplicateDefinition (name : Label)
  | overwrittenSelection (name : Label) (alias? : Option Label)
  deriving DecidableEq, Repr

namespace Omission

/-- The kind of report that an omission leads to. -/
def kind : Omission → DiagnosticKind
  | .fragmentSpread _ => .fragmentSpread
  | .inlineFragment _ => .inlineFragment
  | .listVariable _ => .listVariable
  | .unsupportedDefault _ => .unsupportedDefault
  | .literalArgument _ _ => .literalArgument
  | .unresolvedVariable _ _ => .unresolvedVariable
  | .unsupportedDefinition _ => .unsupportedDefinition
  | .duplicateDefinition _ => .duplicateDefinition
  | .overwrittenSelection _ _ => .overwrittenSelection

/-- The wording of the report on an omission. -/
def message : Omission → String
  | .fragmentSpread name => "fragment spread ..." ++ name.spoken ++ " is not expanded"
  | .inlineFragment none => "inline fragment is not expanded"
  | .inlineFragment (some type) => "inline fragment on " ++ type.spoken ++ " is not expanded"
  | .listVariable key => "list-typed variable " ++ key ++ " is not supported and was skipped"
  | .unsupportedDefault kind =>
    "default value of kind " ++ quoted kind.text ++ " is not captured"
  | .literalArgument kind argument =>
    "literal value of kind " ++ quoted kind.text ++ " for argument " ++ argument.shown ++
      " is not captured"
  | .unresolvedVariable argument variableName =>
    "argument " ++ argument.shown ++ " references $" ++ variableName.spoken ++
      ", which has no schema in this operation's variables"
  | .unsupportedDefinition kind =>
    "definition of kind " ++ quoted kind.text ++ " was skipped"
  | .duplicateDefinition name => "duplicate definition " ++ name.shown ++ " was skipped"
  | .overwrittenSelection name none =>
    "selection of " ++ name.shown ++ " replaces an earlier selection of the same field"
  | .overwrittenSelection name (some other) =>
    "selection of " ++ name.shown ++ " (alias " ++ other.shown ++
      ") replaces an earlier selection of the same field"

/-- The report on an omission at the end of a path. -/
def reportAt (omission : Omission) (path : List Label) : Diagnostic :=
  ⟨omission.kind, omission.message, path⟩

end Omission

end QuerySchema.Schema
