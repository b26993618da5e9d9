import QuerySchema.Json.Writer
import QuerySchema.Schema.Entry

/-!
Generated documents.

A document holds the entries of the definitions it was made from, in their order; no two have the
same name. Its layout decides only under which top-level key the operations stand. A converter
makes a document from one definition or from all definitions of a GraphQL document; in the latter
case a definition without an entry, and one whose name is taken, is left out and reported.
-/

namespace QuerySchema.Schema

open GraphQL

/-- The version of the schema language. -/
def draft06 : String := "http://json-schema.org/draft-06/schema#"

/-- An entry: whether it is that of an operation, and its schema. -/
structure Entry where
  isOperation : Bool
  schema : Json
  deriving Repr

/-- A generated document. -/
structure SchemaDocument where
  layout : Layout
  entries : Keyed Label Entry
  deriving Repr

namespace SchemaDocument

/-- A document without entries. -/
def empty (layout : Layout) : SchemaDocument := ⟨layout, []⟩

/-- Whether a name is that of an entry. -/
def isTaken (document : SchemaDocument) (name : Label) : Bool := document.entries.contains name

/-- Adds an entry. -/
def add (document : SchemaDocument) (name : Label) (entry : Entry) : SchemaDocument :=
  { document with entries := document.entries.put name entry }

/-- The schemas of the entries of one sort, under their names. -/
def schemas (document : SchemaDocument) (wanted : Entry → Bool) : Keyed Label Json :=
  (document.entries.filter fun p => wanted p.2).map fun p => (p.1, p.2.schema)

/-- The document as JSON. Types always stand under `definitions`; the operations stand there too,
or under `properties`, in which case `definitions` appears only with the first type. -/
def toJson (document : SchemaDocument) : Json :=
  match document.layout with
  | .definitions =>
    .object [("$schema", .string draft06),
      ("definitions", labelled (document.schemas fun _ => true))]
  | .properties =>
    let operations := document.schemas fun entry => entry.isOperation
    let types := document.schemas fun entry => !entry.isOperation
    .object ([("$schema", .string draft06), ("properties", labelled operations)] ++
      (if types.isEmpty then [] else [("definitions", labelled types)]))

end SchemaDocument

/-- A generated document, and the reports on what it does not represent. -/
structure Conversion where
  document : SchemaDocument
  diagnostics : List Diagnostic
  deriving Repr

namespace Conversion

/-- Whether nothing was left out. -/
def isComplete (c : Conversion) : Bool := c.diagnostics.isEmpty

/-- The text of the document. -/
def text (c : Conversion) (indent : Option Int) : Except Json.WriteError String :=
  c.document.toJson.toText indent

end Conversion

/-- What documents are made with: a layout and the mapped scalars. -/
structure Converter where
  layout : Layout
  scalars : Scalars
  deriving Repr

namespace Converter

/-- The scope at the top of a document. -/
def scope (converter : Converter) : Scope := .top converter.layout converter.scalars

/-- The name and the entry of a definition. A kind without entries is refused. -/
def entry (converter : Converter) : Definition → Build (Label × Entry)
  | .operation operation =>
    (fun found => (found.1, ⟨true, found.2⟩)) <$> operationEntry converter.scope operation
  | .fielded type =>
    Build.ofExcept ((typeEntry converter.scalars type).map fun found =>
      (found.1, ⟨false, found.2⟩))
  | .enum type =>
    Build.ofExcept ((enumEntry type).map fun found => (found.1, ⟨false, found.2⟩))
  | .other kind _ => Build.fail (.unsupportedDefinition kind)
  | .flawed flaw => Build.fail (.unreadable .definition flaw)

/-- Adds a definition to a document, unless it has no entry or its name is taken. A taken name is
noticed before the entry is built, so nothing inside such a definition is reported. -/
def addDefinition (converter : Converter) (document : SchemaDocument) :
    Definition → Build SchemaDocument
  | .other kind name => do
    let path := ((← Build.read .definition name).filter (· ≠ .nothing)).toList
    Build.report (.unsupportedDefinition kind) path
    return document
  | definition => do
    match ← Build.read .definition definition.name with
    | some name =>
      if name ≠ .nothing && document.isTaken name then
        Build.report (.duplicateDefinition name) [name]
        return document
      else addEntry document definition
    | none => addEntry document definition
where
  /-- Adds the entry of the definition. -/
  addEntry (document : SchemaDocument) (definition : Definition) : Build SchemaDocument := do
    let (name, entry) ← converter.entry definition
    return document.add name entry

/-- The document of all definitions, with the reports on what was left out. -/
def documentOf (converter : Converter) (definitions : Document) : Build SchemaDocument :=
  definitions.foldlM converter.addDefinition (.empty converter.layout)

/-- Converts a whole GraphQL document. -/
def convertDocument (converter : Converter) (definitions : Document) :
    Except BuildError Conversion :=
  let build := converter.documentOf definitions
  build.result.map fun document => ⟨document, build.reports⟩

/-- Converts one definition. -/
def convert (converter : Converter) (definition : Definition) : Except BuildError Conversion :=
  let build := converter.entry definition
  build.result.map fun found =>
    ⟨(SchemaDocument.empty converter.layout).add found.1 found.2, build.reports⟩

/-- The converter with one more scalar mapped. -/
def register (converter : Converter) (name type : String) :
    Except UnknownPrimitive Converter :=
  (converter.scalars.register name type).map fun scalars => { converter with scalars }

end Converter

end QuerySchema.Schema
