import QuerySchema.Files.Disk
import QuerySchema.GraphQL.Grammar
import QuerySchema.Log
import QuerySchema.Reported
import QuerySchema.Text.Position
import QuerySchema.Text.Utf8

/-!
The GraphQL documents below a path.

The sources are the files whose name has one of three endings: the file itself when the path leads
to a file, every one in it when it leads to a folder, and none when it leads nowhere. They are read
in the order of their paths, and their definitions make one document. The first source that cannot
be read ends this.
-/

namespace QuerySchema.Files

open GraphQL Text

/-- The endings of a GraphQL file. None holds a slash, so a path has one exactly when its last name
does. -/
def endings : List String := [".graphql", ".graphqls", ".gql"]

/-- Whether a path is that of a GraphQL file. -/
def isSourcePath (path : String) : Bool :=
  endings.any fun ending => ending.toList.isSuffixOf path.toList

/-- A file with GraphQL text. -/
structure Source where
  path : String
  bytes : List UInt8
  deriving Repr

mutual

/-- The sources in a tree that has a path. -/
def Tree.sources (path : String) : Tree → List Source
  | .file bytes => if isSourcePath path then [⟨path, bytes⟩] else []
  | .folder entries => entrySources path entries

/-- The sources in the entries of a folder that has a path. -/
def entrySources (path : String) : List (String × Tree) → List Source
  | [] => []
  | (name, tree) :: rest => tree.sources (join path name) ++ entrySources path rest

end

/-- The sources below a path, in the order of their paths. -/
def Disk.sources (disk : Disk) (path : String) : List Source :=
  match disk.tree? path with
  | some tree => (tree.sources path).mergeSort fun a b => !decide (b.path < a.path)
  | none => []

/-- A report on a source. -/
inductive LoadReport where
  /-- It holds a number of definitions. -/
  | parsed (path : String) (definitions : Nat)
  /-- It holds no document. -/
  | notParsed (path : String)
  deriving DecidableEq, Repr

/-- The line of the log for a report. -/
def LoadReport.line : LoadReport → LogLine
  | .parsed path definitions =>
    ⟨.debug, "loader", "Parsed " ++ path ++ ": " ++ toString definitions ++ " definitions"⟩
  | .notParsed path => ⟨.error, "loader", "Error parsing " ++ baseName path⟩

/-- Why the sources cannot be read. -/
inductive LoadError where
  /-- A source is not UTF-8. -/
  | undecodable (fault : Utf8.Fault)
  /-- A source holds no document. -/
  | malformed (error : SyntaxError)
  deriving DecidableEq, Repr

/-- The reading of sources. -/
abbrev Loading := Reported LoadReport LoadError

/-- The text of a file, with every line end as a line feed. -/
def readText (bytes : List UInt8) : Except Utf8.Fault String :=
  (Utf8.decode bytes).map fun cs => String.ofList (unifyLineEnds cs)

/-- The document in a source. -/
def Source.load (source : Source) : Loading Document := do
  match readText source.bytes with
  | .error fault => Reported.fail (.undecodable fault)
  | .ok text =>
    match Document.ofText text with
    | .error e =>
      Reported.report (.notParsed source.path)
      Reported.fail (.malformed e)
    | .ok document =>
      Reported.report (.parsed source.path document.length)
      return document

/-- The definitions of some sources, in their order. -/
def loadAll : List Source → Loading Document
  | [] => return []
  | source :: rest => do
    let document ← source.load
    return document ++ (← loadAll rest)

/-- The definitions below a path. -/
def Disk.load (disk : Disk) (path : String) : Loading Document := loadAll (disk.sources path)

end QuerySchema.Files
