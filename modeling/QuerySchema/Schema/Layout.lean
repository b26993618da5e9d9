import QuerySchema.Text.Quoted

/-!
Where the entries of operations stand in a generated document.

The layout decides two things together: the top-level map that holds the operations, and the start
of every pointer to a variable of an operation.
-/

namespace QuerySchema.Schema

open Text

/-- A layout, named for the map that holds the operations. -/
inductive Layout where
  | definitions
  | properties
  deriving DecidableEq, Repr

/-- A word that names no layout. -/
structure UnknownLayout where
  word : String
  deriving DecidableEq, Repr

/-- What is said about a word that names no layout. -/
def UnknownLayout.message (e : UnknownLayout) : String :=
  quoted e.word ++ " is not a valid SchemaLayout"

namespace Layout

/-- The top-level key of the map that holds the operations. -/
def container : Layout → String
  | .definitions => "definitions"
  | .properties => "properties"

/-- The start of the pointers into that map. -/
def pointerStart (layout : Layout) : String := "#/" ++ layout.container

/-- The layouts in the order in which they are listed. -/
def all : List Layout := [.definitions, .properties]

/-- The layout of a word. -/
def ofText (word : String) : Except UnknownLayout Layout :=
  match all.find? fun layout => layout.container == word with
  | some layout => .ok layout
  | none => .error ⟨word⟩

end Layout

end QuerySchema.Schema
