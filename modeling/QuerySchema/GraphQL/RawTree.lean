import QuerySchema.GraphQL.Label
import QuerySchema.GraphQL.NodeKind

/-!
Trees as they are put together by hand.

Nothing keeps a node of one kind from standing where another kind belongs, and nothing makes sure
that a part is there. So a part is looked up by its name: a node whose kind has such a part holds
something or nothing in its place, and looking it up anywhere else is a `Flaw`.
-/

namespace QuerySchema.GraphQL

/-- What stands in a place of a tree. -/
inductive RawTree where
  | nothing
  | text (text : String)
  | truth (value : Bool)
  | list (items : List RawTree)
  | node (kind : NodeKind) (parts : List (String × RawTree))
  deriving Repr

/-- The sorts of what can stand in a place. -/
inductive Found where
  | nothing
  | text
  | truth
  | list
  | node (kind : NodeKind)
  deriving DecidableEq, Repr

/-- The class name of a sort. -/
def Found.className : Found → String
  | .nothing => "NoneType"
  | .text => "str"
  | .truth => "bool"
  | .list => "tuple"
  | .node kind => kind.className

/-- The sort of a label. -/
def Label.found : Label → Found
  | .text _ => .text
  | .truth _ => .truth
  | .nothing => .nothing

/-- What is wrong with one place of a tree. -/
inductive Flaw where
  /-- Something that does not belong there. -/
  | misplaced (found : Found)
  /-- A part of the place is looked up in something that has no such part. -/
  | lacks (holder : Found) (part : String)
  /-- Something else stands where a list of nodes belongs. -/
  | unlisted (found : Found)
  deriving DecidableEq, Repr

/-- What is read in a place, or what is wrong with it. -/
abbrev Readable (α : Type) := Except Flaw α

namespace RawTree

/-- The sort of what stands in a place. -/
def found : RawTree → Found
  | .nothing => .nothing
  | .text _ => .text
  | .truth _ => .truth
  | .list _ => .list
  | .node kind _ => .node kind

/-- What a tree says; a list and a node say nothing. -/
def label : RawTree → Label
  | .text word => .text word
  | .truth value => .truth value
  | _ => .nothing

/-- Whether a place counts as empty. -/
def isBlank : RawTree → Bool
  | .nothing => true
  | .text word => word.isEmpty
  | .truth value => !value
  | .list items => items.isEmpty
  | .node _ _ => false

/-- What stands under a name; nothing when the name is not there. -/
def lookup (name : String) : List (String × RawTree) → RawTree
  | [] => .nothing
  | (other, tree) :: rest => if other = name then tree else lookup name rest

/-- A part of a tree. -/
def part (name : String) : RawTree → Readable RawTree
  | .node kind parts =>
    if kind.parts.contains name then .ok (lookup name parts)
    else .error (.lacks (.node kind) name)
  | other => .error (.lacks other.found name)

/-- What a tree says through its value. -/
def value (tree : RawTree) : Readable Label := (tree.part "value").map label

/-- What the name of a tree says. -/
def name (tree : RawTree) : Readable Label := do (← tree.part "name").value

/-- The items of a place that holds a list. Those of a text are its characters. -/
def items : RawTree → Readable (List RawTree)
  | .list items => .ok items
  | .text word => .ok (word.toList.map fun c => .text (String.singleton c))
  | other => .error (.unlisted other.found)

/-- The items of a place that may be empty. -/
def itemsIfAny (tree : RawTree) : Readable (List RawTree) :=
  if tree.isBlank then .ok [] else tree.items

end RawTree

end QuerySchema.GraphQL
