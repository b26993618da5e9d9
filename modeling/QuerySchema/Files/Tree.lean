import QuerySchema.Keyed

/-!
Files and folders.

A tree is a file with its bytes or a folder with its entries, in the order in which they are
listed. A place in a tree is the list of names that lead to it from the top.
-/

namespace QuerySchema.Files

/-- A file, or a folder with what is in it. -/
inductive Tree where
  | file (bytes : List UInt8)
  | folder (entries : List (String × Tree))
  deriving Repr

namespace Tree

/-- Whether a tree is a folder. -/
def isFolder : Tree → Bool
  | .folder _ => true
  | .file _ => false

/-- What stands under a name in a folder. -/
def entry? (tree : Tree) (name : String) : Option Tree :=
  match tree with
  | .folder entries => Keyed.get? entries name
  | .file _ => none

/-- What stands at a place. -/
def find? (tree : Tree) : List String → Option Tree
  | [] => some tree
  | name :: rest => (tree.entry? name).bind fun below => below.find? rest

/-- Whether a file stands at a place or on the way to it. -/
def isBlocked (tree : Tree) : List String → Bool
  | [] => !tree.isFolder
  | name :: rest =>
    !tree.isFolder || (tree.entry? name).any fun below => below.isBlocked rest

/-- Puts a tree at a place, with the folders that lead to it. -/
def put : (place : List String) → (added tree : Tree) → Tree
  | [], added, _ => added
  | name :: rest, added, .folder entries =>
    .folder (Keyed.put entries name
      (put rest added ((Keyed.get? entries name).getD (.folder []))))
  | name :: rest, added, .file _ => .folder [(name, put rest added (.folder []))]

/-- A place is found by way of another one. -/
theorem find?_append (tree : Tree) (place rest : List String) :
    tree.find? (place ++ rest) = (tree.find? place).bind fun below => below.find? rest := by
  induction place generalizing tree with
  | nil => rfl
  | cons name place ih =>
    rw [List.cons_append, find?, find?, Option.bind_assoc]
    exact congrArg _ (funext ih)

end Tree

end QuerySchema.Files
