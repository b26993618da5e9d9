/-!
Names of consecutive characters.

Most characters share words with the one before them, so a run of names is written as what changes.
`NameRun.find?` goes through a run, name by name, and finds the character that has a given one.
-/

namespace QuerySchema.Text.CharacterName

/-- Names of consecutive characters. The lines have one item for each, with semicolons between them:
two digits and words. A name consists of so many of the first words of the name before it, of these
words, and of so many of the last words of the name before it. An empty item stands for a character
that has no name here. -/
structure NameRun where
  /-- The code of the first character. -/
  first : Nat
  lines : List String
  deriving Repr

/-- The words of a text, with a space between any two. -/
def wordsOf (text : String) : List String := if text = "" then [] else text.splitOn " "

/-- The value of a digit. -/
def sharedCount (c : Char) : Nat := c.toNat - '0'.toNat

/-- The words of the name that an item gives behind another name; none for an empty item. -/
def nameOfItem? (before : List String) (item : String) : Option (List String) :=
  match item.toList with
  | front :: back :: words =>
    some (before.take (sharedCount front) ++ wordsOf (String.ofList words) ++
      before.drop (before.length - sharedCount back))
  | _ => none

/-- The character among those from a code on whose name has the given words. -/
def findAmong? (wanted : List String) : (code : Nat) → (before items : List String) → Option Nat
  | _, _, [] => none
  | code, before, item :: rest =>
    match nameOfItem? before item with
    | none => findAmong? wanted (code + 1) before rest
    | some name =>
      if name == wanted then some code else findAmong? wanted (code + 1) name rest

/-- The character of a run with a given name. -/
def NameRun.find? (run : NameRun) (name : String) : Option Nat :=
  findAmong? (wordsOf name) run.first [] (run.lines.flatMap (·.splitOn ";"))

end QuerySchema.Text.CharacterName
