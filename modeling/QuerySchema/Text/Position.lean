/-!
Places in a text, counted in characters.

A place is known by its offset from the start. `Position.at` gives the line and the column that
belong to an offset when lines end at a line feed, and `linesOf` gives the lines themselves.
`unifyLineEnds` turns the other two line ends, carriage return and carriage return with line feed,
into line feeds.
-/

namespace QuerySchema.Text

/-- A place in a text: line and column count from one, the offset from zero. -/
structure Position where
  line : Nat
  column : Nat
  offset : Nat
  deriving DecidableEq, Repr

/-- The place at an offset, lines ending at a line feed. -/
def Position.at (cs : List Char) (offset : Nat) : Position :=
  let before := cs.take offset
  let lastLine := before.reverse.takeWhile (· != '\n')
  ⟨before.count '\n' + 1, lastLine.length + 1, offset⟩

/-- The lines of a text, each of which ends at a line feed or where the text ends. -/
def linesOf (text : String) : List String := (text.toList.splitOn '\n').map String.ofList

/-- Every line end as a line feed. -/
def unifyLineEnds : List Char → List Char
  | [] => []
  | '\r' :: '\n' :: rest => '\n' :: unifyLineEnds rest
  | '\r' :: rest => '\n' :: unifyLineEnds rest
  | c :: rest => c :: unifyLineEnds rest

end QuerySchema.Text
