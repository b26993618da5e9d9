import QuerySchema.Decimal.Literal
import QuerySchema.Text.Hex
import QuerySchema.Text.Identifier

/-!
Reading regular expressions: the pieces of a pattern and what is known while it is read.

A pattern is a sequence of characters and of backslashes with the character behind them. Beside the
pieces that are left, the state of reading holds the groups, which are open or closed, since a back
reference needs a closed one; the least and the greatest length of what a part can match, since a
part that looks behind needs one length; and the flags that hold for the whole pattern.
-/

namespace QuerySchema.Draft06

open Decimal Text

/-- Why a text is no regular expression that can be used. -/
inductive PatternFault where
  /-- It is not well formed. -/
  | malformed
  /-- A repetition count is too large. -/
  | repetitionTooLarge
  /-- A repetition count has too many digits. -/
  | tooManyDigits (count : Nat)
  /-- Two flags for the whole pattern exclude each other. -/
  | incompatibleFlags
  /-- A part looks too far behind. -/
  | looksTooFar
  deriving DecidableEq, Repr

/-- What is said about a pattern that cannot be used. -/
def PatternFault.message : PatternFault → String
  | .malformed => "malformed pattern"
  | .repetitionTooLarge => "the repetition number is too large"
  | .tooManyDigits count => (LiteralError.tooManyDigits count).message
  | .incompatibleFlags => "ASCII and UNICODE flags are incompatible"
  | .looksTooFar => "invalid SRE code"

namespace Pattern

/-- A piece of a pattern: a character, or a backslash together with the character behind it. -/
inductive Piece where
  | plain (c : Char)
  | escaped (c : Char)
  /-- A backslash at the very end. -/
  | dangling
  deriving DecidableEq, Repr

/-- The pieces of a pattern. -/
def pieces : List Char → List Piece
  | [] => []
  | ['\\'] => [.dangling]
  | '\\' :: c :: rest => .escaped c :: pieces rest
  | c :: rest => .plain c :: pieces rest

/-- The characters of a piece. -/
def Piece.chars : Piece → List Char
  | .plain c => [c]
  | .escaped c => ['\\', c]
  | .dangling => ['\\']

/-- The least and the greatest length of what a part matches. -/
structure Width where
  least : Nat
  greatest : Nat
  deriving DecidableEq, Repr

namespace Width

/-- The width of what matches no character. -/
def empty : Width := ⟨0, 0⟩

/-- The width of what matches one character. -/
def one : Width := ⟨1, 1⟩

/-- The largest length that is told apart from those without a bound. -/
def largest : Nat := 0xFFFFFFFE

/-- A width within the lengths that are told apart: every greatest length above the largest one
counts as one without a bound, which no least length is. -/
def clipped (a : Width) : Width := ⟨min a.least largest, min a.greatest (largest + 1)⟩

/-- The width of one part behind another. -/
def add (a b : Width) : Width := clipped ⟨a.least + b.least, a.greatest + b.greatest⟩

/-- The width of one part or another. -/
def either (a b : Width) : Width := ⟨min a.least b.least, max a.greatest b.greatest⟩

/-- The width of a repeated part; without an upper count there is no bound. -/
def repeated (a : Width) (least : Nat) (greatest : Option Nat) : Width :=
  clipped ⟨a.least * least, a.greatest * greatest.getD (largest + 1)⟩

/-- Whether all matches of a part have one length, so that they can be looked for behind a place. -/
def isFixed (a : Width) : Bool := a.least == a.greatest

/-- Whether a part is looked for too far behind a place. -/
def isTooFar (a : Width) : Bool := 0x80000000 ≤ a.least

end Width

/-- The flags of a pattern. -/
inductive Flag where
  | ignoreCase
  | locale
  | multiLine
  | dotAll
  | verbose
  | ascii
  | template
  | unicode
  deriving DecidableEq, Repr

/-- The flag of a letter. -/
def flag? : Char → Option Flag
  | 'i' => some .ignoreCase
  | 'L' => some .locale
  | 'm' => some .multiLine
  | 's' => some .dotAll
  | 'x' => some .verbose
  | 'a' => some .ascii
  | 't' => some .template
  | 'u' => some .unicode
  | _ => none

/-- Whether a flag chooses the alphabet. -/
def Flag.isAlphabet : Flag → Bool
  | .locale | .ascii | .unicode => true
  | _ => false

/-- What has been found out while reading. -/
structure State where
  rest : List Piece
  /-- The widths of the groups, the first one first; an open group has none yet. -/
  groups : List (Option Width)
  names : List (List Char × Nat)
  /-- The number of groups, counting the whole pattern, when the outermost part that looks behind
  was entered. -/
  behindFrom : Option Nat
  /-- The groups that conditions refer to by number. -/
  conditions : List Nat
  flags : List Flag
  /-- Some part that looks behind has no fixed width. -/
  behindVaries : Bool
  /-- Some part looks too far behind. -/
  behindTooFar : Bool
  /-- Some part is repeated. -/
  repeats : Bool

/-- A rule for reading a part. -/
abbrev Rule (α : Type) := StateT State (Except PatternFault) α

/-- Refuses the pattern for its form. -/
def malformed {α : Type} : Rule α := throw .malformed

/-- Refuses what starts with a backslash at the very end. -/
def settle : List Piece → Except PatternFault (List Piece)
  | .dangling :: _ => .error .malformed
  | rest => .ok rest

/-- The current piece. -/
def peek : Rule (Option Piece) := return (← get).rest.head?

/-- Goes on with the given pieces. -/
def continueAt (rest : List Piece) : Rule Unit := do
  let settled ← settle rest
  modify fun s => { s with rest := settled }

/-- Moves to the next piece. -/
def advance : Rule Unit := do continueAt ((← get).rest.drop 1)

/-- Takes the current piece. -/
def take : Rule (Option Piece) := do
  let piece ← peek
  advance
  return piece

/-- Takes a character if it is the current piece. -/
def accept (c : Char) : Rule Bool := do
  if (← peek) == some (.plain c) then
    advance
    return true
  else return false

/-- Takes a character that has to come here. -/
def expect (c : Char) : Rule Unit := do
  if ← accept c then return () else malformed

/-- The pieces behind the next occurrence of a character, and what stands before it; none when it
does not occur. -/
def splitAt (close : Char) : List Piece → Except PatternFault (Option (List Char × List Piece))
  | [] => .ok none
  | .dangling :: _ => .error .malformed
  | piece :: rest =>
    if piece = .plain close then (settle rest).map fun settled => some ([], settled)
    else (splitAt close rest).map fun found =>
      found.map fun split => (piece.chars ++ split.1, split.2)

/-- Takes what stands before a closing character, and the character; it must not be empty. -/
def textUntil (close : Char) : Rule (List Char) := do
  match ← splitAt close (← get).rest with
  | none => malformed
  | some (text, rest) =>
    modify fun s => { s with rest }
    if text.isEmpty then malformed else return text

/-- Takes up to `n` characters of a class. -/
def takeUpTo (belongs : Char → Bool) : (n : Nat) → Rule (List Char)
  | 0 => return []
  | n + 1 => do
    match ← peek with
    | some (.plain c) =>
      if belongs c then
        advance
        return c :: (← takeUpTo belongs n)
      else return []
    | _ => return []

/-- Whether a character is an octal digit. -/
def isOctal (c : Char) : Bool := '0' ≤ c && c ≤ '7'

/-- The number of some digits in a base. -/
def numberIn (base : Nat) (digits : List Char) : Nat :=
  digits.foldl (fun n c => n * base + (hexValue? c).getD 0) 0

/-! ## Groups -/

/-- How many groups there are, counting the whole pattern. -/
def groupCount : Rule Nat := return (← get).groups.length + 1

/-- Whether a group is closed. -/
def isClosed (group : Nat) : Rule Bool := do
  match (← get).groups[group - 1]? with
  | some (some _) => return group != 0
  | _ => return false

/-- Opens a group, perhaps with a name that no other group has. -/
def openGroup (name : Option (List Char)) : Rule Nat := do
  let group ← groupCount
  match name with
  | none => modify fun s => { s with groups := s.groups ++ [none] }
  | some text =>
    if ((← get).names.lookup text).isSome then malformed
    else modify fun s =>
      { s with groups := s.groups ++ [none], names := (text, group) :: s.names }
  return group

/-- Closes a group. -/
def closeGroup (group : Nat) (width : Width) : Rule Unit :=
  modify fun s => { s with groups := s.groups.set (group - 1) (some width) }

/-- Refuses a reference, inside a part that looks behind, to a group that is open or belongs to
that part. -/
def checkBehind (group : Nat) : Rule Unit := do
  match (← get).behindFrom with
  | none => return ()
  | some first => if !(← isClosed group) || first ≤ group then malformed else return ()

/-- The width of a group that is referred to; it has to be closed. -/
def referTo (group : Nat) : Rule Width := do
  if ← isClosed group then
    checkBehind group
    return ((← get).groups[group - 1]?.join).getD .empty
  else malformed

end Pattern

end QuerySchema.Draft06
