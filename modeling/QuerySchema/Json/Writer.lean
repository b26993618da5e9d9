import QuerySchema.Decimal.Shortest
import QuerySchema.Json.Value
import QuerySchema.Text.Quoted

/-!
JSON text in ASCII.

Every character outside the printable ASCII range is written as an escape with four lower-case
hexadecimal digits, a character above U+FFFF as two of them. A value is written on one line, or,
given an indentation, with one item per line; a negative indentation breaks lines and indents
nothing. JSON has no text for infinities and for a missing number, so a value that holds one is
refused. So is an indentation that is no signed number of 64 bits.
-/

namespace QuerySchema.Json

open Decimal Text

/-- How a value is broken into lines. -/
structure Style where
  /-- What stands in front of an item, or of a closing bracket, at a nesting level. -/
  lineBreak : (level : Nat) → List Char
  /-- What stands between an item and the line break of the next. -/
  separator : List Char

/-- Everything on one line, or one item per line indented by a number of spaces per level. -/
def Style.ofIndent : Option Int → Style
  | none => ⟨fun _ => [], [',', ' ']⟩
  | some width => ⟨fun level => '\n' :: List.replicate (width.toNat * level) ' ', [',']⟩

/-- A sixteen-bit unit as an escape. -/
def unitEscape (n : Nat) : List Char := '\\' :: 'u' :: hexDigits 4 n

/-- A character inside a JSON string. -/
def stringChar (c : Char) : List Char :=
  if c = '"' then ['\\', '"']
  else if c = '\\' then ['\\', '\\']
  else if c = '\n' then ['\\', 'n']
  else if c = '\r' then ['\\', 'r']
  else if c = '\t' then ['\\', 't']
  else if c = '\x0c' then ['\\', 'f']
  else if c = '\x08' then ['\\', 'b']
  else if 0x20 ≤ c.toNat && c.toNat ≤ 0x7E then [c]
  else if c.toNat < 0x10000 then unitEscape c.toNat
  else unitEscape (unitPair c).1 ++ unitEscape (unitPair c).2

/-- A text as a JSON string. -/
def stringText (text : String) : List Char :=
  '"' :: (text.toList.flatMap stringChar ++ ['"'])

/-- An integer in base ten. -/
def intText (n : Int) : List Char :=
  if n < 0 then '-' :: decimalDigits n.natAbs else decimalDigits n.natAbs

/-- A number; the three values without a JSON text have the words that readers of JSON accept. -/
def floatText : Binary64 → List Char
  | .infinite negative => if negative then "-Infinity".toList else "Infinity".toList
  | .nan => "NaN".toList
  | x => x.text

mutual
/-- The text of a value that stands at a nesting level. -/
def written (style : Style) (level : Nat) : Json → List Char
  | .null => "null".toList
  | .bool true => "true".toList
  | .bool false => "false".toList
  | .int n => intText n
  | .float x => floatText x
  | .string text => stringText text
  | .array [] => ['[', ']']
  | .array (item :: rest) =>
    '[' :: (style.lineBreak (level + 1) ++ written style (level + 1) item ++
      writtenItems style (level + 1) rest ++ style.lineBreak level ++ [']'])
  | .object [] => ['\x7b', '\x7d']
  | .object ((name, value) :: rest) =>
    '\x7b' :: (style.lineBreak (level + 1) ++ stringText name ++ [':', ' '] ++
      written style (level + 1) value ++ writtenMembers style (level + 1) rest ++
      style.lineBreak level ++ ['\x7d'])
/-- The items after the first, each behind a separator. -/
def writtenItems (style : Style) (level : Nat) : List Json → List Char
  | [] => []
  | item :: rest =>
    style.separator ++ style.lineBreak level ++ written style level item ++
      writtenItems style level rest
/-- The members after the first, each behind a separator. -/
def writtenMembers (style : Style) (level : Nat) : List (String × Json) → List Char
  | [] => []
  | (name, value) :: rest =>
    style.separator ++ style.lineBreak level ++ stringText name ++ [':', ' '] ++
      written style level value ++ writtenMembers style level rest
end

/-- Why a value has no JSON text. -/
inductive WriteError where
  /-- It holds a number that is not finite; the number is named when lines are broken. -/
  | outOfRange (shown : Option Binary64)
  /-- The indentation is no signed number of 64 bits. -/
  | indentTooLarge
  deriving DecidableEq, Repr

/-- What is said about a value without a JSON text. -/
def WriteError.message : WriteError → String
  | .outOfRange none => "Out of range float values are not JSON compliant"
  | .outOfRange (some x) =>
    "Out of range float values are not JSON compliant: " ++ String.ofList x.text
  | .indentTooLarge => "cannot fit 'int' into an index-sized integer"

/-- Why no value can be written with an indentation: it has to be a signed number of 64 bits. How
long a line the machine has room for is not asked here. -/
def indentError? : Option Int → Option WriteError
  | none => none
  | some width =>
    if width < -0x8000000000000000 || 0x8000000000000000 ≤ width then some .indentTooLarge
    else none

/-- Whether a value is a text: it is written without regard to the indentation. -/
def isString : Json → Bool
  | .string _ => true
  | _ => false

/-- The text of a value, on one line or with an indentation. -/
def toText (indent : Option Int) (value : Json) : Except WriteError String :=
  match if value.isString then none else indentError? indent with
  | some e => .error e
  | none =>
    match value.firstNonFinite with
    | some x => .error (.outOfRange (indent.map fun _ => x))
    | none => .ok (String.ofList (written (Style.ofIndent indent) 0 value))

end QuerySchema.Json
