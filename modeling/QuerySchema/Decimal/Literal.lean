import QuerySchema.Decimal.Binary64
import QuerySchema.Text.Blank
import QuerySchema.Text.DecimalDigit
import QuerySchema.Text.Quoted

/-!
Numbers read from hand-written text.

Both readers accept decimal digits of any script, blanks around the number, a sign, and single
underscores between digits. An integer may have at most 4300 digits. A number may have a fraction
and an exponent, or be one of the words for infinity and for a missing value.
-/

namespace QuerySchema.Decimal

open QuerySchema.Text

/-- Why a text is not a number. -/
inductive LiteralError where
  /-- The text is no integer. -/
  | notInteger (text : String)
  /-- The integer has more digits than the limit allows. -/
  | tooManyDigits (count : Nat)
  /-- The text is no number. -/
  | notNumber (text : String)
  deriving DecidableEq, Repr

/-- The greatest number of digits of an integer. -/
def digitLimit : Nat := 4300

/-- What is said about a text that is not a number. The text of a refused integer is shown up to
its two hundredth character, quote included. -/
def LiteralError.message : LiteralError → String
  | .notInteger text =>
    "invalid literal for int() with base 10: " ++
      String.ofList ((quotedChars text.toList).take 200)
  | .tooManyDigits count =>
    "Exceeds the limit (" ++ toString digitLimit ++ " digits) for integer string conversion: " ++
      "value has " ++ toString count ++ " digits; use sys.set_int_max_str_digits() to increase " ++
      "the limit"
  | .notNumber text => "could not convert string to float: " ++ quoted text

/-- Whether a character is an ASCII digit. -/
def isDigit (c : Char) : Bool := '0' ≤ c && c ≤ '9'

/-- The value of a list of ASCII digits. -/
def digitsValue (cs : List Char) : Nat := cs.foldl (fun n c => 10 * n + (c.toNat - 0x30)) 0

/-- A text with its digits in ASCII, and the blanks beyond ASCII as spaces. -/
def toAscii (cs : List Char) : List Char :=
  cs.map fun c =>
    if c.toNat < 0x80 then c
    else match digitValue? c with
      | some value => asciiDigit value
      | none => if isBlank c then ' ' else c

/-- Splits off a sign: whether it was a minus, and the rest. -/
def takeSign : List Char → Bool × List Char
  | '-' :: rest => (true, rest)
  | '+' :: rest => (false, rest)
  | cs => (false, cs)

/-- Whether every underscore stands between two digits. `before` is the character in front. -/
def underscoresBetween : (before : Char) → List Char → Bool
  | before, [] => before != '_'
  | before, c :: rest =>
    (if c = '_' then isDigit before else before != '_' || isDigit c) && underscoresBetween c rest

/-- An integer. The digits are counted before what follows them is looked at. -/
def readInteger (text : String) : Except LiteralError Int :=
  let (negative, body) := takeSign ((toAscii text.toList).dropWhile isAsciiBlank)
  let run := body.takeWhile fun c => isDigit c || c == '_'
  let digits := run.filter isDigit
  if run.isEmpty || !underscoresBetween ' ' run then .error (.notInteger text)
  else if digitLimit < digits.length then .error (.tooManyDigits digits.length)
  else if (body.drop run.length).all isAsciiBlank then
    .ok (if negative then -(digitsValue digits : Int) else digitsValue digits)
  else .error (.notInteger text)

/-- The exponent after a mantissa: `e` or `E`, an optional sign, at least one digit. -/
def readExponent : List Char → Option Int
  | [] => some 0
  | mark :: rest =>
    let (negative, digits) := takeSign rest
    if (mark == 'e' || mark == 'E') && !digits.isEmpty && digits.all isDigit then
      some (if negative then -(digitsValue digits : Int) else digitsValue digits)
    else none

/-- Digits with an optional fraction and an optional exponent; a digit on one side of the point is
enough. -/
def readDecimal (cs : List Char) : Option Scientific :=
  let whole := cs.takeWhile isDigit
  let afterWhole := cs.drop whole.length
  let (places, rest) := match afterWhole with
    | '.' :: more => (more.takeWhile isDigit, more.dropWhile isDigit)
    | _ => ([], afterWhole)
  if whole.isEmpty && places.isEmpty then none
  else (readExponent rest).map fun exponent =>
    ⟨digitsValue (whole ++ places), exponent - (places.length : Int)⟩

/-- An unsigned number: a decimal or one of the words, in any case. -/
def readUnsigned (negative : Bool) (cs : List Char) : Option Binary64 :=
  let word := String.ofList (cs.map Char.toLower)
  if word = "inf" ∨ word = "infinity" then some (.infinite negative)
  else if word = "nan" then some .nan
  else (readDecimal cs).map (Binary64.ofScientific negative)

/-- A number, rounded once to the binary64 format. -/
def readNumber (text : String) : Except LiteralError Binary64 :=
  let trimmed := stripChars isAsciiBlank (toAscii text.toList)
  let plain := trimmed.filter (· != '_')
  let (negative, body) := takeSign plain
  match if trimmed.contains '_' && !underscoresBetween ' ' trimmed then none
      else readUnsigned negative body with
  | some x => .ok x
  | none => .error (.notNumber text)

end QuerySchema.Decimal
